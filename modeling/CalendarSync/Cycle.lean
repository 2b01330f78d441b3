import CalendarSync.Batch
import CalendarSync.Outcome
import CalendarSync.Program

/-!
# Cycles

One cycle sends a department's pending attempts: the groups of a batch go out one after the other,
each answer is recorded, transient failures are proposed again, and superseded updates are closed
with the outcome of the update that replaced them. A failed group is reported and its attempts stay
pending; a shutdown ends the cycle.
-/

namespace CalendarSync
set_option autoImplicit false

/-- A group whose call failed as a whole. -/
structure GroupFailure where
  operation : Operation
  attempts : Nat
  error : DomainError
deriving DecidableEq

/-- What a cycle did for its department. -/
structure CycleReport where
  department : String
  /-- Attempts in groups that the Planner answered. -/
  sent : Nat
  /-- Creates whose item existed count as well. -/
  succeeded : Nat
  /-- Transient failures that were proposed again. -/
  resent : Nat
  fatal : Nat
  plannerOriginated : Nat
  /-- Updates closed with the outcome of the update that replaced them. -/
  superseded : Nat
  /-- Creates beyond the cap. -/
  deferredCreates : Nat
  /-- Sent attempts without an answer. -/
  unanswered : Nat
  /-- Events whose update met an item that is gone. -/
  missing : List Uuid
  /-- Attempts that failed with a code of unknown meaning. -/
  unclassified : List Uuid
  failedGroups : List GroupFailure
deriving DecidableEq

/-- The report of a cycle that has done nothing yet. -/
def CycleReport.empty (department : String) : CycleReport :=
  ⟨department, 0, 0, 0, 0, 0, 0, 0, 0, [], [], []⟩

namespace Cycle

/-- How far a cycle has come: its report and the outcomes it recorded, the last one first. -/
structure Progress where
  report : CycleReport
  recorded : List (Uuid × Completion)

/-- Sends a group and keeps a record of the call. Answers the call's identifier and the results. -/
def sendGroup (policy : CallPolicy) (operation : Operation) (group : List Attempt) :
    Program (Except DomainError (Uuid × List ItemResult)) := do
  let correlation := (← .request .freshId).text
  let startedAt ← .request .now
  let call := Call.start (← .request .freshId) operation correlation startedAt
  match ← .request (.insertCall call) with
  | .error e => return .error e
  | .ok () =>
    let answer ← policy.perform operation.callLabel
      (.request (.send operation group correlation policy.limit))
    let endedAt ← .request .now
    match answer with
    | .ok results =>
      let _ ← .request (.updateCall
        (call.finish true (some s!"{results.length} item results") endedAt))
      return .ok (call.id, results)
    | .error e =>
      let _ ← .request (.updateCall (call.finish false (some e.message) endedAt))
      return .error e

/-- Counts the outcome of an answered attempt, and proposes it again after a transient failure. -/
def count (answered : Attempt) (report : CycleReport) : Program CycleReport :=
  match answered.outcome with
  | .error _ => return report
  | .ok .succeeded | .ok .createdBefore => return { report with succeeded := report.succeeded + 1 }
  | .ok .missingInPlanner => return { report with missing := report.missing ++ [answered.event] }
  | .ok (.plannerOriginated _) =>
    return { report with plannerOriginated := report.plannerOriginated + 1 }
  | .ok (.fatal _) => return { report with fatal := report.fatal + 1 }
  | .ok (.transient _) => do
    let createdAt ← .request .now
    let resend := answered.again (← .request .freshId) answered.operation createdAt
    match ← .request (.insertAttempt resend) with
    | .ok () => return { report with resent := report.resent + 1 }
    | .error _ => return report
  | .ok (.unclassified _) =>
    return { report with unclassified := report.unclassified ++ [answered.id] }

/-- Records the answer for one attempt of a group. -/
def recordOne (call : Uuid) (results : List ItemResult) (syncedAt : Timestamp)
    (progress : Progress) (attempt : Attempt) : Program Progress :=
  match ItemResult.lastFor? results attempt.id with
  | none =>
    return { progress with
      report := { progress.report with unanswered := progress.report.unanswered + 1 } }
  | some result => do
    let completion := result.completion syncedAt call
    match ← .request (.completeAttempt attempt.id completion) with
    | .error _ => return progress
    | .ok () =>
      let report ← count (attempt.complete completion) progress.report
      return ⟨report, (attempt.id, completion) :: progress.recorded⟩

/-- Records the answers for a group. -/
def record (call : Uuid) (group : List Attempt) (results : List ItemResult)
    (progress : Progress) : Program Progress := do
  let syncedAt ← .request .now
  group.foldlM (recordOne call results syncedAt) progress

/-- Closes one superseded update, if the outcome of its successor was recorded. -/
def closeOne (batch : Batch) (progress : Progress) (attempt : Attempt) : Program Progress :=
  match (batch.winner? attempt).bind fun winner => progress.recorded.lookup winner.id with
  | none => return progress
  | some completion => do
    match ← .request (.completeAttempt attempt.id completion) with
    | .error _ => return progress
    | .ok () =>
      return { progress with
        report := { progress.report with superseded := progress.report.superseded + 1 } }

/-- Closes the superseded updates of the queue. -/
def closeSuperseded (queue : List Attempt) (batch : Batch) (progress : Progress) :
    Program Progress :=
  (queue.filter fun a => batch.superseded.contains a.id).foldlM (closeOne batch) progress

/-- Sends the groups one after the other. Superseded updates are closed right after their group,
for a shutdown may keep the next group from being sent. -/
def sendGroups (policy : CallPolicy) (queue : List Attempt) (batch : Batch) :
    List (Operation × List Attempt) → Progress → Service CycleReport
  | [], progress => return progress.report
  | (operation, group) :: rest, progress => do
    match ← ExceptT.lift (sendGroup policy operation group) with
    | .ok (call, results) =>
      let report := { progress.report with sent := progress.report.sent + group.length }
      let progress ← ExceptT.lift (record call group results { progress with report })
      let progress ←
        if operation = .update then ExceptT.lift (closeSuperseded queue batch progress)
        else pure progress
      sendGroups policy queue batch rest progress
    | .error e =>
      if e.isShutdown then throw e
      else
        let failed := progress.report.failedGroups ++ [⟨operation, group.length, e⟩]
        sendGroups policy queue batch rest
          { progress with report := { progress.report with failedGroups := failed } }

/-- Runs one cycle for a department, with at most `maxCreates` creates. -/
def run (policy : CallPolicy) (maxCreates : Nat) (department : String) : Service CycleReport := do
  let queue ← Service.storage (.request (.pendingAttempts department))
  let batch := Batch.build queue maxCreates
  let creates := queue.filter fun a => a.isPending && a.operation == .create
  let report := { CycleReport.empty department with
    deferredCreates := creates.length - batch.creates.length }
  sendGroups policy queue batch batch.groups ⟨report, []⟩

end Cycle
end CalendarSync
