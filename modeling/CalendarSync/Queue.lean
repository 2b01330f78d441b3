import CalendarSync.Outcome
import CalendarSync.Program
import CalendarSync.Status

/-!
# The queue

Proposing attempts: a create or an update when the calendar has moved, and a delete when an event
goes away. A delete is proposed only for an item that the Planner holds; otherwise what is still
pending is withdrawn.
-/

namespace CalendarSync.Queue
set_option autoImplicit false

/-- Reads an event with its history. -/
def load (id : Uuid) : Service Event := do
  match ← Service.storage (.request (.getEvent id)) with
  | none => throw (.notFound s!"calendar event {id.text}")
  | some event =>
    let attempts ← Service.storage (.request (.attemptsOf id))
    return { event with attempts }

/-- The status of an event against the window now seen. -/
def status (id : Uuid) (seen : Window) : Service Status :=
  return (← load id).status seen

/-- Proposes a create or an update if the event's status calls for one. -/
def proposeIfStale (id : Uuid) (seen : Window) : Service (Option Attempt) := do
  let event ← load id
  match (event.status seen).nextOperation? with
  | none => return none
  | some operation =>
    let createdAt ← Service.now
    let attempt := Attempt.pending (← Service.freshId) event.id operation seen createdAt
    Service.storage (.request (.insertAttempt attempt))
    return some attempt

/-- Some attempt left an item in the Planner. -/
def isHeld (history : List Attempt) : Bool :=
  history.any fun a =>
    match a.outcome with
    | .ok outcome => outcome.isEffectiveSuccess
    | .error _ => false

/-- Closes attempts without asking the Planner. -/
def withdraw (completion : Completion) : List Attempt → Service Unit
  | [] => return ()
  | attempt :: rest => do
    Service.storage (.request (.completeAttempt attempt.id completion))
    withdraw completion rest

/-- Flags an event as deleted and proposes its delete, or withdraws what is pending. -/
def delete (id : Uuid) : Service (Option Attempt) := do
  let event ← load id
  if event.isDeleted then return none
  Service.storage (.request (.saveEvent event.markDeleted))
  match Attempt.latest? event.attempts with
  | none => return none
  | some latest =>
    if isHeld event.attempts then
      let createdAt ← Service.now
      let attempt := latest.again (← Service.freshId) .delete createdAt
      Service.storage (.request (.insertAttempt attempt))
      return some attempt
    else
      let completion := Completion.withdrawn (← Service.now)
      withdraw completion (event.attempts.filter (·.isPending))
      return none

end CalendarSync.Queue
