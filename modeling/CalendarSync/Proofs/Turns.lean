import CalendarSync.Proofs.Footprint
import CalendarSync.Proofs.Once
import CalendarSync.Proofs.Settlement
import CalendarSync.Proofs.Tries

/-!
# The turns of a cycle

A cycle gives each group its turn: the call of the group is made, and what the Planner answers is
recorded. A turn that is refused is noted in the report and the next one follows; only a call that a
shutdown aborts ends the cycle. Here a cycle is taken apart into its turns, whatever the storage
does.
-/

namespace CalendarSync
set_option autoImplicit false
open Program Simulation

variable {s after : Store} {t : List Moment}

/-! ## Aborted calls -/

/-- A shutdown shows in the trace. -/
def Stops (t : List Moment) : Prop :=
  ∃ m ∈ t, ¬ m.Running

theorem not_stops_iff : ¬ Stops t ↔ ∀ m ∈ t, m.Running := by
  simp [Stops]

@[simp] theorem Moment.running_isCancelled {token : Token} {cancelled : Bool} :
    Running ⟨s, .isCancelled token, cancelled⟩ ↔ cancelled = false := Iff.rfl

@[simp] theorem Moment.running_pause {token : Token} {policy : Backoff} {retry : Nat} {cut : Bool} :
    Running ⟨s, .pause token policy retry, cut⟩ ↔ cut = false := Iff.rfl

theorem not_stops_of_internal (internal : ∀ m ∈ t, m.request.isInternal = true) : ¬ Stops t := by
  rw [not_stops_iff]
  rintro ⟨store, request, answer⟩ mem
  have here := internal _ mem
  cases request with
  | isCancelled token => cases here
  | pause policy retry => cases here
  | _ => trivial

@[simp] theorem stops_nil : ¬ Stops [] := by
  simp [Stops]

theorem stops_cons {m : Moment} : Stops (m :: t) ↔ ¬ m.Running ∨ Stops t := by
  simp [Stops]

theorem stops_append {t' : List Moment} : Stops (t ++ t') ↔ Stops t ∨ Stops t' := by
  simp [Stops, or_and_right, exists_or]

theorem RetryFailure.isShutdown_toDomain {label : String} (f : RetryFailure PlannerError) :
    (f.toDomain label).isShutdown = f.isShutdown := by
  cases f <;> rfl

section Calls
variable {ε α : Type} {made : Store → Except ε α → Moment} {token : Token} {b : Backoff}
  {isBusy : ε → Bool} {call : Program (Except ε α)}

/-- A shutdown that a call meets aborts it, and nothing else does. -/
theorem Program.Makes.aborted_iff (makes : Makes made call)
    (running : ∀ s answer, (made s answer).Running) (before more : Nat)
    {result : Except (RetryFailure ε) α}
    (run : Runs (Retry.attempt (.ofBackoff token b) isBusy call before more) s t result after) :
    (∃ attempts, result = .error (.aborted attempts)) ↔ Stops t := by
  induction more generalizing before s t with
  | zero =>
    rw [Retry.attempt] at run
    obtain ⟨cancelled, _, _, rfl, rfl, run₁⟩ := runs_request_bind_iff.1 run
    cases cancelled with
    | true =>
      obtain ⟨rfl, rfl, -⟩ := runs_pure_iff.1 run₁
      simp [stops_cons]
    | false =>
      obtain ⟨answer, _, first, rest, rfl, called, run₂⟩ := runs_bind_iff.1 run₁
      obtain ⟨-, rfl⟩ := makes _ _ _ _ called
      have ends : rest = [] ∧ ¬ ∃ attempts, result = .error (.aborted attempts) := by
        cases answer with
        | ok value =>
          obtain ⟨rfl, rfl, -⟩ := runs_pure_iff.1 run₂
          simp
        | error e =>
          obtain ⟨rfl, rfl, -⟩ := runs_pure_iff.1 run₂
          refine ⟨rfl, ?_⟩
          cases isBusy e <;> simp
      obtain ⟨rfl, ends⟩ := ends
      simp [stops_cons, ends, running]
  | succ more ih =>
    rw [Retry.attempt] at run
    obtain ⟨cancelled, _, _, rfl, rfl, run₁⟩ := runs_request_bind_iff.1 run
    cases cancelled with
    | true =>
      obtain ⟨rfl, rfl, -⟩ := runs_pure_iff.1 run₁
      simp [stops_cons]
    | false =>
      obtain ⟨answer, _, first, rest, rfl, called, run₂⟩ := runs_bind_iff.1 run₁
      obtain ⟨rfl, rfl⟩ := makes _ _ _ _ called
      rw [stops_cons, List.singleton_append, stops_cons]
      simp only [Moment.running_isCancelled, running, not_true, false_or]
      cases answer with
      | ok value =>
        obtain ⟨rfl, rfl, -⟩ := runs_pure_iff.1 run₂
        simp
      | error e =>
        cases busy : isBusy e with
        | false =>
          simp only [busy] at run₂
          obtain ⟨rfl, rfl, -⟩ := runs_pure_iff.1 run₂
          simp
        | true =>
          simp only [busy, if_true] at run₂
          obtain ⟨cut, _, _, rfl, rfl, run₃⟩ := runs_request_bind_iff.1 run₂
          cases cut with
          | true =>
            obtain ⟨rfl, rfl, -⟩ := runs_pure_iff.1 run₃
            simp [stops_cons]
          | false =>
            rw [ih (before + 1) run₃, stops_cons]
            simp

/-- A call to the Planner ends with a shutdown error exactly if it meets a shutdown. -/
theorem Program.Makes.perform_iff {made : Store → Except PlannerError α → Moment}
    {call : Program (Except PlannerError α)} (makes : Makes made call)
    (running : ∀ s answer, (made s answer).Running) {policy : CallPolicy} {label : String}
    {answer : Except DomainError α} (run : Runs (policy.perform label call) s t answer after) :
    (∃ e, answer = .error e ∧ e.isShutdown = true) ↔ Stops t := by
  unfold CallPolicy.perform at run
  obtain ⟨tried, middle, first, rest, rfl, run₁, run₂⟩ := runs_bind_iff.1 run
  have known : (∃ attempts, tried = .error (.aborted attempts)) ↔ Stops first := by
    unfold Retry.run at run₁
    split at run₁
    · obtain ⟨rfl, rfl, -⟩ := runs_pure_iff.1 run₁
      simp
    · exact makes.aborted_iff running _ _ run₁
  cases tried with
  | ok value =>
    obtain ⟨rfl, rfl, -⟩ := runs_pure_iff.1 run₂
    rw [List.append_nil, ← known]
    simp
  | error failure =>
    obtain ⟨rfl, rfl, -⟩ := runs_pure_iff.1 run₂
    rw [List.append_nil, ← known]
    cases failure <;> simp [RetryFailure.isShutdown_toDomain, RetryFailure.isShutdown]

end Calls

namespace Cycle
variable {policy : CallPolicy} {op : Operation} {group queue : List Attempt} {b : Batch}

/-- If no failure of the storage is taken for a shutdown, the turn of a group ends with a shutdown
error exactly if its call is aborted. -/
theorem stops_sendGroup {result : Except DomainError (Uuid × List ItemResult)}
    (run : Runs (sendGroup policy op group) s t result after)
    (faults : ∀ m ∈ t, ∀ e, m.fault? = some e → e.isShutdown = false) :
    (∃ e, result = .error e ∧ e.isShutdown = true) ↔ Stops t := by
  unfold sendGroup at run
  obtain ⟨correlation, _, _, rfl, rfl, run₁⟩ := runs_request_bind_iff.1 run
  obtain ⟨startedAt, _, _, rfl, rfl, run₂⟩ := runs_request_bind_iff.1 run₁
  obtain ⟨id, s, _, rfl, rfl, run₃⟩ := runs_request_bind_iff.1 run₂
  obtain ⟨opened, middle, rest, wrote, rfl, run₄⟩ := runs_request_bind_iff.1 run₃
  have keeping : Stops (⟨s, .freshId, correlation⟩ :: ⟨s, .now, startedAt⟩ :: ⟨s, .freshId, id⟩ ::
      ⟨s, .insertCall (.start id op correlation.text startedAt), opened⟩ :: rest) ↔ Stops rest := by
    simp [stops_cons, Moment.Running]
  rw [keeping]
  simp only [List.forall_mem_cons] at faults
  obtain ⟨-, -, -, opening, -⟩ := faults
  cases opened with
  | error e =>
    obtain ⟨rfl, rfl, -⟩ := runs_pure_iff.1 run₄
    have refused : e.isShutdown = false := opening e rfl
    simp [refused]
  | ok u =>
    obtain ⟨reply, _, first, _, rfl, calls, run₅⟩ := runs_bind_iff.1 run₄
    rw [stops_append, ← (makes_send _ _ _ _).perform_iff (fun _ _ => trivial) calls]
    obtain ⟨endedAt, last, more, rfl, rfl, run₆⟩ := runs_request_bind_iff.1 run₅
    cases reply with
    | ok results =>
      obtain ⟨-, rfl, answer, rfl⟩ := runs_finish run₆
      simp [stops_cons, Moment.Running]
    | error e =>
      obtain ⟨-, rfl, answer, rfl⟩ := runs_finish run₆
      simp [stops_cons, Moment.Running]

/-! ## Reports -/

/-- What recording outcomes leaves in a report as it is. -/
def heading (r : CycleReport) : String × List GroupFailure :=
  (r.department, r.failedGroups)

theorem heading_count {a : Attempt} {report result : CycleReport}
    (run : Runs (count a report) s t result after) : heading result = heading report := by
  unfold count at run
  cases outcome : a.outcome with
  | error e =>
    rw [outcome] at run
    rw [(runs_pure_iff.1 run).2.1]
  | ok o =>
    rw [outcome] at run
    cases o with
    | transient code =>
      obtain ⟨createdAt, _, _, -, -, run₁⟩ := runs_request_bind_iff.1 run
      obtain ⟨id, _, _, -, -, run₂⟩ := runs_request_bind_iff.1 run₁
      obtain ⟨answer, _, _, -, -, last⟩ := runs_request_bind_iff.1 run₂
      cases answer with
      | ok u => obtain ⟨-, rfl, -⟩ := runs_pure_iff.1 last; rfl
      | error e => obtain ⟨-, rfl, -⟩ := runs_pure_iff.1 last; rfl
    | _ => rw [(runs_pure_iff.1 run).2.1]; rfl

theorem heading_recordOne {call : Uuid} {results : List ItemResult} {syncedAt : Timestamp}
    {progress next : Progress} {a : Attempt}
    (run : Runs (recordOne call results syncedAt progress a) s t next after) :
    heading next.report = heading progress.report := by
  unfold recordOne at run
  split at run
  · rw [(runs_pure_iff.1 run).2.1]
    rfl
  · obtain ⟨answer, _, _, -, -, run₁⟩ := runs_request_bind_iff.1 run
    cases answer with
    | error e => rw [(runs_pure_iff.1 run₁).2.1]
    | ok u =>
      obtain ⟨report, _, _, _, -, counted, last⟩ := runs_bind_iff.1 run₁
      rw [(runs_pure_iff.1 last).2.1]
      exact heading_count counted

theorem heading_closeOne {progress next : Progress} {a : Attempt}
    (run : Runs (closeOne b progress a) s t next after) :
    heading next.report = heading progress.report := by
  unfold closeOne at run
  split at run
  · rw [(runs_pure_iff.1 run).2.1]
  · obtain ⟨answer, _, _, -, -, last⟩ := runs_request_bind_iff.1 run
    cases answer with
    | ok u => obtain ⟨-, rfl, -⟩ := runs_pure_iff.1 last; rfl
    | error e => obtain ⟨-, rfl, -⟩ := runs_pure_iff.1 last; rfl

theorem heading_foldlM {f : Progress → Attempt → Program Progress}
    (one : ∀ {progress a s t next after}, Runs (f progress a) s t next after →
      heading next.report = heading progress.report)
    {l : List Attempt} {progress next : Progress}
    (run : Runs (l.foldlM f progress) s t next after) :
    heading next.report = heading progress.report := by
  have always : ∀ m ∈ t, True := fun _ _ => trivial
  exact runs_foldlM_kept (fun _ p _ => heading p.report = heading progress.report)
    (fun _ _ _ _ _ _ _ kept run _ => (one run).trans kept) rfl run always

/-! ## Turns -/

/-- The turn of a group: what its call came to, the moments of the call, and those in which the
answer is recorded. -/
structure GroupTurn where
  operation : Operation
  group : List Attempt
  answer : Except DomainError Answer
  calling : List Moment
  recording : List Moment

namespace GroupTurn

/-- The moments of a turn. -/
def moments (u : GroupTurn) : List Moment :=
  u.calling ++ u.recording

/-- What is sent in a turn. -/
def sending (u : GroupTurn) : Operation × List Attempt :=
  (u.operation, u.group)

/-- The entry of a refused turn in the report. -/
def failure? (u : GroupTurn) : Option GroupFailure :=
  match u.answer with
  | .error e => some ⟨u.operation, u.group.length, e⟩
  | .ok _ => none

end GroupTurn

/-- A turn after which the cycle goes on. -/
inductive Takes (policy : CallPolicy) (queue : List Attempt) (b : Batch) :
    GroupTurn → Progress → Store → Progress → Store → Prop where
  | refused {op : Operation} {group : List Attempt} {e : DomainError} {t : List Moment}
      {progress next : Progress} {s after : Store}
      (called : Runs (sendGroup policy op group) s t (.error e) after)
      (unstopped : e.isShutdown = false) (kept : next.recorded = progress.recorded)
      (reported : next.report = { progress.report with
        failedGroups := progress.report.failedGroups ++ [⟨op, group.length, e⟩] }) :
      Takes policy queue b ⟨op, group, .error e, t, []⟩ progress s next after
  | answered {op : Operation} {group : List Attempt} {g : Answer} {t₁ t₂ t₃ : List Moment}
      {progress opened recorded next : Progress} {s s₁ s₂ after : Store}
      (called : Runs (sendGroup policy op group) s t₁ (.ok (g.call, g.results)) s₁)
      (kept : opened.recorded = progress.recorded)
      (reported : opened.report = { progress.report with
        sent := progress.report.sent + group.length })
      (recording : Runs (group.foldlM (recordOne g.call g.results g.syncedAt) opened) s₁ t₂
        recorded s₂)
      (closing : Runs ((toClose queue b op).foldlM (closeOne b) recorded) s₂ t₃ next after) :
      Takes policy queue b ⟨op, group, .ok g, t₁, ⟨s₁, .now, g.syncedAt⟩ :: (t₂ ++ t₃)⟩
        progress s next after

/-- Turns one after the other. -/
inductive TakesAll (policy : CallPolicy) (queue : List Attempt) (b : Batch) :
    List GroupTurn → Progress → Store → Progress → Store → Prop where
  | nil (progress : Progress) (s : Store) : TakesAll policy queue b [] progress s progress s
  | cons {u : GroupTurn} {turns : List GroupTurn} {progress middle next : Progress}
      {s s₁ after : Store} (first : Takes policy queue b u progress s middle s₁)
      (rest : TakesAll policy queue b turns middle s₁ next after) :
      TakesAll policy queue b (u :: turns) progress s next after

/-- A turn of some cycle. -/
def Taken (policy : CallPolicy) (queue : List Attempt) (b : Batch) (u : GroupTurn) : Prop :=
  ∃ progress s next after, Takes policy queue b u progress s next after

variable {progress next : Progress} {u : GroupTurn} {turns : List GroupTurn}

theorem TakesAll.taken (takes : TakesAll policy queue b turns progress s next after) :
    ∀ u ∈ turns, Taken policy queue b u := by
  induction takes with
  | nil progress s => simp
  | cons first rest ih => exact List.forall_mem_cons.2 ⟨⟨_, _, _, _, first⟩, ih⟩

/-- The group of a turn is that of the batch. -/
theorem group_of_sending (all : turns.map GroupTurn.sending = b.groups) (mem : u ∈ turns) :
    u.group = b.group u.operation :=
  (Batch.mem_groups.1 (all ▸ List.mem_map_of_mem mem)).1

/-- Each turn begins with the call of its group, which is not aborted. -/
theorem Takes.called (takes : Takes policy queue b u progress s next after) :
    ∃ middle, Runs (sendGroup policy u.operation u.group) s u.calling
        (u.answer.map fun g => (g.call, g.results)) middle ∧
      ∀ e, u.answer = .error e → e.isShutdown = false := by
  cases takes with
  | refused called unstopped => exact ⟨_, called, by rintro _ ⟨⟩; exact unstopped⟩
  | answered called => exact ⟨_, called, nofun⟩

/-- A report lists the turns that were refused. -/
theorem Takes.heading (takes : Takes policy queue b u progress s next after) :
    Cycle.heading next.report =
      (progress.report.department, progress.report.failedGroups ++ u.failure?.toList) := by
  cases takes with
  | refused called unstopped kept reported =>
    rw [reported]
    rfl
  | answered called kept reported recording closing =>
    rw [heading_foldlM heading_closeOne closing, heading_foldlM heading_recordOne recording,
      reported]
    simp [Cycle.heading, GroupTurn.failure?]

theorem TakesAll.heading (takes : TakesAll policy queue b turns progress s next after) :
    Cycle.heading next.report = (progress.report.department,
      progress.report.failedGroups ++ turns.filterMap GroupTurn.failure?) := by
  induction takes with
  | nil progress s => simp [Cycle.heading]
  | @cons u turns progress middle next s s₁ after first rest ih =>
    obtain ⟨department, failed⟩ := Prod.mk.inj first.heading
    rw [ih, department, failed, List.append_assoc, List.filterMap_cons]
    cases u.failure? <;> rfl

/-- No shutdown shows where outcomes are recorded. -/
theorem Takes.stops_iff (takes : Takes policy queue b u progress s next after) :
    Stops u.moments ↔ Stops u.calling := by
  rw [GroupTurn.moments, stops_append, or_iff_left]
  cases takes with
  | refused => exact stops_nil
  | answered called kept reported recording closing =>
    rw [stops_cons, stops_append]
    simp [Moment.Running, not_stops_of_internal (only_recordAll.internal recording),
      not_stops_of_internal (only_closeAll.internal closing)]

/-- How the turns of a cycle end: every group has had its turn, or a call was aborted. -/
inductive Ending (policy : CallPolicy) (queue : List Attempt) (b : Batch)
    (groups : List (Operation × List Attempt)) (progress : Progress) (s : Store) :
    List Moment → Except DomainError CycleReport → Store → Prop where
  | completed {turns : List GroupTurn} {next : Progress} {after : Store}
      (takes : TakesAll policy queue b turns progress s next after)
      (all : turns.map GroupTurn.sending = groups) :
      Ending policy queue b groups progress s (turns.flatMap GroupTurn.moments) (.ok next.report)
        after
  | aborted {turns : List GroupTurn} {next : Progress} {middle after : Store} {op : Operation}
      {group : List Attempt} {rest : List (Operation × List Attempt)} {t : List Moment}
      {e : DomainError} (takes : TakesAll policy queue b turns progress s next middle)
      (some : groups = turns.map GroupTurn.sending ++ (op, group) :: rest)
      (called : Runs (sendGroup policy op group) middle t (.error e) after)
      (stopped : e.isShutdown = true) :
      Ending policy queue b groups progress s (turns.flatMap GroupTurn.moments ++ t) (.error e)
        after

/-- One more turn before the others. -/
theorem Takes.ending {groups : List (Operation × List Attempt)}
    {result : Except DomainError CycleReport} {middle : Store}
    (takes : Takes policy queue b u progress s next middle)
    (ending : Ending policy queue b groups next middle t result after) :
    Ending policy queue b (u.sending :: groups) progress s (u.moments ++ t) result after := by
  cases ending with
  | completed rest all => exact .completed (.cons takes rest) (congrArg _ all)
  | @aborted turns _ _ _ _ _ _ t _ rest some called stopped =>
    rw [← List.append_assoc]
    exact .aborted (.cons takes rest) (congrArg _ some) called stopped

theorem ending_sendGroups {groups : List (Operation × List Attempt)}
    {result : Except DomainError CycleReport}
    (run : Runs (sendGroups policy queue b groups progress) s t result after) :
    Ending policy queue b groups progress s t result after := by
  induction groups generalizing s t progress with
  | nil =>
    obtain ⟨rfl, rfl, rfl⟩ := Service.runs_pure_iff.1 run
    exact .completed (.nil progress _) rfl
  | cons head groups ih =>
    obtain ⟨op, group⟩ := head
    cases runs_sendGroups_cons run with
    | shutdown called stopped => exact .aborted (.nil progress _) rfl called stopped
    | @failed e first rest next middle _ _ called kept more reported unstopped =>
      have takes : Takes policy queue b ⟨op, group, .error e, first, []⟩ progress _ next middle :=
        .refused called unstopped kept reported
      have ending := takes.ending (ih more)
      rwa [GroupTurn.moments, List.append_nil] at ending
    | @answered call results syncedAt t₁ t₂ t₃ t₄ _ _ next _ _ middle _ _ called kept recording
        closing more reported =>
      have takes : Takes policy queue b ⟨op, group, .ok ⟨call, syncedAt, results⟩, t₁, _⟩ progress _
          next middle := .answered called kept reported recording closing
      have ending := takes.ending (ih more)
      simp only [GroupTurn.moments, List.append_assoc, List.cons_append] at ending
      exact ending

/-- A cycle reports on its department. -/
theorem department_run {maxCreates : Nat} {department : String} {report : CycleReport}
    (run : Runs (Cycle.run policy maxCreates department) s t (.ok report) after) :
    report.department = department := by
  obtain ⟨e, -, -, failed⟩ | ⟨rest, -, sent⟩ := runs_run run
  · cases failed
  · cases ending_sendGroups sent with
    | completed takes all => exact congrArg Prod.fst takes.heading

end Cycle
end CalendarSync
