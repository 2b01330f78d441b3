import CalendarSync.Proofs.Growth
import Mathlib.Algebra.GroupWithZero.Nat
import Mathlib.Data.List.Flatten
import Mathlib.Data.List.Perm.Subperm

/-!
# The accounts of a cycle

Each pending attempt of the queue is in one place of the report of its cycle, whatever the Planner
answers and whatever requests to the storage fail: it is deferred, superseded or in a group whose
call failed, or it was sent. A sent attempt is counted under its outcome, unless the storage did not
take that or the attempt that repeats it.
-/

namespace CalendarSync.Cycle
set_option autoImplicit false
open Program Simulation

variable {s after : Store} {t t' : List Moment} {b : Batch} {a : Attempt}

/-! ## What the storage does not take -/

/-- The attempt whose outcome the storage fails to take. -/
def lostOutcome? : Moment → Option Uuid
  | ⟨_, .completeAttempt id _, .error _⟩ => some id
  | _ => none

/-- The new attempt that the storage fails to take. -/
def lostAttempt? : Moment → Option Uuid
  | ⟨_, .insertAttempt a, .error _⟩ => some a.id
  | _ => none

theorem lost_of_idle {m : Moment} (idle : m.Idle) :
    lostOutcome? m = none ∧ lostAttempt? m = none := by
  obtain ⟨store, request, answer⟩ := m
  cases request with
  | completeAttempt id c => cases idle
  | insertAttempt a => cases idle
  | _ => exact ⟨rfl, rfl⟩

def lostOutcomes (t : List Moment) : List Uuid :=
  t.filterMap lostOutcome?

def lostAttempts (t : List Moment) : List Uuid :=
  t.filterMap lostAttempt?

/-- The attempt is sent with the batch. -/
def sends (b : Batch) (id : Uuid) : Bool :=
  b.attempts.any fun a => a.id = id

/-- How many sent attempts are not counted because the storage failed. -/
def lost (b : Batch) (t : List Moment) : Nat :=
  (lostOutcomes t).countP (sends b) + (lostAttempts t).length

theorem lost_append (b : Batch) (t t' : List Moment) : lost b (t ++ t') = lost b t + lost b t' := by
  simp only [lost, lostOutcomes, lostAttempts, List.filterMap_append, List.countP_append,
    List.length_append]
  omega

/-- The number of outcomes recorded for superseded updates. -/
def closed (b : Batch) (t : List Moment) : Nat :=
  (closings t).countP b.superseded.contains

theorem closed_append (b : Batch) (t t' : List Moment) :
    closed b (t ++ t') = closed b t + closed b t' := by
  rw [closed, closings_append, List.countP_append]
  rfl

/-! ## Books -/

/-- The sent attempts that a report accounts for. -/
def tally (r : CycleReport) : Nat :=
  r.succeeded + r.resent + r.fatal + r.plannerOriginated + r.missing.length +
    r.unclassified.length + r.unanswered

/-- The attempts in groups whose call failed. -/
def failures (r : CycleReport) : Nat :=
  (r.failedGroups.map (·.attempts)).sum

/-- From one report to a later one: this many attempts were sent, this many were in groups that
failed, these ones were handled, and this is what happened. -/
structure Books (b : Batch) (opened : CycleReport) (sent failed : Nat) (handled : List Attempt)
    (t : List Moment) (closing : CycleReport) : Prop where
  sent : closing.sent = opened.sent + sent
  failed : failures closing = failures opened + failed
  account : tally closing + lost b t = tally opened + handled.length
  resent : closing.resent = opened.resent + (addings t).length
  superseded : closing.superseded = opened.superseded + closed b t
  deferred : closing.deferredCreates = opened.deferredCreates
  missing : ∃ more, closing.missing = opened.missing ++ more ∧
    more.Sublist ((handled.filter (·.operation == .update)).map (·.event))
  unclassified : ∃ more, closing.unclassified = opened.unclassified ++ more ∧
    more.Sublist (handled.map (·.id))

section Books
variable {opened middle closing : CycleReport} {sent sent' failed failed' : Nat}
  {handled handled' : List Attempt}

theorem Books.trans (first : Books b opened sent failed handled t middle)
    (second : Books b middle sent' failed' handled' t' closing) :
    Books b opened (sent + sent') (failed + failed') (handled ++ handled') (t ++ t') closing := by
  obtain ⟨missing, missing_eq, missing_sub⟩ := first.missing
  obtain ⟨missing', missing_eq', missing_sub'⟩ := second.missing
  obtain ⟨unknown, unknown_eq, unknown_sub⟩ := first.unclassified
  obtain ⟨unknown', unknown_eq', unknown_sub'⟩ := second.unclassified
  have account := first.account
  have account' := second.account
  constructor
  case sent => rw [second.sent, first.sent, Nat.add_assoc]
  case failed => rw [second.failed, first.failed, Nat.add_assoc]
  case account =>
    rw [lost_append, List.length_append]
    omega
  case resent =>
    rw [second.resent, first.resent, addings_append, List.length_append, Nat.add_assoc]
  case superseded => rw [second.superseded, first.superseded, closed_append, Nat.add_assoc]
  case deferred => rw [second.deferred, first.deferred]
  case missing =>
    refine ⟨missing ++ missing', by rw [missing_eq', missing_eq, List.append_assoc], ?_⟩
    rw [List.filter_append, List.map_append]
    exact missing_sub.append missing_sub'
  case unclassified =>
    refine ⟨unknown ++ unknown', by rw [unknown_eq', unknown_eq, List.append_assoc], ?_⟩
    rw [List.map_append]
    exact unknown_sub.append unknown_sub'

/-- Attempts without an entry in the lists of the report. -/
theorem Books.plain (account : tally closing + lost b t = tally opened + handled.length)
    (resent : closing.resent = opened.resent + (addings t).length)
    (superseded : closing.superseded = opened.superseded + closed b t)
    (sent : closing.sent = opened.sent) (failed : closing.failedGroups = opened.failedGroups)
    (deferred : closing.deferredCreates = opened.deferredCreates)
    (missing : closing.missing = opened.missing)
    (unclassified : closing.unclassified = opened.unclassified) :
    Books b opened 0 0 handled t closing := by
  constructor
  case missing => exact ⟨[], by rw [missing, List.append_nil], List.nil_sublist _⟩
  case unclassified => exact ⟨[], by rw [unclassified, List.append_nil], List.nil_sublist _⟩
  case failed => rw [failures, failed, failures, Nat.add_zero]
  all_goals assumption

/-- Where attempts are left alone the report stays as it is. -/
theorem Books.idle (idle : ∀ m ∈ t, m.Idle) : Books b opened 0 0 [] t opened := by
  have unrecorded : closings t = [] := List.filterMap_eq_nil_iff.2 fun m mem => by
    rw [(idle m mem).leavesAttempts.1]
    rfl
  have unadded : addings t = [] := List.filterMap_eq_nil_iff.2 fun m mem => by
    rw [(idle m mem).leavesAttempts.2]
    rfl
  have outcomes : lostOutcomes t = [] :=
    List.filterMap_eq_nil_iff.2 fun m mem => (lost_of_idle (idle m mem)).1
  have attempts : lostAttempts t = [] :=
    List.filterMap_eq_nil_iff.2 fun m mem => (lost_of_idle (idle m mem)).2
  apply Books.plain
  all_goals simp [lost, closed, unrecorded, unadded, outcomes, attempts]

/-! ## One attempt -/

/-- The storage takes the outcome of a sent attempt. -/
theorem Books.recorded {id : Uuid} {c : Completion} {u : Unit} (out : id ∉ b.superseded) :
    Books b opened 0 0 [] [⟨s, .completeAttempt id c, .ok u⟩] opened := by
  refine .plain rfl rfl ?_ rfl rfl rfl rfl rfl
  simp [closed, closings, Moment.recorded?, out]

/-- The storage does not take the outcome of a sent attempt. -/
theorem Books.unrecorded {c : Completion} {e : DomainError} (sent : sends b a.id = true) :
    Books b opened 0 0 [a] [⟨s, .completeAttempt a.id c, .error e⟩] opened := by
  refine .plain ?_ rfl rfl rfl rfl rfl rfl rfl
  simp [lost, lostOutcomes, lostOutcome?, lostAttempts, lostAttempt?, sent]

/-- The storage takes the outcome of a superseded update. -/
theorem Books.closed {id : Uuid} {c : Completion} {u : Unit} (superseded : id ∈ b.superseded) :
    Books b opened 0 0 [] [⟨s, .completeAttempt id c, .ok u⟩]
      { opened with superseded := opened.superseded + 1 } := by
  refine .plain rfl rfl ?_ rfl rfl rfl rfl rfl
  simp [Cycle.closed, closings, Moment.recorded?, superseded]

/-- The storage does not take the outcome of a superseded update. -/
theorem Books.unclosed {id : Uuid} {c : Completion} {e : DomainError}
    (unsent : sends b id = false) :
    Books b opened 0 0 [] [⟨s, .completeAttempt id c, .error e⟩] opened := by
  refine .plain ?_ rfl rfl rfl rfl rfl rfl rfl
  simp [lost, lostOutcomes, lostOutcome?, lostAttempts, lostAttempt?, unsent]

/-- An attempt is repeated, if the storage takes the new one. -/
theorem Books.again {s' s'' : Store} {createdAt : Timestamp} {id : Uuid} {r : Attempt}
    {answer : Except DomainError Unit} :
    Books b opened 0 0 [a]
      [⟨s, .now, createdAt⟩, ⟨s', .freshId, id⟩, ⟨s'', .insertAttempt r, answer⟩]
      (match answer with
        | .ok _ => { opened with resent := opened.resent + 1 }
        | .error _ => opened) := by
  cases answer with
  | ok u =>
    refine .plain ?_ rfl rfl rfl rfl rfl rfl rfl
    simp only [tally, lost, lostOutcomes, lostAttempts, List.filterMap_cons, lostOutcome?,
      lostAttempt?, List.filterMap_nil, List.countP_nil, List.length_nil, List.length_singleton]
    omega
  | error e => exact .plain rfl rfl rfl rfl rfl rfl rfl rfl

/-- An attempt whose outcome is entered in the report. -/
theorem Books.enter (counted : tally closing = tally opened + 1)
    (sent : closing.sent = opened.sent) (failed : closing.failedGroups = opened.failedGroups)
    (resent : closing.resent = opened.resent) (superseded : closing.superseded = opened.superseded)
    (deferred : closing.deferredCreates = opened.deferredCreates)
    (missing : closing.missing = opened.missing ∨
      a.operation = .update ∧ closing.missing = opened.missing ++ [a.event])
    (unclassified : closing.unclassified = opened.unclassified ∨
      closing.unclassified = opened.unclassified ++ [a.id]) :
    Books b opened 0 0 [a] [] closing := by
  constructor
  case missing =>
    rcases missing with same | ⟨update, one⟩
    · exact ⟨[], by simp [same], List.nil_sublist _⟩
    · exact ⟨[a.event], one, by simp [update]⟩
  case unclassified =>
    rcases unclassified with same | one
    · exact ⟨[], by simp [same], List.nil_sublist _⟩
    · exact ⟨[a.id], one, .refl _⟩
  case account => exact counted
  case failed => rw [failures, failed, failures, Nat.add_zero]
  all_goals assumption

/-- Counting an answered attempt. -/
theorem books_count {c : Completion} (run : Runs (count (a.complete c) opened) s t closing after) :
    Books b opened 0 0 [a] t closing := by
  unfold count at run
  obtain ⟨o, outcome⟩ := a.exists_outcome_complete c
  rw [outcome] at run
  cases o with
  | transient code =>
    obtain ⟨createdAt, _, _, -, rfl, run₁⟩ := runs_request_bind_iff.1 run
    obtain ⟨id, _, _, -, rfl, run₂⟩ := runs_request_bind_iff.1 run₁
    obtain ⟨answer, _, _, -, rfl, last⟩ := runs_request_bind_iff.1 run₂
    cases answer with
    | ok u =>
      obtain ⟨rfl, rfl, -⟩ := runs_pure_iff.1 last
      exact .again
    | error e =>
      obtain ⟨rfl, rfl, -⟩ := runs_pure_iff.1 last
      exact .again
  | missingInPlanner =>
    obtain ⟨rfl, rfl, -⟩ := runs_pure_iff.1 run
    have update : a.operation = .update := by
      rw [Attempt.outcome_complete] at outcome
      grind
    refine .enter ?_ rfl rfl rfl rfl rfl (.inr ⟨update, rfl⟩) (.inl rfl)
    simp only [tally, List.length_append, List.length_singleton]
    omega
  | unclassified code =>
    obtain ⟨rfl, rfl, -⟩ := runs_pure_iff.1 run
    refine .enter ?_ rfl rfl rfl rfl rfl (.inl rfl) (.inr rfl)
    simp only [tally, List.length_append, List.length_singleton]
    omega
  | _ =>
    obtain ⟨rfl, rfl, -⟩ := runs_pure_iff.1 run
    refine .enter ?_ rfl rfl rfl rfl rfl (.inl rfl) (.inl rfl)
    simp only [tally]
    omega

/-- Recording the answer for a sent attempt. -/
theorem books_recordOne {call : Uuid} {results : List ItemResult} {syncedAt : Timestamp}
    {progress next : Progress} (sent : sends b a.id = true) (out : a.id ∉ b.superseded)
    (run : Runs (recordOne call results syncedAt progress a) s t next after) :
    Books b progress.report 0 0 [a] t next.report := by
  unfold recordOne at run
  cases found : ItemResult.lastFor? results a.id with
  | none =>
    rw [found] at run
    obtain ⟨rfl, rfl, -⟩ := runs_pure_iff.1 run
    refine .enter ?_ rfl rfl rfl rfl rfl (.inl rfl) (.inl rfl)
    simp only [tally]
    omega
  | some r =>
    rw [found] at run
    obtain ⟨answer, _, _, -, rfl, run₁⟩ := runs_request_bind_iff.1 run
    cases answer with
    | error e =>
      obtain ⟨rfl, rfl, -⟩ := runs_pure_iff.1 run₁
      exact .unrecorded sent
    | ok u =>
      obtain ⟨report, _, first, _, rfl, counted, last⟩ := runs_bind_iff.1 run₁
      obtain ⟨rfl, rfl, -⟩ := runs_pure_iff.1 last
      rw [List.append_nil]
      exact (Books.recorded out).trans (books_count counted)

/-- Closing a superseded update. -/
theorem books_closeOne {progress next : Progress} (unsent : sends b a.id = false)
    (superseded : a.id ∈ b.superseded) (run : Runs (closeOne b progress a) s t next after) :
    Books b progress.report 0 0 [] t next.report := by
  unfold closeOne at run
  split at run
  · obtain ⟨rfl, rfl, -⟩ := runs_pure_iff.1 run
    exact .idle (by simp)
  · obtain ⟨answer, _, _, -, rfl, last⟩ := runs_request_bind_iff.1 run
    cases answer with
    | error e =>
      obtain ⟨rfl, rfl, -⟩ := runs_pure_iff.1 last
      exact .unclosed unsent
    | ok u =>
      obtain ⟨rfl, rfl, -⟩ := runs_pure_iff.1 last
      exact .closed superseded

/-! ## Loops and groups -/

/-- The books of a loop are those of its iterations. -/
theorem Books.foldlM {f : Progress → Attempt → Program Progress} {handle : Attempt → List Attempt}
    {l : List Attempt} {progress next : Progress}
    (each : ∀ a ∈ l, ∀ progress s t next after, Runs (f progress a) s t next after →
      Books b progress.report 0 0 (handle a) t next.report)
    (run : Runs (l.foldlM f progress) s t next after) :
    Books b progress.report 0 0 (l.flatMap handle) t next.report := by
  induction l generalizing s t progress with
  | nil =>
    obtain ⟨rfl, rfl, -⟩ := runs_pure_iff.1 run
    exact .idle (by simp)
  | cons a l ih =>
    rw [List.foldlM_cons] at run
    obtain ⟨middle, s₁, t₁, t₂, rfl, head, tail⟩ := runs_bind_iff.1 run
    rw [List.forall_mem_cons] at each
    rw [List.flatMap_cons]
    exact (each.1 _ _ _ _ _ head).trans (ih each.2 tail)

/-- Recording the answers for sent attempts. -/
theorem books_record {call : Uuid} {results : List ItemResult} {syncedAt : Timestamp}
    {group : List Attempt} {progress next : Progress}
    (sent : ∀ a ∈ group, sends b a.id = true) (superseded : ∀ id ∈ b.superseded, sends b id = false)
    (run : Runs (group.foldlM (recordOne call results syncedAt) progress) s t next after) :
    Books b progress.report 0 0 group t next.report := by
  have each : ∀ a ∈ group, ∀ progress s t next after,
      Runs (recordOne call results syncedAt progress a) s t next after →
        Books b progress.report 0 0 [a] t next.report := by
    intro a mem progress s t next after run
    refine books_recordOne (sent a mem) (fun out => ?_) run
    exact absurd (sent a mem) (by simp [superseded a.id out])
  simpa using Books.foldlM each run

/-- Closing superseded updates. -/
theorem books_close {queue : List Attempt} {op : Operation} {progress next : Progress}
    (superseded : ∀ id ∈ b.superseded, sends b id = false)
    (run : Runs ((toClose queue b op).foldlM (closeOne b) progress) s t next after) :
    Books b progress.report 0 0 [] t next.report := by
  have each : ∀ a ∈ toClose queue b op, ∀ progress s t next after,
      Runs (closeOne b progress a) s t next after →
        Books b progress.report 0 0 [] t next.report := by
    intro a mem progress s t next after run
    obtain ⟨-, -, listed⟩ := mem_toClose.1 mem
    exact books_closeOne (superseded a.id listed) listed run
  have none : (toClose queue b op).flatMap (fun _ => ([] : List Attempt)) = [] :=
    List.flatMap_eq_nil_iff.2 fun _ _ => rfl
  exact none ▸ Books.foldlM each run

/-- A group is answered. -/
theorem Books.answered (idle : ∀ m ∈ t, m.Idle) (n : Nat) :
    Books b opened n 0 [] t { opened with sent := opened.sent + n } :=
  have same : Books b opened 0 0 [] t opened := .idle idle
  ⟨rfl, same.failed, same.account, same.resent, same.superseded, same.deferred, same.missing,
    same.unclassified⟩

/-- The call of a group fails. -/
theorem Books.refused (idle : ∀ m ∈ t, m.Idle) (failure : GroupFailure) :
    Books b opened 0 failure.attempts [] t
      { opened with failedGroups := opened.failedGroups ++ [failure] } :=
  have same : Books b opened 0 0 [] t opened := .idle idle
  ⟨same.sent, by simp [failures], same.account, same.resent, same.superseded, same.deferred,
    same.missing, same.unclassified⟩

/-- The sent attempts and the superseded ones are apart. -/
structure Apart (b : Batch) (groups : List (Operation × List Attempt)) : Prop where
  sent : ∀ g ∈ groups, ∀ a ∈ g.2, sends b a.id = true
  superseded : ∀ id ∈ b.superseded, sends b id = false

/-- The books of groups: the attempts of some, which the Planner answered, are handled, and the
calls of the others failed. -/
theorem books_sendGroups {policy : CallPolicy} {queue : List Attempt}
    {groups : List (Operation × List Attempt)} {progress : Progress} {report : CycleReport}
    (apart : Apart b groups)
    (run : Runs (sendGroups policy queue b groups progress) s t (.ok report) after) :
    ∃ (answered : List (Operation × List Attempt)) (failed : Nat), answered.Sublist groups ∧
      (∀ g ∈ answered, ∃ m ∈ t, (m.reply? g.1).isSome = true) ∧
      Books b progress.report (answered.flatMap (·.2)).length failed (answered.flatMap (·.2)) t
        report ∧
      (answered.flatMap (·.2)).length + failed = (groups.flatMap (·.2)).length := by
  induction groups generalizing s t progress with
  | nil =>
    obtain ⟨rfl, same, -⟩ := Service.runs_pure_iff.1 run
    obtain rfl := Except.ok.inj same
    exact ⟨[], 0, .slnil, by simp, .idle (by simp), rfl⟩
  | cons head groups ih =>
    obtain ⟨op, group⟩ := head
    have later : Apart b groups :=
      ⟨fun g mem => apart.sent g (List.mem_cons_of_mem _ mem), apart.superseded⟩
    cases runs_sendGroups_cons run with
    | @failed e t₁ t₂ next _ _ _ sent kept more reported =>
      obtain ⟨-, sending, -⟩ := runs_sendGroup sent
      obtain ⟨answered, failed, sub, replied, books, all⟩ := ih later more
      have refused : Books b progress.report 0 group.length [] t₁ next.report := by
        rw [reported]
        exact .refused (fun m mem => (sending m mem).idle) ⟨op, group.length, e⟩
      refine ⟨answered, group.length + failed, sub.cons _, ?_, ?_, ?_⟩
      · intro g mem
        obtain ⟨m, here, some⟩ := replied g mem
        exact ⟨m, List.mem_append_right _ here, some⟩
      · simpa using refused.trans books
      · simp only [List.flatMap_cons, List.length_append]
        omega
    | @answered call results syncedAt t₁ t₂ t₃ t₄ progress₁ progress₂ progress₃ s₁ s₂ s₃ _ _ sent
        kept recording closing more reported =>
      obtain ⟨-, sending, reply, -⟩ := runs_sendGroup sent
      obtain ⟨answered, failed, sub, replied, books, all⟩ := ih later more
      have opening : Books b progress.report group.length 0 [] t₁ progress₁.report := by
        rw [reported]
        exact .answered (fun m mem => (sending m mem).idle) group.length
      have clock : Books b progress₁.report 0 0 [] [⟨s₁, .now, syncedAt⟩] progress₁.report :=
        .idle (List.forall_mem_singleton.2 rfl)
      have recorded : Books b progress₁.report 0 0 group t₂ progress₂.report :=
        books_record (apart.sent _ List.mem_cons_self) apart.superseded recording
      have closed : Books b progress₂.report 0 0 [] t₃ progress₃.report :=
        books_close apart.superseded closing
      refine ⟨(op, group) :: answered, failed, sub.cons_cons _, ?_, ?_, ?_⟩
      · rw [List.forall_mem_cons]
        refine ⟨?_, fun g mem => ?_⟩
        · obtain ⟨m, here, found⟩ := List.exists_of_findSome?_eq_some reply
          exact ⟨m, List.mem_append_left _ here, by rw [found]; rfl⟩
        · obtain ⟨m, here, some⟩ := replied g mem
          exact ⟨m, by simp [here], some⟩
      · have whole := opening.trans (clock.trans (recorded.trans (closed.trans books)))
        simpa using whole
      · simp only [List.flatMap_cons, List.length_append]
        omega

end Books

/-! ## The table -/

/-- The rows with an outcome among those with these identifiers. -/
def answeredRows (p : Uuid → Bool) (s : Store) : Nat :=
  s.attempts.countP fun a => p a.id && !a.isPending

/-- Each outcome that is recorded for an attempt which waits makes one more row with an outcome. -/
theorem answeredRows_of_runs {α : Type} {program : Program α} {value : α}
    (run : Runs program s t value after) (due : ∀ m ∈ t, m.Due) (p : Uuid → Bool) :
    answeredRows p after = answeredRows p s + (closings t).countP p := by
  induction run with
  | done value s => simp [closings]
  | @ask r next s middle after answer t value answered rest ih =>
    rw [List.forall_mem_cons] at due
    rw [ih due.2, closings_cons, List.countP_append, ← Nat.add_assoc]
    congr 1
    cases Moment.leads_of_answers answered with
    | kept same leaves =>
      have same : middle.attempts = s.attempts := same
      simp [answeredRows, same, closings, leaves.1]
    | @added a rows added unrecorded =>
      have rows : middle.attempts = s.attempts ++ [a] := rows
      have pending := (due.1.added a added).isPending
      simp [answeredRows, rows, closings, unrecorded, pending]
    | @recorded id c wrote recorded =>
      obtain ⟨before, row, rest, split, rfl, pending, rows⟩ :=
        due.1.attempts_recorded recorded wrote
      have split : s.attempts = before ++ row :: rest := split
      simp only [answeredRows, rows, split, closings, List.filterMap_cons, recorded,
        Option.map_some, List.filterMap_nil, List.countP_append, List.countP_cons, List.countP_nil]
      simp [pending]
      omega

/-! ## The cycle -/

/-- The attempts that a batch sends are apart from those it supersedes. -/
theorem apart_of_build {queue : List Attempt} {maxCreates : Nat}
    (distinct : (queue.map (·.id)).Nodup) :
    Apart (Batch.build queue maxCreates) (Batch.build queue maxCreates).groups := by
  constructor
  case sent =>
    intro g listed a mem
    rw [(Batch.mem_groups.1 listed).1] at mem
    exact List.any_eq_true.2 ⟨a, Batch.mem_attempts.2 ⟨_, mem⟩, by simp⟩
  case superseded =>
    intro id superseded
    obtain ⟨u, listed, rfl, -⟩ := Batch.exists_of_mem_superseded superseded
    obtain ⟨-, update, out⟩ := (Batch.mem_superseded_iff distinct listed).1 superseded
    rw [← Bool.not_eq_true, sends, List.any_eq_true]
    rintro ⟨a, sent, same⟩
    obtain ⟨op, mem⟩ := Batch.mem_attempts.1 sent
    obtain ⟨listed', sorted⟩ := Batch.mem_of_mem_group mem
    obtain rfl := Attempt.eq_of_id_eq distinct listed' listed (by simpa using same)
    obtain rfl : op = .update := sorted.symm.trans update
    exact out mem

/-- The attempt was sent in a group that the Planner answered. -/
def AnsweredFor (b : Batch) (t : List Moment) (a : Attempt) : Prop :=
  a ∈ b.group a.operation ∧ ∃ m ∈ t, (m.reply? a.operation).isSome = true

/-- The accounts of a cycle that read this queue and answered this report. -/
structure Accounts (queue : List Attempt) (b : Batch) (s : Store) (t : List Moment)
    (report : CycleReport) (after : Store) : Prop where
  /-- A pending attempt was sent, failed with its group, or was deferred or superseded. -/
  pulled : queue.length = report.sent + (report.failedGroups.map (·.attempts)).sum +
    report.deferredCreates + b.superseded.length
  /-- A sent attempt is in one of the counts and lists, unless the storage failed. -/
  sent : report.sent = report.succeeded + report.resent + report.fatal +
    report.plannerOriginated + report.missing.length + report.unclassified.length +
    report.unanswered + (lostOutcomes t).countP (sends b) + (lostAttempts t).length
  grown : Attempt.Grows s.attempts after.attempts
  resent : after.attempts.length = s.attempts.length + report.resent
  superseded : answeredRows b.superseded.contains after =
    answeredRows b.superseded.contains s + report.superseded
  bounded : report.superseded ≤ b.superseded.length
  once : report.missing.Nodup
  missing : ∀ event ∈ report.missing, ∃ a, a.event = event ∧ AnsweredFor b t a
  unclassified : ∀ id ∈ report.unclassified, ∃ a, a.id = id ∧ AnsweredFor b t a

/-- The books of a whole cycle. -/
theorem books_run {policy : CallPolicy} {maxCreates : Nat} {department : String}
    {report : CycleReport} (distinct : (s.attempts.map (·.id)).Nodup)
    (run : Runs (Cycle.run policy maxCreates department) s t (.ok report) after) :
    ∃ (answered : List (Operation × List Attempt)) (failed : Nat),
      answered.Sublist (Batch.build (s.pending department) maxCreates).groups ∧
      (∀ g ∈ answered, ∃ m ∈ t, (m.reply? g.1).isSome = true) ∧
      Books (Batch.build (s.pending department) maxCreates)
        (opening (s.pending department) maxCreates department).report
        (answered.flatMap (·.2)).length failed (answered.flatMap (·.2)) t report ∧
      (answered.flatMap (·.2)).length + failed =
        (Batch.build (s.pending department) maxCreates).attempts.length := by
  obtain ⟨e, -, -, failed⟩ | ⟨rest, rfl, sent⟩ := runs_run run
  · cases failed
  have own : ((s.pending department).map (·.id)).Nodup :=
    distinct.sublist (List.filter_sublist.map _)
  obtain ⟨answered, failed, sub, replied, books, all⟩ :=
    books_sendGroups (apart_of_build own) sent
  have read : Books (Batch.build (s.pending department) maxCreates)
      (opening (s.pending department) maxCreates department).report 0 0 []
      [⟨s, .pendingAttempts department, .ok (s.pending department)⟩]
      (opening (s.pending department) maxCreates department).report :=
    .idle (List.forall_mem_singleton.2 rfl)
  refine ⟨answered, failed, sub, fun g mem => ?_, by simpa using read.trans books, ?_⟩
  · obtain ⟨m, here, some⟩ := replied g mem
    exact ⟨m, List.mem_cons_of_mem _ here, some⟩
  · have flat := (Batch.build (s.pending department) maxCreates).flatMap_groups fun _ => true
    simp only [List.filter_true] at flat
    rw [all, flat]

/-- The attempts of answered groups are answered for. -/
theorem answeredFor_of_mem {answered : List (Operation × List Attempt)} {queue : List Attempt}
    {maxCreates : Nat} (sub : answered.Sublist (Batch.build queue maxCreates).groups)
    (replied : ∀ g ∈ answered, ∃ m ∈ t, (m.reply? g.1).isSome = true)
    (mem : a ∈ answered.flatMap (·.2)) : AnsweredFor (Batch.build queue maxCreates) t a := by
  obtain ⟨g, listed, mem⟩ := List.mem_flatMap.1 mem
  have whole := (Batch.mem_groups.1 (sub.subset listed)).1
  rw [whole] at mem
  obtain ⟨-, same⟩ := Batch.mem_of_mem_group mem
  rw [AnsweredFor, same]
  exact ⟨mem, replied g listed⟩

/-- The report of a cycle accounts for every attempt that it has read, whatever the Planner answers
and whatever requests to the storage fail. -/
theorem accounts_run {policy : CallPolicy} {maxCreates : Nat} {department : String}
    {report : CycleReport} (distinct : (s.attempts.map (·.id)).Nodup)
    (run : Runs (Cycle.run policy maxCreates department) s t (.ok report) after) :
    Accounts (s.pending department) (Batch.build (s.pending department) maxCreates) s t report
      after := by
  have under : Under True s (toAnswer (s.pending department)
      (Batch.build (s.pending department) maxCreates)
      (Batch.build (s.pending department) maxCreates).groups) s :=
    under_toAnswer distinct List.filter_sublist
  obtain ⟨once, -, due⟩ := run.due_of_noted (noted_run run) distinct under.once under.waits
  have rows := congrArg List.length run.ids
  simp only [List.length_map, List.length_append] at rows
  obtain ⟨answered, failed, sub, replied, books, all⟩ := books_run distinct run
  obtain ⟨missing, missing_eq, missing_sub⟩ := books.missing
  obtain ⟨unknown, unknown_eq, unknown_sub⟩ := books.unclassified
  have answeredFor : ∀ a ∈ answered.flatMap (·.2),
      AnsweredFor (Batch.build (s.pending department) maxCreates) t a :=
    fun a mem => answeredFor_of_mem sub replied mem
  constructor
  case pulled =>
    have pending : ∀ a ∈ s.pending department, a.isPending = true :=
      fun a mem => (Store.mem_pending.1 mem).2.1
    have queue := Batch.length_queue pending maxCreates
    have sent : report.sent = 0 + (answered.flatMap (·.2)).length := books.sent
    have failures : failures report = 0 + failed := books.failed
    have deferred : report.deferredCreates =
        (Batch.waiting (s.pending department) .create).length -
          (Batch.build (s.pending department) maxCreates).creates.length := books.deferred
    unfold Cycle.failures at failures
    omega
  case sent =>
    have account : tally report + lost _ t = 0 + (answered.flatMap (·.2)).length := books.account
    have sent : report.sent = 0 + (answered.flatMap (·.2)).length := books.sent
    unfold tally lost at account
    omega
  case grown => exact (List.pairwise_cons.1 (run.grows due)).1 after (by simp)
  case resent =>
    have resent : report.resent = 0 + (addings t).length := books.resent
    omega
  case superseded =>
    have superseded : report.superseded = 0 + closed _ t := books.superseded
    rw [answeredRows_of_runs run due, superseded, Nat.zero_add, closed]
  case bounded =>
    have superseded : report.superseded = 0 + closed _ t := books.superseded
    rw [superseded, Nat.zero_add, closed, List.countP_eq_length_filter]
    refine (List.Nodup.subperm (once.filter _) fun id mem => ?_).length_le
    simpa using (List.mem_filter.1 mem).2
  case once =>
    have listed := (sub.flatMap fun g => g.2.filter (·.operation == .update)).map (·.event)
    rw [Batch.flatMap_groups] at listed
    rw [List.filter_flatMap] at missing_sub
    rw [missing_eq]
    exact (Batch.nodup_events _ _).sublist (missing_sub.trans listed)
  case missing =>
    intro event mem
    rw [missing_eq] at mem
    obtain ⟨a, mem, same⟩ := List.mem_map.1 (missing_sub.subset mem)
    exact ⟨a, same, answeredFor a (List.mem_of_mem_filter mem)⟩
  case unclassified =>
    intro id mem
    rw [unknown_eq] at mem
    obtain ⟨a, mem, same⟩ := List.mem_map.1 (unknown_sub.subset mem)
    exact ⟨a, same, answeredFor a mem⟩

/-- The sample with a storage that fails to take the outcome of the create, and to take the new
attempt for the update. -/
def sampleLocked : World :=
  { World.sample with
    faults := [(.completeAttempt, some ⟨.database, "locked"⟩),
      (.insertAttempt, some ⟨.database, "locked"⟩)] }

/-- Three attempts are sent and one is superseded, but only the delete has an entry. -/
theorem accounts_sample : ∃ report after,
    Runs (Cycle.run World.samplePolicy 10 "rooms") sampleLocked.store
      (sampleLocked.moments (Cycle.run World.samplePolicy 10 "rooms")) (.ok report) after ∧
    report.sent = 3 ∧ report.succeeded = 1 ∧ report.superseded = 1 ∧
    Accounts (sampleLocked.store.pending "rooms")
      (Batch.build (sampleLocked.store.pending "rooms") 10) sampleLocked.store
      (sampleLocked.moments (Cycle.run World.samplePolicy 10 "rooms")) report after := by
  let report : CycleReport := ⟨"rooms", 3, 1, 0, 0, 0, 1, 0, 0, [], [], []⟩
  obtain ⟨run, -⟩ := World.runs_of_result? sampleLocked
    (Cycle.run World.samplePolicy 10 "rooms") rfl
    (show _ = some (Except.ok report) by decide +kernel)
  exact ⟨report, _, run, rfl, rfl, rfl, accounts_run (by decide +kernel) run⟩

end CalendarSync.Cycle
