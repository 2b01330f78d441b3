import CalendarSync.Proofs.Batch
import CalendarSync.Proofs.Cycle
import CalendarSync.Proofs.World
import Mathlib.Data.List.Forall2
import Mathlib.Logic.Function.Basic

/-!
# What a cycle settles

With storage that does not fail, a cycle turns the table of attempts into the one that the Planner's
answers call for: an attempt that a group's answer names has the outcome of the last result for it,
a superseded update has the outcome of the update that replaced it, transient failures are followed
by new attempts at the end of the table, and every other row stays.
-/

namespace CalendarSync
set_option autoImplicit false
open Program Simulation

/-- The Planner's answer to the call of a group, with the record of the call. -/
structure Answer where
  call : Uuid
  syncedAt : Timestamp
  results : List ItemResult

/-- The outcome that an answer has for an identifier. -/
def Answer.completion? (g : Answer) (id : Uuid) : Option Completion :=
  (ItemResult.lastFor? g.results id).map (·.completion g.syncedAt g.call)

theorem Answer.completion?_of_lastFor? {g : Answer} {id : Uuid} {r : ItemResult}
    (found : ItemResult.lastFor? g.results id = some r) :
    g.completion? id = some (r.completion g.syncedAt g.call) := by
  rw [completion?, found]
  rfl

theorem Answer.completion?_of_unknown {g : Answer} {id : Uuid}
    (unknown : ItemResult.lastFor? g.results id = none) : g.completion? id = none := by
  rw [completion?, unknown]
  rfl

/-- The answer of an operation is the Planner's first reply to its group, and the call is the one
that was recorded for it. -/
structure Answered (t : List Moment) (op : Operation) (answer : Option Answer) : Prop where
  replied : t.findSome? (Moment.reply? op) = answer.map (·.results)
  recorded : ∀ g, answer = some g → t.findSome? (Moment.call? op) = some g.call
  dated : ∀ g, answer = some g → ∃ m ∈ t, m.reading? = some g.syncedAt

/-- No reply to an operation and no record of a call of it. -/
def Silent (op : Operation) (t : List Moment) : Prop :=
  ∀ m ∈ t, m.reply? op = none ∧ m.call? op = none

theorem Silent.answered {op : Operation} {t : List Moment} (silent : Silent op t) :
    Answered t op none :=
  ⟨List.findSome?_eq_none_iff.2 fun m mem => (silent m mem).1, by simp, by simp⟩

theorem Silent.append {op : Operation} {t t' : List Moment} (h : Silent op t) (h' : Silent op t') :
    Silent op (t ++ t') :=
  List.forall_mem_append.2 ⟨h, h'⟩

theorem Answered.eq_none {op : Operation} {t : List Moment} {answer : Option Answer}
    (h : Answered t op answer) (silent : Silent op t) : answer = none := by
  have nothing := h.replied.symm.trans silent.answered.replied
  cases answer with
  | none => rfl
  | some g => cases nothing

theorem Answered.append_silent {op : Operation} {t t' : List Moment} {answer : Option Answer}
    (h : Answered t op answer) (silent : Silent op t') : Answered (t ++ t') op answer := by
  have nothing : t'.findSome? (Moment.reply? op) = none :=
    List.findSome?_eq_none_iff.2 fun m mem => (silent m mem).1
  refine ⟨?_, ?_, ?_⟩
  · rw [List.findSome?_append, h.replied, nothing, Option.or_none]
  · intro g answered
    rw [List.findSome?_append, h.recorded g answered, Option.some_or]
  · intro g answered
    obtain ⟨m, mem, reading⟩ := h.dated g answered
    exact ⟨m, List.mem_append_left _ mem, reading⟩

theorem Answered.silent_append {op : Operation} {t t' : List Moment} {answer : Option Answer}
    (silent : Silent op t) (h : Answered t' op answer) : Answered (t ++ t') op answer := by
  have nothing := silent.answered
  refine ⟨?_, ?_, ?_⟩
  · rw [List.findSome?_append, nothing.replied, h.replied, Option.map_none, Option.none_or]
  · intro g answered
    have unopened : t.findSome? (Moment.call? op) = none :=
      List.findSome?_eq_none_iff.2 fun m mem => (silent m mem).2
    rw [List.findSome?_append, unopened, h.recorded g answered, Option.none_or]
  · intro g answered
    obtain ⟨m, mem, reading⟩ := h.dated g answered
    exact ⟨m, List.mem_append_right _ mem, reading⟩

/-- The attempt with its outcome, if there is one. -/
def Attempt.settle (a : Attempt) (outcome : Option Completion) : Attempt :=
  outcome.elim a a.complete

/-- An outcome that calls for a new attempt. -/
def Attempt.fails (a : Attempt) (outcome : Option Completion) : Bool :=
  outcome.any fun c => (a.complete c).isTransient

/-- A new attempt that proposes the same again. -/
def Attempt.Repeats (a r : Attempt) : Prop :=
  ∃ id createdAt, r = a.again id a.operation createdAt

namespace Batch

/-- The outcome that the answer to its group has for an attempt: its own if it is sent, and that of
its winner if it is superseded. -/
def outcomeIn? (b : Batch) (g : Answer) (a : Attempt) : Option Completion :=
  if a ∈ b.group a.operation then g.completion? a.id
  else if a.id ∈ b.superseded then (b.winner? a).bind fun w => g.completion? w.id
  else none

/-- The outcome that the answers have for an attempt. -/
def outcome? (b : Batch) (answers : Operation → Option Answer) (a : Attempt) : Option Completion :=
  (answers a.operation).bind fun g => b.outcomeIn? g a

end Batch

namespace Batch

/-- Only an attempt of the queue has an outcome. -/
theorem mem_of_outcome? {rows queue : List Attempt} {maxCreates : Nat} {a : Attempt}
    {answers : Operation → Option Answer} {c : Completion}
    (distinct : (rows.map (·.id)).Nodup) (sub : queue.Sublist rows) (mem : a ∈ rows)
    (outcome : (build queue maxCreates).outcome? answers a = some c) : a ∈ queue := by
  obtain ⟨g, -, outcome⟩ := Option.bind_eq_some_iff.1 outcome
  unfold outcomeIn? at outcome
  split at outcome
  · rename_i sent
    exact (mem_of_mem_group sent).1
  · split at outcome
    · rename_i superseded
      obtain ⟨b, listed, same, -⟩ := exists_of_mem_superseded superseded
      obtain rfl := Attempt.eq_of_id_eq distinct (sub.subset listed) mem same
      exact listed
    · cases outcome

end Batch

namespace Attempt
variable {rows l : List Attempt} {a : Attempt} {f : Attempt → Option Completion}
  {done : Uuid → Option Completion}

@[simp] theorem settle_id (a : Attempt) (outcome : Option Completion) :
    (a.settle outcome).id = a.id := by
  cases outcome <;> rfl

@[simp] theorem settle_event (a : Attempt) (outcome : Option Completion) :
    (a.settle outcome).event = a.event := by
  cases outcome <;> rfl

@[simp] theorem settle_operation (a : Attempt) (outcome : Option Completion) :
    (a.settle outcome).operation = a.operation := by
  cases outcome <;> rfl

@[simp] theorem settle_createdAt (a : Attempt) (outcome : Option Completion) :
    (a.settle outcome).createdAt = a.createdAt := by
  cases outcome <;> rfl

@[simp] theorem settle_window (a : Attempt) (outcome : Option Completion) :
    (a.settle outcome).window = a.window := by
  cases outcome <;> rfl

theorem map_id_settle (rows : List Attempt) (f : Attempt → Option Completion) :
    (rows.map fun a => a.settle (f a)).map (·.id) = rows.map (·.id) := by
  simp

/-- Only an attempt without an outcome goes on waiting. -/
theorem settle_isPending {outcome : Option Completion} (h : (a.settle outcome).isPending = true) :
    outcome = none := by
  cases outcome with
  | none => rfl
  | some c => cases h

/-- The outcomes by identifier after an attempt has got its own, if it has one. -/
def mark (f : Attempt → Option Completion) (done : Uuid → Option Completion) (a : Attempt) :
    Uuid → Option Completion :=
  (f a).elim done fun c => Function.update done a.id (some c)

theorem foldl_mark_eq (distinct : (rows.map (·.id)).Nodup) (sub : ∀ b ∈ l, b ∈ rows)
    (mem : a ∈ rows) :
    l.foldl (mark f) done a.id = if a ∈ l then (f a).or (done a.id) else done a.id := by
  induction l generalizing done with
  | nil => rfl
  | cons b l ih =>
    have hb : b ∈ rows := sub b List.mem_cons_self
    have marked : mark f done b a.id = if a = b then (f a).or (done a.id) else done a.id := by
      unfold mark
      by_cases same : a = b
      · subst same
        cases f a <;> simp
      · have other : a.id ≠ b.id := fun h => same (eq_of_id_eq distinct mem hb h)
        cases f b <;> simp [same, other]
    rw [List.foldl_cons, ih fun c hc => sub c (List.mem_cons_of_mem _ hc), marked]
    by_cases same : a = b
    · subst same
      cases f a <;> simp
    · simp [same]

end Attempt

namespace Cycle
variable {s₀ s after : Store} {t : List Moment} {done : Uuid → Option Completion}
  {new : List Attempt} {a : Attempt} {c : Completion}

/-- The table holds the rows of `s₀` with these outcomes, and new rows behind them. -/
structure Settled (s₀ : Store) (done : Uuid → Option Completion) (new : List Attempt) (s : Store) :
    Prop where
  attempts : s.attempts = (s₀.attempts.map fun a => a.settle (done a.id)) ++ new
  events : s.events = s₀.events

theorem Settled.alike (settled : Settled s₀ done new s) (alike : s.Alike after) :
    Settled s₀ done new after :=
  ⟨alike.attempts.trans settled.attempts, alike.events.trans settled.events⟩

theorem Settled.insert (settled : Settled s₀ done new s) (a : Attempt) :
    Settled s₀ done (new ++ [a]) (s.insertAttempt a) := by
  refine ⟨?_, settled.events⟩
  rw [Store.attempts_insertAttempt, settled.attempts, List.append_assoc]

/-- The outcome of an old attempt is recorded in its own row. -/
theorem Settled.complete (settled : Settled s₀ done new s)
    (distinct : (s₀.attempts.map (·.id)).Nodup) (mem : a ∈ s₀.attempts)
    (wrote : s.completeAttempt a.id c = .ok after) :
    Settled s₀ (Function.update done a.id (some c)) new after := by
  have ids := Attempt.map_id_settle s₀.attempts fun a => done a.id
  have old := Store.changeFirst?_complete (c := c) (ids ▸ distinct) (ids ▸ List.mem_map_of_mem mem)
  refine ⟨?_, (Store.events_completeAttempt wrote).trans settled.events⟩
  rw [Store.completeAttempt, settled.attempts, changeFirst?_append old] at wrote
  obtain rfl := Except.ok.inj wrote
  show Attempt.completeAt a.id c _ ++ new = _
  congr 1
  rw [Attempt.completeAt, List.map_map]
  apply List.map_congr_left
  intro b hb
  by_cases same : b.id = a.id
  · cases h : done a.id <;> simp [Attempt.settle, same, h]
  · simp [same]

/-- Recording the answer for an attempt of the table. -/
theorem Settled.record_one {g : Answer} {progress next : Progress} (settled : Settled s₀ done new s)
    (distinct : (s₀.attempts.map (·.id)).Nodup) (mem : a ∈ s₀.attempts)
    (run : Runs (recordOne g.call g.results g.syncedAt progress a) s t next after)
    (stored : ∀ m ∈ t, m.Stored) :
    ∃ more, Settled s₀ (Attempt.mark (fun a => g.completion? a.id) done a) (new ++ more) after ∧
      List.Forall₂ Attempt.Repeats ([a].filter fun a => a.fails (g.completion? a.id)) more ∧
      (fun id => next.recorded.lookup id) =
        Attempt.mark (fun a => g.completion? a.id) (fun id => progress.recorded.lookup id) a ∧
      ∀ m ∈ t, Quiet m := by
  have recording := runs_recordOne run
  have quiet := recording.quiet
  generalize next.recorded = recorded at recording ⊢
  have lookup (c : Completion) : (fun id => ((a.id, c) :: progress.recorded).lookup id) =
      Function.update (fun id => progress.recorded.lookup id) a.id (some c) := by
    funext id
    by_cases same : id = a.id
    · simp [same]
    · simp [List.lookup_cons, same, beq_false_of_ne same]
  cases recording with
  | unanswered unknown =>
    have nothing : g.completion? a.id = none := Answer.completion?_of_unknown unknown
    refine ⟨[], ?_, ?_, ?_, quiet⟩
    · simpa [Attempt.mark, nothing] using settled
    · simp [Attempt.fails, nothing]
    · simp [Attempt.mark, nothing]
  | lost e found => simp [Moment.Stored, Moment.fault?] at stored
  | closed found wrote lasting =>
    have own := Answer.completion?_of_lastFor? found
    refine ⟨[], ?_, ?_, ?_, quiet⟩
    · simpa [Attempt.mark, own] using settled.complete distinct mem wrote
    · simp [Attempt.fails, own, lasting]
    · simp [Attempt.mark, own, lookup]
  | @again r middle after createdAt id answer found wrote transient proposed =>
    have own := Answer.completion?_of_lastFor? found
    have completed := settled.complete distinct mem wrote
    cases answer with
    | error e => simp [Moment.Stored, Moment.fault?] at stored
    | ok u =>
      obtain rfl := Except.ok.inj proposed
      refine ⟨[a.again id a.operation createdAt], ?_, ?_, ?_, quiet⟩
      · simpa [Attempt.mark, own] using completed.insert _
      · simpa [Attempt.fails, own, transient] using ⟨id, createdAt, rfl⟩
      · simp [Attempt.mark, own, lookup]

/-- Recording the answer for a group. -/
theorem Settled.record_all {g : Answer} {group : List Attempt} {progress next : Progress}
    (settled : Settled s₀ done new s) (distinct : (s₀.attempts.map (·.id)).Nodup)
    (sub : ∀ a ∈ group, a ∈ s₀.attempts)
    (run : Runs (group.foldlM (recordOne g.call g.results g.syncedAt) progress) s t next after)
    (stored : ∀ m ∈ t, m.Stored) :
    ∃ more,
      Settled s₀ (group.foldl (Attempt.mark fun a => g.completion? a.id) done) (new ++ more) after ∧
      List.Forall₂ Attempt.Repeats (group.filter fun a => a.fails (g.completion? a.id)) more ∧
      (fun id => next.recorded.lookup id) =
        group.foldl (Attempt.mark fun a => g.completion? a.id) (fun id => progress.recorded.lookup id) ∧
      ∀ m ∈ t, Quiet m := by
  induction group generalizing s t done new progress with
  | nil =>
    obtain ⟨rfl, rfl, rfl⟩ := runs_pure_iff.1 run
    exact ⟨[], by simpa using settled, .nil, rfl, by simp⟩
  | cons a group ih =>
    rw [List.foldlM_cons] at run
    obtain ⟨middle, s₁, first, rest, rfl, head, tail⟩ := runs_bind_iff.1 run
    rw [List.forall_mem_append] at stored
    rw [List.forall_mem_cons] at sub
    obtain ⟨more₁, settled₁, repeats₁, recorded₁, quiet₁⟩ :=
      settled.record_one distinct sub.1 head stored.1
    obtain ⟨more₂, settled₂, repeats₂, recorded₂, quiet₂⟩ := ih settled₁ sub.2 tail stored.2
    refine ⟨more₁ ++ more₂, ?_, ?_, ?_, List.forall_mem_append.2 ⟨quiet₁, quiet₂⟩⟩
    · rw [← List.append_assoc]
      exact settled₂
    · rw [← List.singleton_append, List.filter_append]
      exact List.rel_append repeats₁ repeats₂
    · rw [recorded₂, recorded₁, List.foldl_cons]

/-- Closing superseded updates with the outcomes of their winners. -/
theorem Settled.close_all {b : Batch} {l : List Attempt} {progress next : Progress}
    (settled : Settled s₀ done new s) (distinct : (s₀.attempts.map (·.id)).Nodup)
    (sub : ∀ a ∈ l, a ∈ s₀.attempts)
    (run : Runs (l.foldlM (closeOne b) progress) s t next after) (stored : ∀ m ∈ t, m.Stored) :
    Settled s₀ (l.foldl (Attempt.mark fun a =>
      (b.winner? a).bind fun w => progress.recorded.lookup w.id) done) new after ∧
      next.recorded = progress.recorded ∧ ∀ m ∈ t, Quiet m := by
  induction l generalizing s t done progress with
  | nil =>
    obtain ⟨rfl, rfl, rfl⟩ := runs_pure_iff.1 run
    exact ⟨settled, rfl, by simp⟩
  | cons a l ih =>
    rw [List.foldlM_cons] at run
    obtain ⟨middle, s₁, first, rest, rfl, head, tail⟩ := runs_bind_iff.1 run
    rw [List.forall_mem_append] at stored
    rw [List.forall_mem_cons] at sub
    obtain ⟨closing, kept⟩ := runs_closeOne head
    have settled₁ : Settled s₀ (Attempt.mark (fun a =>
        (b.winner? a).bind fun w => progress.recorded.lookup w.id) done a) new s₁ := by
      cases closing with
      | kept unknown => simpa [Attempt.mark, unknown] using settled
      | lost e found => simp [Moment.Stored, Moment.fault?] at stored
      | closed found wrote =>
        simpa [Attempt.mark, found] using settled.complete distinct sub.1 wrote
    obtain ⟨settled₂, kept₂, quiet⟩ := ih settled₁ sub.2 tail stored.2
    refine ⟨?_, kept₂.trans kept, List.forall_mem_append.2 ⟨closing.quiet, quiet⟩⟩
    rw [kept] at settled₂
    exact settled₂

/-- The outcomes after an answered group: those that the answer has for attempts of its operation,
and the earlier ones. -/
theorem foldl_mark_toClose {queue : List Attempt} {maxCreates : Nat} {op : Operation} {g : Answer}
    {recorded recorded' : Uuid → Option Completion}
    (distinct : (s₀.attempts.map (·.id)).Nodup) (sub : queue.Sublist s₀.attempts)
    (unrecorded : ∀ a ∈ s₀.attempts, a.operation = op → recorded a.id = none)
    (record : recorded' = ((Batch.build queue maxCreates).group op).foldl
      (Attempt.mark fun a => g.completion? a.id) recorded)
    (mem : a ∈ s₀.attempts) :
    (toClose queue (Batch.build queue maxCreates) op).foldl
        (Attempt.mark fun a =>
          ((Batch.build queue maxCreates).winner? a).bind fun w => recorded' w.id)
        (((Batch.build queue maxCreates).group op).foldl
          (Attempt.mark fun a => g.completion? a.id) done) a.id =
      (if a.operation = op then (Batch.build queue maxCreates).outcomeIn? g a else none).or
        (done a.id) := by
  have own : (queue.map (·.id)).Nodup := distinct.sublist (sub.map _)
  have group_sub : ∀ a ∈ (Batch.build queue maxCreates).group op, a ∈ s₀.attempts :=
    fun a h => sub.subset (Batch.mem_of_mem_group h).1
  have close_sub : ∀ a ∈ toClose queue (Batch.build queue maxCreates) op, a ∈ s₀.attempts :=
    fun a h => sub.subset (mem_toClose.1 h).2.1
  rw [Attempt.foldl_mark_eq distinct close_sub mem, Attempt.foldl_mark_eq distinct group_sub mem]
  by_cases sent : a ∈ (Batch.build queue maxCreates).group op
  · obtain ⟨listed, rfl⟩ := Batch.mem_of_mem_group sent
    have not_closed : a ∉ toClose queue (Batch.build queue maxCreates) a.operation := by
      intro h
      obtain ⟨update, -, superseded⟩ := mem_toClose.1 h
      rw [update] at sent
      exact ((Batch.mem_superseded_iff own listed).1 superseded).2.2 sent
    rw [if_neg not_closed, if_pos sent, if_pos rfl, Batch.outcomeIn?, if_pos sent]
  · rw [if_neg sent]
    by_cases close : a ∈ toClose queue (Batch.build queue maxCreates) op
    · obtain ⟨rfl, listed, superseded⟩ := mem_toClose.1 close
      obtain ⟨-, update, -⟩ := (Batch.mem_superseded_iff own listed).1 superseded
      rw [if_pos close, if_pos update, Batch.outcomeIn?, update, if_neg sent, if_pos superseded]
      -- The winner has just been recorded, and not before.
      congr 1
      cases winner : (Batch.build queue maxCreates).winner? a with
      | none => rfl
      | some w =>
        have kept : w ∈ (Batch.build queue maxCreates).group .update :=
          (Batch.winner?_eq_some_iff.1 winner).1
        have update := (Batch.mem_of_mem_group kept).2
        show recorded' w.id = g.completion? w.id
        rw [record, Attempt.foldl_mark_eq distinct group_sub (group_sub w kept), if_pos kept,
          unrecorded w (group_sub w kept) update, Option.or_none]
    · rw [if_neg close]
      split
      · rename_i same
        subst same
        have not_superseded : a.id ∉ (Batch.build queue maxCreates).superseded := by
          intro superseded
          obtain ⟨b, listed, same, update⟩ := Batch.exists_of_mem_superseded superseded
          obtain rfl := Attempt.eq_of_id_eq distinct (sub.subset listed) mem same
          exact close (mem_toClose.2 ⟨update, listed, superseded⟩)
        rw [Batch.outcomeIn?, if_neg sent, if_neg not_superseded, Option.none_or]
      · rfl

/-- What the turn of a group comes to: its answer, the outcomes that this has for the attempts of a
table, and the new attempts. -/
structure Turned (b : Batch) (rows : List Attempt) (op : Operation) (group : List Attempt)
    (t : List Moment) (answer : Option Answer) (done done' : Uuid → Option Completion)
    (more : List Attempt) : Prop where
  answered : Answered t op answer
  others : ∀ op', op ≠ op' → Silent op' t
  outcomes : ∀ a ∈ rows, done' a.id =
    (if a.operation = op then answer.bind fun g => b.outcomeIn? g a else none).or (done a.id)
  repeated : List.Forall₂ Attempt.Repeats
    (group.filter fun a => a.fails (answer.bind fun g => b.outcomeIn? g a)) more

/-- What the turns of groups come to: their answers, the outcomes that these have for the attempts of
a table, and the new attempts. -/
structure Turns (b : Batch) (rows : List Attempt) (groups : List (Operation × List Attempt))
    (t : List Moment) (answers : Operation → Option Answer) (done done' : Uuid → Option Completion)
    (more : List Attempt) : Prop where
  answered : ∀ op, Answered t op (answers op)
  silent : ∀ op, op ∉ groups.map Prod.fst → Silent op t
  outcomes : ∀ a ∈ rows, done' a.id = (b.outcome? answers a).or (done a.id)
  repeated : List.Forall₂ Attempt.Repeats
    (groups.flatMap fun g => g.2.filter fun a => a.fails (b.outcome? answers a)) more

/-- The table after the turns of all groups. -/
theorem Turns.rows {b : Batch} {more : List Attempt} {groups : List (Operation × List Attempt)}
    {answers : Operation → Option Answer}
    (turns : Turns b s₀.attempts groups t answers (fun _ => none) done more)
    (settled : Settled s₀ done more s) :
    s.attempts = (s₀.attempts.map fun a => a.settle (b.outcome? answers a)) ++ more := by
  rw [settled.attempts]
  congr 1
  apply List.map_congr_left
  intro a mem
  rw [turns.outcomes a mem, Option.or_none]

/-- Nothing more is sent. -/
theorem Turns.none (b : Batch) (rows : List Attempt) (groups : List (Operation × List Attempt)) :
    Turns b rows groups [] (fun _ => .none) done done [] := by
  have silent : ∀ op, Silent op [] := fun _ _ h => by cases h
  refine ⟨fun op => (silent op).answered, fun op _ => silent op, fun _ _ => rfl, ?_⟩
  have nothing : (groups.flatMap fun g => g.2.filter fun a =>
      a.fails (b.outcome? (fun _ => .none) a)) = [] := by
    simp [Batch.outcome?, Attempt.fails]
  rw [nothing]
  exact .nil

/-- A turn before others. -/
theorem Turns.cons {b : Batch} {rows group more more' : List Attempt} {op : Operation}
    {groups : List (Operation × List Attempt)} {t t' : List Moment}
    {answers : Operation → Option Answer} {answer : Option Answer}
    {done done₁ done' : Uuid → Option Completion}
    (sorted : ∀ g ∈ (op, group) :: groups, ∀ a ∈ g.2, a.operation = g.1)
    (once : op ∉ groups.map Prod.fst) (turn : Turned b rows op group t answer done done₁ more)
    (rest : Turns b rows groups t' answers done₁ done' more') :
    Turns b rows ((op, group) :: groups) (t ++ t') (Function.update answers op answer) done done'
      (more ++ more') := by
  have same {a : Attempt} (h : a.operation = op) :
      b.outcome? (Function.update answers op answer) a = answer.bind fun g => b.outcomeIn? g a := by
    rw [Batch.outcome?, h, Function.update_self]
  have other {a : Attempt} (h : a.operation ≠ op) :
      b.outcome? (Function.update answers op answer) a = b.outcome? answers a := by
    rw [Batch.outcome?, Function.update_of_ne h, Batch.outcome?]
  have unanswered : answers op = .none := (rest.answered op).eq_none (rest.silent op once)
  refine ⟨?_, ?_, ?_, ?_⟩
  · intro op'
    by_cases h : op' = op
    · subst h
      rw [Function.update_self]
      exact turn.answered.append_silent (rest.silent op' once)
    · rw [Function.update_of_ne h]
      exact (rest.answered op').silent_append (turn.others op' (Ne.symm h))
  · intro op' out
    rw [List.map_cons, List.mem_cons, not_or] at out
    exact (turn.others op' (Ne.symm out.1)).append (rest.silent op' out.2)
  · intro a mem
    rw [rest.outcomes a mem, turn.outcomes a mem]
    by_cases h : a.operation = op
    · rw [same h, if_pos h, Batch.outcome?, h, unanswered, Option.bind_none, Option.none_or]
    · rw [other h, if_neg h, Option.none_or]
  · rw [List.flatMap_cons]
    refine List.rel_append ?_ ?_
    · have here : ∀ a ∈ group, a.operation = op := sorted (op, group) List.mem_cons_self
      rw [List.filter_congr fun a mem => by rw [same (here a mem)]]
      exact turn.repeated
    · have there : ∀ g ∈ groups, ∀ a ∈ g.2, a.operation ≠ op := by
        intro g hg a ha h
        rw [sorted g (List.mem_cons_of_mem _ hg) a ha] at h
        exact once (h ▸ List.mem_map_of_mem hg)
      have kept : (groups.flatMap fun g => g.2.filter fun a =>
          a.fails (b.outcome? (Function.update answers op answer) a)) =
          groups.flatMap fun g => g.2.filter fun a => a.fails (b.outcome? answers a) := by
        apply List.flatMap_congr
        intro g hg
        exact List.filter_congr fun a ha => by rw [other (there g hg a ha)]
      rw [kept]
      exact rest.repeated

/-- The turn of a group whose sending failed. -/
theorem Turned.of_error {policy : CallPolicy} {b : Batch} {rows group : List Attempt} {op : Operation}
    {e : DomainError} (sent : Runs (sendGroup policy op group) s t (.error e) after) :
    Turned b rows op group t none done done [] := by
  obtain ⟨-, sending, reply, -⟩ := runs_sendGroup sent
  refine ⟨⟨reply, by simp, by simp⟩, ?_, ?_, ?_⟩
  · exact fun op' ne m mem => (sending m mem).other op' ne
  · intro a mem
    simp
  · simp [Attempt.fails]

/-- A group has been sent, and the clock is read for its answer. -/
theorem answered_of_ok {policy : CallPolicy} {group : List Attempt} {op : Operation} {g : Answer}
    {t' : List Moment} (sent : Runs (sendGroup policy op group) s t (.ok (g.call, g.results)) after) :
    Answered (t ++ ⟨after, .now, g.syncedAt⟩ :: t') op (some g) := by
  obtain ⟨-, -, reply, opened⟩ := runs_sendGroup sent
  have replied : t.findSome? (Moment.reply? op) = some g.results := reply
  refine ⟨?_, ?_, ?_⟩
  · rw [List.findSome?_append, replied]
    rfl
  · rintro _ ⟨⟩
    rw [List.findSome?_append, opened (g.call, g.results) rfl]
    rfl
  · rintro _ ⟨⟩
    exact ⟨_, List.mem_append_right _ List.mem_cons_self, rfl⟩

/-- Within a group, the outcomes are those that its answer has by identifier. -/
theorem filter_fails_group {queue : List Attempt} {maxCreates : Nat} {op : Operation} (g : Answer) :
    (((Batch.build queue maxCreates).group op).filter fun a =>
        a.fails ((some g).bind fun g => (Batch.build queue maxCreates).outcomeIn? g a)) =
      ((Batch.build queue maxCreates).group op).filter fun a => a.fails (g.completion? a.id) := by
  apply List.filter_congr
  intro a mem
  obtain ⟨-, rfl⟩ := Batch.mem_of_mem_group mem
  rw [Option.bind_some, Batch.outcomeIn?, if_pos mem]

/-- The answer for a group is recorded, and superseded updates are closed. -/
theorem Settled.answer {queue : List Attempt} {maxCreates : Nat} {op : Operation} {g : Answer}
    {progress progress' next : Progress} {s' : Store} {t t' : List Moment}
    (settled : Settled s₀ done new s) (distinct : (s₀.attempts.map (·.id)).Nodup)
    (sub : queue.Sublist s₀.attempts)
    (unrecorded : ∀ a ∈ s₀.attempts, a.operation = op → progress.recorded.lookup a.id = none)
    (recording : Runs (((Batch.build queue maxCreates).group op).foldlM
      (recordOne g.call g.results g.syncedAt) progress) s t progress' s')
    (closing : Runs ((toClose queue (Batch.build queue maxCreates) op).foldlM
      (closeOne (Batch.build queue maxCreates)) progress') s' t' next after)
    (stored : ∀ m ∈ t ++ t', m.Stored) :
    ∃ done' more, Settled s₀ done' (new ++ more) after ∧
      (∀ a ∈ s₀.attempts, done' a.id = (if a.operation = op then
        (Batch.build queue maxCreates).outcomeIn? g a else none).or (done a.id)) ∧
      List.Forall₂ Attempt.Repeats (((Batch.build queue maxCreates).group op).filter fun a =>
        a.fails (g.completion? a.id)) more ∧
      (∀ a ∈ s₀.attempts, a.operation ≠ op →
        next.recorded.lookup a.id = progress.recorded.lookup a.id) ∧
      ∀ m ∈ t ++ t', Quiet m := by
  rw [List.forall_mem_append] at stored
  have group_sub : ∀ a ∈ (Batch.build queue maxCreates).group op, a ∈ s₀.attempts :=
    fun a h => sub.subset (Batch.mem_of_mem_group h).1
  have close_sub : ∀ a ∈ toClose queue (Batch.build queue maxCreates) op, a ∈ s₀.attempts :=
    fun a h => sub.subset (mem_toClose.1 h).2.1
  obtain ⟨more, settled₁, repeats, recorded, quiet₁⟩ :=
    settled.record_all distinct group_sub recording stored.1
  obtain ⟨settled₂, kept, quiet₂⟩ := settled₁.close_all distinct close_sub closing stored.2
  refine ⟨_, more, settled₂, fun a mem => ?_, repeats, fun a mem other => ?_,
    List.forall_mem_append.2 ⟨quiet₁, quiet₂⟩⟩
  · exact foldl_mark_toClose distinct sub unrecorded recorded mem
  · have out : a ∉ (Batch.build queue maxCreates).group op :=
      fun h => other (Batch.mem_of_mem_group h).2
    have lookup := congrFun recorded a.id
    rw [Attempt.foldl_mark_eq distinct group_sub mem, if_neg out] at lookup
    rw [kept]
    exact lookup

/-- The turn of one group, and what is left to run after it. -/
theorem Settled.turn {policy : CallPolicy} {queue : List Attempt} {maxCreates : Nat}
    {op : Operation} {groups : List (Operation × List Attempt)} {progress : Progress}
    {result : Except DomainError CycleReport} (settled : Settled s₀ done new s)
    (distinct : (s₀.attempts.map (·.id)).Nodup) (sub : queue.Sublist s₀.attempts)
    (unrecorded : ∀ a ∈ s₀.attempts, a.operation = op → progress.recorded.lookup a.id = none)
    (run : Runs (sendGroups policy queue (Batch.build queue maxCreates)
      ((op, (Batch.build queue maxCreates).group op) :: groups) progress) s t result after)
    (stored : ∀ m ∈ t, m.Stored) :
    ∃ answer first rest done₁ more middle,
      t = first ++ rest ∧
      Turned (Batch.build queue maxCreates) s₀.attempts op
        ((Batch.build queue maxCreates).group op) first answer done done₁ more ∧
      Settled s₀ done₁ (new ++ more) middle ∧
      ((rest = [] ∧ after = middle) ∨
        ∃ next : Progress,
          Runs (sendGroups policy queue (Batch.build queue maxCreates) groups next)
            middle rest result after ∧
          ∀ a ∈ s₀.attempts, a.operation ≠ op →
            next.recorded.lookup a.id = progress.recorded.lookup a.id) := by
  have unchanged {middle : Store} (alike : s.Alike middle) : Settled s₀ done (new ++ []) middle := by
    rw [List.append_nil]
    exact settled.alike alike
  cases runs_sendGroups_cons run with
  | shutdown sent =>
    obtain ⟨alike, -⟩ := runs_sendGroup sent
    exact ⟨none, t, [], done, [], after, (List.append_nil t).symm, .of_error sent, unchanged alike,
      .inl ⟨rfl, rfl⟩⟩
  | @failed e first rest next middle _ _ sent kept more =>
    obtain ⟨alike, -⟩ := runs_sendGroup sent
    refine ⟨none, first, rest, done, [], middle, rfl, .of_error sent, unchanged alike,
      .inr ⟨next, more, ?_⟩⟩
    intro a _ _
    rw [kept]
  | @answered call results syncedAt t₁ t₂ t₃ t₄ _ progress₂ next s₁ s₂ middle _ _ sent kept
      recording closing more =>
    obtain ⟨alike, sending, -⟩ := runs_sendGroup sent
    obtain ⟨-, stored⟩ := List.forall_mem_append.1 stored
    obtain ⟨-, stored⟩ := List.forall_mem_cons.1 stored
    rw [← List.append_assoc] at stored
    let g : Answer := ⟨call, syncedAt, results⟩
    obtain ⟨done₁, new', settled₁, outcomes, repeats, recorded, quiet⟩ :=
      (settled.alike alike).answer (g := g) distinct sub (kept ▸ unrecorded) recording closing
        (List.forall_mem_append.1 stored).1
    have silent : ∀ op', Silent op' (⟨s₁, .now, syncedAt⟩ :: (t₂ ++ t₃)) := fun op' =>
      List.forall_mem_cons.2 ⟨⟨rfl, rfl⟩, fun m mem => (quiet m mem).silent op'⟩
    refine ⟨some g, t₁ ++ ⟨s₁, .now, syncedAt⟩ :: (t₂ ++ t₃), t₄, done₁, new', middle, by simp,
      ⟨answered_of_ok (g := g) sent, ?_, outcomes, ?_⟩, settled₁, .inr ⟨next, more, ?_⟩⟩
    · exact fun op' ne => Silent.append (fun m mem => (sending m mem).other op' ne) (silent op')
    · rw [filter_fails_group]
      exact repeats
    · intro a mem other
      rw [recorded a mem other, kept]

/-- Sending groups one after the other. -/
theorem Settled.send_groups {policy : CallPolicy} {queue : List Attempt} {maxCreates : Nat}
    {groups : List (Operation × List Attempt)} {progress : Progress}
    {result : Except DomainError CycleReport} (settled : Settled s₀ done new s)
    (distinct : (s₀.attempts.map (·.id)).Nodup) (sub : queue.Sublist s₀.attempts)
    (own : ∀ g ∈ groups, g.2 = (Batch.build queue maxCreates).group g.1)
    (once : (groups.map Prod.fst).Nodup)
    (unrecorded : ∀ a ∈ s₀.attempts, a.operation ∈ groups.map Prod.fst →
      progress.recorded.lookup a.id = none)
    (run : Runs (sendGroups policy queue (Batch.build queue maxCreates) groups progress)
      s t result after) (stored : ∀ m ∈ t, m.Stored) :
    ∃ answers done' more, Settled s₀ done' (new ++ more) after ∧
      Turns (Batch.build queue maxCreates) s₀.attempts groups t answers done done' more := by
  induction groups generalizing s t done new progress with
  | nil =>
    obtain ⟨rfl, rfl⟩ := runs_sendGroups_nil run
    exact ⟨_, done, [], by rwa [List.append_nil], .none _ _ _⟩
  | cons head groups ih =>
    obtain ⟨op, group⟩ := head
    have sorted : ∀ g ∈ (op, group) :: groups, ∀ a ∈ g.2, a.operation = g.1 := by
      intro g hg a ha
      rw [own g hg] at ha
      exact (Batch.mem_of_mem_group ha).2
    obtain rfl : group = (Batch.build queue maxCreates).group op := own (op, group) List.mem_cons_self
    rw [List.map_cons, List.nodup_cons] at once
    have fresh : ∀ a ∈ s₀.attempts, a.operation = op → progress.recorded.lookup a.id = none :=
      fun a mem same => unrecorded a mem (same ▸ List.mem_cons_self)
    obtain ⟨answer, first, rest, done₁, more, middle, rfl, turned, settled₁, last⟩ :=
      settled.turn distinct sub fresh run stored
    rcases last with ⟨rfl, rfl⟩ | ⟨next, run', kept⟩
    · exact ⟨_, done₁, more ++ [], by rwa [List.append_nil], .cons sorted once.1 turned (.none _ _ _)⟩
    · have unrecorded' : ∀ a ∈ s₀.attempts, a.operation ∈ groups.map Prod.fst →
          next.recorded.lookup a.id = none := by
        intro a mem later
        have other : a.operation ≠ op := fun same => once.1 (same ▸ later)
        rw [kept a mem other]
        exact unrecorded a mem (List.mem_cons_of_mem _ later)
      obtain ⟨answers, done', more', settled₂, turns⟩ :=
        ih settled₁ (fun g hg => own g (List.mem_cons_of_mem _ hg)) once.2 unrecorded' run'
          fun m mem => stored m (List.mem_append_right _ mem)
      refine ⟨_, done', more ++ more', ?_, .cons sorted once.1 turned turns⟩
      rw [← List.append_assoc]
      exact settled₂

/-- A whole cycle, in terms of the outcomes by identifier. -/
theorem settled_run {policy : CallPolicy} {maxCreates : Nat} {department : String}
    {result : Except DomainError CycleReport} (distinct : (s.attempts.map (·.id)).Nodup)
    (run : Runs (Cycle.run policy maxCreates department) s t result after)
    (stored : ∀ m ∈ t, m.Stored) :
    ∃ answers done more, Settled s done more after ∧
      Turns (Batch.build (s.pending department) maxCreates) s.attempts
        (Batch.build (s.pending department) maxCreates).groups t answers (fun _ => none) done
        more := by
  obtain ⟨e, rfl, rfl, -⟩ | ⟨rest, rfl, sent⟩ := runs_run run
  · simp [Moment.Stored, Moment.fault?] at stored
  · have start : Settled s (fun _ => none) [] s := by
      refine ⟨?_, rfl⟩
      rw [List.append_nil]
      exact (List.map_id s.attempts).symm
    have own : ∀ g ∈ (Batch.build (s.pending department) maxCreates).groups,
        g.2 = (Batch.build (s.pending department) maxCreates).group g.1 :=
      fun g mem => (Batch.mem_groups.1 mem).1
    obtain ⟨answers, done, more, settled, turns⟩ := start.send_groups distinct List.filter_sublist
      own (Batch.nodup_groups _) (fun _ _ _ => rfl) sent
      fun m mem => stored m (List.mem_cons_of_mem _ mem)
    have read : ∀ op, Silent op
        [⟨s, .pendingAttempts department, .ok (s.pending department)⟩] := by
      intro op m mem
      obtain rfl := List.mem_singleton.1 mem
      exact ⟨rfl, rfl⟩
    exact ⟨answers, done, more, settled, fun op => (turns.answered op).silent_append (read op),
      fun op out => (read op).append (turns.silent op out), turns.outcomes, turns.repeated⟩

/-- What a cycle makes of the table of attempts, whatever the Planner answers and whenever a
shutdown comes: the attempts that the answers name, and the superseded updates of those, have their
outcome; transient failures are proposed again, and every other row stays. -/
theorem attempts_run {policy : CallPolicy} {maxCreates : Nat} {department : String}
    {result : Except DomainError CycleReport} (distinct : (s.attempts.map (·.id)).Nodup)
    (run : Runs (Cycle.run policy maxCreates department) s t result after)
    (stored : ∀ m ∈ t, m.Stored) :
    ∃ answers resends, (∀ op, Answered t op (answers op)) ∧
      after.attempts = (s.attempts.map fun a =>
        a.settle ((Batch.build (s.pending department) maxCreates).outcome? answers a)) ++ resends ∧
      List.Forall₂ Attempt.Repeats
        ((Batch.build (s.pending department) maxCreates).attempts.filter fun a =>
          a.fails ((Batch.build (s.pending department) maxCreates).outcome? answers a)) resends ∧
      (∀ a ∈ s.attempts, a ∉ s.pending department →
        (Batch.build (s.pending department) maxCreates).outcome? answers a = none) ∧
      after.events = s.events := by
  obtain ⟨answers, done, more, settled, turns⟩ := settled_run distinct run stored
  refine ⟨answers, more, turns.answered, ?_, ?_, ?_, settled.events⟩
  · rw [settled.attempts]
    congr 1
    apply List.map_congr_left
    intro a mem
    rw [turns.outcomes a mem, Option.or_none]
  · rw [← Batch.flatMap_groups]
    exact turns.repeated
  · intro a mem out
    rw [Option.eq_none_iff_forall_ne_some]
    intro c outcome
    exact out (Batch.mem_of_outcome? distinct List.filter_sublist mem outcome)

/-- In the sample the winner of the two updates is proposed again. -/
theorem attempts_run_sample :
    (World.run (Cycle.run World.samplePolicy 10 "rooms") World.sample).1.store.attempts.length = 5 ∧
    ∃ answers resends,
      (World.run (Cycle.run World.samplePolicy 10 "rooms") World.sample).1.store.attempts =
        (World.sample.store.attempts.map fun a => a.settle
          ((Batch.build (World.sample.store.pending "rooms") 10).outcome? answers a)) ++ resends := by
  obtain ⟨result, run, -⟩ := World.exists_runs World.sample
    (Cycle.run World.samplePolicy 10 "rooms") rfl (by decide +kernel)
  obtain ⟨answers, resends, -, rows, -⟩ := attempts_run (by decide +kernel) run (by decide +kernel)
  exact ⟨by decide +kernel, answers, resends, rows⟩

end Cycle
end CalendarSync
