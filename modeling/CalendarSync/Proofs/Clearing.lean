import CalendarSync.Proofs.Overtaking
import CalendarSync.Proofs.Tries

/-!
# Cycles whose batch is answered

A cycle in which the Planner has a result for each attempt of the batch leaves little behind: of the
queue only the creates beyond the cap go on waiting, and what else waits afterwards repeats a
transient failure.
-/

namespace CalendarSync
set_option autoImplicit false
open Program Simulation

/-- A failure that may pass. -/
def ItemResult.isTransient (r : ItemResult) : Bool :=
  !r.success && r.errorCode.bind CodeKind.ofCode? == some .transient

@[simp] theorem Attempt.isTransient_complete_completion (a : Attempt) (r : ItemResult)
    (syncedAt : Timestamp) (call : Uuid) :
    (a.complete (r.completion syncedAt call)).isTransient = r.isTransient := by
  rw [Bool.eq_iff_iff, Attempt.isTransient_complete_iff, ItemResult.completion,
    ItemResult.isTransient]
  cases r.success <;> simp [Completion.succeeded, Completion.failed, Option.bind_eq_some_iff]

/-! ## Replies -/

/-- A call that carries an attempt is answered, with a result of an accepted kind for it. -/
def Moment.grants (accept : ItemResult → Bool) (a : Attempt) : Moment → Bool
  | ⟨_, .send _ group _ _, .ok results⟩ =>
    decide (a ∈ group) && (ItemResult.lastFor? results a.id).any accept
  | _ => false

theorem Moment.grants_iff {accept : ItemResult → Bool} {a : Attempt} {m : Moment} :
    m.grants accept a = true ↔ a ∈ m.sent ∧ ∃ op results, m.reply? op = some results ∧
      (ItemResult.lastFor? results a.id).any accept = true := by
  obtain ⟨store, request, answer⟩ := m
  cases request with
  | send op group correlation limit =>
    cases answer with
    | ok results => simp [grants, sent, reply?]
    | error e => simp [grants, reply?]
  | _ => simp [grants, reply?]

namespace Cycle
variable {policy : CallPolicy} {op : Operation} {group : List Attempt} {s after : Store}
  {t : List Moment}

/-- Of the tries of a call only the last one can be answered. -/
theorem Sends.reply? {correlation : String}
    {final : Option (Except PlannerError (List ItemResult))}
    (sends : Sends policy op group correlation s t final) : ∀ m ∈ t, ∀ op' results,
      m.reply? op' = some results → op' = op ∧ m.sent = group ∧ final = some (.ok results) := by
  induction sends with
  | stopped => simp [Moment.reply?]
  | last answer =>
    cases answer with
    | ok results =>
      simp only [List.forall_mem_cons]
      refine ⟨by simp [Moment.reply?], fun op' results' replied => ?_, by simp⟩
      obtain ⟨rfl, rfl⟩ : op = op' ∧ results = results' := by simpa using replied
      exact ⟨rfl, rfl, rfl⟩
    | error e => simp [Moment.reply?]
  | cut e policy retry => simp [Moment.reply?]
  | again e policy retry rest ih =>
    simp only [List.forall_mem_cons]
    refine ⟨by simp [Moment.reply?], by simp [Moment.reply?], by simp [Moment.reply?], ?_⟩
    intro m mem op' results replied
    obtain ⟨same, whole, rfl⟩ := ih m mem op' results replied
    exact ⟨same, whole, rfl⟩

/-- The replies are to these operations, each one is the first of its operation, and it is to a call
that carries the whole group of the batch. -/
def Replying (b : Batch) (ops : List Operation) (t : List Moment) : Prop :=
  ∀ m ∈ t, ∀ op results, m.reply? op = some results →
    op ∈ ops ∧ m.sent = b.group op ∧ t.findSome? (Moment.reply? op) = some results

namespace Replying
variable {b : Batch} {ops ops' : List Operation} {t' : List Moment}

theorem mono (replying : Replying b ops t) (more : ops ⊆ ops') : Replying b ops' t := by
  intro m mem op results replied
  obtain ⟨listed, whole, found⟩ := replying m mem op results replied
  exact ⟨more listed, whole, found⟩

theorem of_silent (silent : ∀ m ∈ t, ∀ op, m.reply? op = none) : Replying b [] t := by
  intro m mem op results replied
  rw [silent m mem op] at replied
  cases replied

/-- Replies to other operations may follow. -/
theorem append (first : Replying b ops t) (second : Replying b ops' t')
    (apart : ∀ op ∈ ops', op ∉ ops) : Replying b (ops ++ ops') (t ++ t') := by
  refine List.forall_mem_append.2 ⟨fun m mem op results replied => ?_, fun m mem op results replied => ?_⟩
  · obtain ⟨listed, whole, found⟩ := first m mem op results replied
    refine ⟨List.mem_append_left _ listed, whole, ?_⟩
    rw [List.findSome?_append, found, Option.some_or]
  · obtain ⟨listed, whole, found⟩ := second m mem op results replied
    have nothing : t.findSome? (Moment.reply? op) = none := by
      refine List.findSome?_eq_none_iff.2 fun m mem => ?_
      cases early : m.reply? op with
      | none => rfl
      | some results => exact absurd (first m mem op results early).1 (apart op listed)
    refine ⟨List.mem_append_right _ listed, whole, ?_⟩
    rw [List.findSome?_append, nothing, found, Option.none_or]

/-- The turn of a group. -/
theorem sendGroup {result : Except DomainError (Uuid × List ItemResult)}
    (run : Runs (Cycle.sendGroup policy op (b.group op)) s t result after)
    (stored : ∀ m ∈ t, m.Stored) : Replying b [op] t := by
  obtain ⟨-, -, first, -⟩ := runs_sendGroup run
  have replies : ∀ m ∈ t, ∀ op' results, m.reply? op' = some results →
      op' = op ∧ m.sent = b.group op ∧ t.findSome? (Moment.reply? op) = some results := by
    rw [first]
    cases posting_sendGroup run stored with
    | @posted correlation id startedAt endedAt opened _ calls final reply response opens tries
        answered closes =>
      refine List.forall_mem_append.2 ⟨by simp [Moment.reply?], List.forall_mem_append.2
        ⟨fun m mem op' results replied => ?_, by simp [Moment.reply?]⟩⟩
      obtain ⟨-, rfl, -⟩ | sends := tries
      · cases mem
      · obtain ⟨same, whole, rfl⟩ := Sends.reply? sends m mem op' results replied
        refine ⟨same, whole, ?_⟩
        cases reply with
        | ok results' => exact answered
        | error e => cases answered
  intro m mem op' results replied
  obtain ⟨rfl, whole, found⟩ := replies m mem op' results replied
  exact ⟨List.mem_singleton_self _, whole, found⟩

theorem sendGroups {queue : List Attempt} {groups : List (Operation × List Attempt)}
    {progress : Progress} {result : Except DomainError CycleReport}
    (own : ∀ g ∈ groups, g.2 = b.group g.1) (once : (groups.map Prod.fst).Nodup)
    (run : Runs (Cycle.sendGroups policy queue b groups progress) s t result after)
    (stored : ∀ m ∈ t, m.Stored) : Replying b (groups.map Prod.fst) t := by
  induction groups generalizing s t progress with
  | nil =>
    obtain ⟨rfl, -⟩ := runs_sendGroups_nil run
    exact of_silent (by simp)
  | cons head groups ih =>
    obtain ⟨op, group⟩ := head
    rw [List.map_cons, List.nodup_cons] at once
    obtain rfl : group = b.group op := own (op, group) List.mem_cons_self
    have others := fun g mem => own g (List.mem_cons_of_mem _ mem)
    have apart : ∀ op' ∈ groups.map Prod.fst, op' ∉ [op] := fun op' later same =>
      once.1 (List.mem_singleton.1 same ▸ later)
    cases runs_sendGroups_cons run with
    | shutdown sent => exact (sendGroup sent stored).mono (by simp)
    | failed sent kept more =>
      rw [List.forall_mem_append] at stored
      exact (sendGroup sent stored.1).append (ih others once.2 more stored.2) apart
    | @answered call results syncedAt t₁ t₂ t₃ t₄ progress₁ progress₂ progress₃ s₁ s₂ s₃ _ _ sent
        kept recording closing more =>
      have split : t₁ ++ ⟨s₁, .now, syncedAt⟩ :: (t₂ ++ (t₃ ++ t₄)) =
          t₁ ++ ((⟨s₁, .now, syncedAt⟩ :: (t₂ ++ t₃)) ++ t₄) := by simp
      have silent : ∀ m ∈ (⟨s₁, .now, syncedAt⟩ : Moment) :: (t₂ ++ t₃), ∀ op,
          m.reply? op = none := by
        refine List.forall_mem_cons.2 ⟨fun _ => rfl, List.forall_mem_append.2 ⟨?_, ?_⟩⟩
        · exact fun m mem op => ((quiet_record recording m mem).silent op).1
        · exact fun m mem op => ((quiet_close closing m mem).silent op).1
      rw [split] at stored ⊢
      rw [List.forall_mem_append, List.forall_mem_append] at stored
      have later := (of_silent silent).append (ih others once.2 more stored.2.2) (by simp)
      exact (sendGroup sent stored.1).append later apart

end Replying
end Cycle

namespace Batch
variable {queue : List Attempt} {maxCreates : Nat} {a w : Attempt}

/-- The creates that a batch leaves out. -/
def deferred (queue : List Attempt) (maxCreates : Nat) : List Attempt :=
  (Attempt.oldestFirst (waiting queue .create)).drop maxCreates

theorem mem_waiting_of_mem_deferred (mem : a ∈ deferred queue maxCreates) :
    a ∈ waiting queue .create :=
  Attempt.mem_oldestFirst.1 (List.mem_of_mem_drop mem)

/-- What is left out has no outcome. -/
theorem outcome?_of_mem_deferred (distinct : (queue.map (·.id)).Nodup)
    (mem : a ∈ deferred queue maxCreates) (answers : Operation → Option Answer) :
    (build queue maxCreates).outcome? answers a = none := by
  obtain ⟨listed, -, create⟩ := mem_waiting.1 (mem_waiting_of_mem_deferred mem)
  have nodup : (Attempt.oldestFirst (waiting queue .create)).Nodup :=
    (Attempt.oldestFirst_perm _).nodup_iff.2 (distinct.of_map.filter _)
  have unsent : a ∉ (build queue maxCreates).group a.operation := by
    rw [create]
    intro sent
    rw [← List.take_append_drop maxCreates (Attempt.oldestFirst _), List.nodup_append] at nodup
    exact nodup.2.2 a sent a mem rfl
  have kept : a.id ∉ (build queue maxCreates).superseded := fun superseded => by
    obtain ⟨-, update, -⟩ := (mem_superseded_iff distinct listed).1 superseded
    rw [create] at update
    cases update
  cases answered : answers a.operation with
  | none => rw [outcome?, answered, Option.bind_none]
  | some g => rw [outcome?, answered, Option.bind_some, outcomeIn?, if_neg unsent, if_neg kept]

/-- Everything else has the outcome of an attempt that is sent. -/
theorem exists_sent (distinct : (queue.map (·.id)).Nodup) (mem : a ∈ queue)
    (pending : a.isPending = true) (kept : a ∉ deferred queue maxCreates) :
    ∃ w ∈ (build queue maxCreates).group a.operation,
      ∀ g, (build queue maxCreates).outcomeIn? g a = g.completion? w.id := by
  have sent (here : a ∈ (build queue maxCreates).group a.operation) :
      ∃ w ∈ (build queue maxCreates).group a.operation,
        ∀ g, (build queue maxCreates).outcomeIn? g a = g.completion? w.id :=
    ⟨a, here, fun g => by rw [outcomeIn?, if_pos here]⟩
  have waits (op : Operation) (same : a.operation = op) : a ∈ waiting queue op :=
    mem_waiting.2 ⟨mem, pending, same⟩
  cases op : a.operation with
  | create =>
    have listed := Attempt.mem_oldestFirst.2 (waits .create op)
    rw [← List.take_append_drop maxCreates (Attempt.oldestFirst _), List.mem_append] at listed
    exact op ▸ sent (op ▸ listed.resolve_right kept)
  | update =>
    obtain ⟨w, winner, -⟩ := exists_winner maxCreates (waits .update op)
    refine ⟨w, (winner?_eq_some_iff.1 winner).1, fun g => ?_⟩
    rw [outcomeIn?_update distinct g (waits .update op), winner, Option.bind_some]
  | delete => exact op ▸ sent (op ▸ Attempt.mem_oldestFirst.2 (waits .delete op))

end Batch

namespace Cycle
variable {policy : CallPolicy} {s after : Store} {t : List Moment} {accept : ItemResult → Bool}
  {maxCreates : Nat} {department : String} {result : Except DomainError CycleReport}

/-- What a cycle makes of the tables if each attempt of its batch gets a result of an accepted kind,
where these are the outcomes and these attempts are proposed again. -/
structure Cleared (accept : ItemResult → Bool) (maxCreates : Nat) (department : String) (s : Store)
    (outcome? : Attempt → Option Completion) (resends : List Attempt) (after : Store) : Prop where
  rows : after.attempts = (s.attempts.map fun a => a.settle (outcome? a)) ++ resends
  repeated : List.Forall₂ Attempt.Repeats
    ((Batch.build (s.pending department) maxCreates).attempts.filter fun a => a.fails (outcome? a))
    resends
  events : after.events = s.events
  deferred : ∀ a ∈ Batch.deferred (s.pending department) maxCreates, outcome? a = none
  answered : ∀ a ∈ s.pending department, a ∉ Batch.deferred (s.pending department) maxCreates →
    ∃ r syncedAt call, accept r = true ∧ outcome? a = some (r.completion syncedAt call)

/-- The first replies to the groups of a batch have an accepted result for each attempt of it. -/
def Replied (accept : ItemResult → Bool) (b : Batch) (t : List Moment) : Prop :=
  ∀ op, ∀ a ∈ b.group op, ∃ results, t.findSome? (Moment.reply? op) = some results ∧
    (ItemResult.lastFor? results a.id).any accept = true

/-- The replies that a cycle's groups get, in terms of its outcomes. -/
theorem Replied.exists_outcome? {queue : List Attempt} {answers : Operation → Option Answer}
    {a : Attempt} (replied : Replied accept (Batch.build queue maxCreates) t)
    (answered : ∀ op, Answered t op (answers op)) (distinct : (queue.map (·.id)).Nodup)
    (mem : a ∈ queue) (pending : a.isPending = true)
    (kept : a ∉ Batch.deferred queue maxCreates) :
    ∃ r syncedAt call, accept r = true ∧
      (Batch.build queue maxCreates).outcome? answers a = some (r.completion syncedAt call) := by
  obtain ⟨w, sent, same⟩ := Batch.exists_sent distinct mem pending kept
  obtain ⟨results, found, full⟩ := replied _ w sent
  obtain ⟨g, answer, rfl⟩ := Option.map_eq_some_iff.1 ((answered a.operation).replied.symm.trans found)
  obtain ⟨r, last, accepted⟩ := (Option.any_eq_true _ _).1 full
  refine ⟨r, g.syncedAt, g.call, accepted, ?_⟩
  rw [Batch.outcome?, answer, Option.bind_some, same, Answer.completion?, last]
  rfl

/-- What every attempt of a batch has been granted, the first replies grant. -/
theorem Replied.of_grants (run : Runs (Cycle.run policy maxCreates department) s t result after)
    (stored : ∀ m ∈ t, m.Stored)
    (granted : ∀ a ∈ (Batch.build (s.pending department) maxCreates).attempts,
      ∃ m ∈ t, m.grants accept a = true) :
    Replied accept (Batch.build (s.pending department) maxCreates) t := by
  obtain ⟨e, rfl, -, -⟩ | ⟨rest, rfl, sent⟩ := runs_run run
  · exact absurd (stored _ (List.mem_singleton_self _)) (fun h => by cases h)
  intro op a mem
  obtain ⟨m, here, grants⟩ := granted a (Batch.mem_attempts.2 ⟨op, mem⟩)
  obtain ⟨carried, op', results, replied, full⟩ := Moment.grants_iff.1 grants
  rcases List.mem_cons.1 here with rfl | here
  · cases replied
  have replying := Replying.sendGroups (fun g mem => (Batch.mem_groups.1 mem).1)
    (Batch.nodup_groups _) sent fun m mem => stored m (List.mem_cons_of_mem _ mem)
  obtain ⟨-, whole, found⟩ := replying m here op' results replied
  rw [whole] at carried
  obtain rfl : op' = op :=
    (Batch.mem_of_mem_group carried).2.symm.trans (Batch.mem_of_mem_group mem).2
  refine ⟨results, ?_, full⟩
  rw [List.findSome?_cons]
  exact found

theorem cleared_run (distinct : (s.attempts.map (·.id)).Nodup)
    (run : Runs (Cycle.run policy maxCreates department) s t result after)
    (stored : ∀ m ∈ t, m.Stored)
    (replied : Replied accept (Batch.build (s.pending department) maxCreates) t) :
    ∃ outcome? resends, Cleared accept maxCreates department s outcome? resends after := by
  have own : ((s.pending department).map (·.id)).Nodup := Attempt.nodup_filter distinct _
  obtain ⟨answers, done, more, settled, turns⟩ := settled_run distinct run stored
  refine ⟨(Batch.build (s.pending department) maxCreates).outcome? answers, more,
    turns.rows settled, ?_, settled.events, ?_, ?_⟩
  · rw [← Batch.flatMap_groups]
    exact turns.repeated
  · exact fun a mem => Batch.outcome?_of_mem_deferred own mem answers
  · intro a mem kept
    exact replied.exists_outcome? turns.answered own mem (Store.mem_pending.1 mem).2.1 kept

namespace Cleared
variable {outcome? : Attempt → Option Completion} {resends : List Attempt} {a p r : Attempt}

/-- What waits in the queue afterwards was left out, or is new. -/
theorem mem_of_mem_pending
    (cleared : Cleared accept maxCreates department s outcome? resends after)
    (mem : p ∈ after.pending department) :
    p ∈ Batch.deferred (s.pending department) maxCreates ∨ p ∈ resends := by
  obtain ⟨row, pending, belongs⟩ := Store.mem_pending.1 mem
  rw [Store.belongsTo_congr cleared.events] at belongs
  rw [cleared.rows, List.mem_append] at row
  refine row.imp_left fun old => ?_
  obtain ⟨a, here, rfl⟩ := List.mem_map.1 old
  have unanswered := Attempt.settle_isPending pending
  rw [unanswered] at pending belongs ⊢
  by_contra kept
  obtain ⟨_, _, _, -, outcome⟩ :=
    cleared.answered a (Store.mem_pending.2 ⟨here, pending, belongs⟩) kept
  rw [unanswered] at outcome
  cases outcome

/-- What was left out still waits. -/
theorem mem_pending_of_mem_deferred
    (cleared : Cleared accept maxCreates department s outcome? resends after)
    (mem : a ∈ Batch.deferred (s.pending department) maxCreates) :
    a ∈ after.pending department := by
  obtain ⟨listed, -⟩ := Batch.mem_waiting.1 (Batch.mem_waiting_of_mem_deferred mem)
  obtain ⟨here, pending, belongs⟩ := Store.mem_pending.1 listed
  refine Store.mem_pending.2 ⟨?_, pending, Store.belongsTo_congr cleared.events ▸ belongs⟩
  rw [cleared.rows]
  refine List.mem_append_left _ (List.mem_map.2 ⟨a, here, ?_⟩)
  rw [cleared.deferred a mem]
  rfl

/-- Only transient failures bring new attempts. -/
theorem resends_eq_nil
    (cleared : Cleared accept maxCreates department s outcome? resends after)
    (lasting : ∀ r, accept r = true → r.isTransient = false) : resends = [] := by
  have none : ((Batch.build (s.pending department) maxCreates).attempts.filter fun a =>
      a.fails (outcome? a)) = [] := by
    refine List.filter_eq_nil_iff.2 fun a mem => ?_
    obtain ⟨op, sent⟩ := Batch.mem_attempts.1 mem
    by_cases kept : a ∈ Batch.deferred (s.pending department) maxCreates
    · simp [cleared.deferred a kept, Attempt.fails]
    · obtain ⟨r, _, _, accepted, outcome⟩ :=
        cleared.answered a (Batch.mem_of_mem_group sent).1 kept
      simp [outcome, Attempt.fails, lasting r accepted]
  have repeated := cleared.repeated
  rw [none] at repeated
  exact List.forall₂_nil_left_iff.1 repeated

end Cleared
end Cycle
end CalendarSync
