import CalendarSync.Proofs.Run
import CalendarSync.Proofs.Store

/-!
# What is recorded stays

Requests change attempts in two ways: an outcome is recorded, or an attempt is added. Where outcomes
are recorded only for attempts that wait, an outcome stays, and the table shows exactly the outcomes
that were recorded.
-/

namespace CalendarSync
set_option autoImplicit false
open Program Simulation

variable {s after : Store} {t : List Moment} {id : Uuid} {c : Completion} {a b : Attempt}

theorem Attempt.complete_inj {d : Completion} (same : a.complete c = a.complete d) : c = d := by
  obtain ⟨syncedAt, success, errorCode, call⟩ := c
  obtain ⟨syncedAt', success', errorCode', call'⟩ := d
  simp only [Attempt.complete, Attempt.mk.injEq, Option.some.injEq, true_and] at same
  obtain ⟨rfl, rfl, rfl, rfl⟩ := same
  rfl

/-- A row that waits does not change whether an attempt waits. -/
theorem Attempt.waits_append {rows : List Attempt} (pending : a.isPending = true) :
    (∀ b ∈ rows ++ [a], b.id = id → b.isPending = true) ↔
      ∀ b ∈ rows, b.id = id → b.isPending = true := by
  rw [List.forall_mem_append, List.forall_mem_singleton]
  exact and_iff_left fun _ => pending

/-- Nor does the outcome of another attempt. -/
theorem Attempt.waits_completeAt {rows : List Attempt} (distinct : (rows.map (·.id)).Nodup)
    (mem : a ∈ rows) (other : a.id ≠ id) :
    (∀ b ∈ Attempt.completeAt a.id c rows, b.id = id → b.isPending = true) ↔
      ∀ b ∈ rows, b.id = id → b.isPending = true := by
  constructor
  · intro waits b hb same
    have kept : b ∈ Attempt.completeAt a.id c rows :=
      (Attempt.mem_completeAt_iff distinct mem).2 (.inr ⟨hb, fun h => other (h.symm.trans same)⟩)
    exact waits b kept same
  · intro waits b hb same
    rcases (Attempt.mem_completeAt_iff distinct mem).1 hb with rfl | ⟨hb, -⟩
    · exact absurd same other
    · exact waits b hb same

namespace Moment

/-- What a moment does to the attempts. -/
inductive Leads (m : Moment) (after : Store) : Prop where
  | kept (same : after.attempts = m.store.attempts) (leaves : m.LeavesAttempts)
  | recorded {id : Uuid} {c : Completion} (wrote : m.store.completeAttempt id c = .ok after)
      (recorded : m.recorded? = some (id, c))
  | added {a : Attempt} (rows : after.attempts = m.store.attempts ++ [a])
      (added : m.added? = some a) (unrecorded : m.recorded? = none)

theorem leads_of_answers {r : Request} {answer : r.Answer} (answers : s.Answers r answer after) :
    Leads ⟨s, r, answer⟩ after := by
  have still {m : Moment} (leaves : m.LeavesAttempts) (same : after = m.store) : m.Leads after :=
    .kept (congrArg Store.attempts same) leaves
  cases r with
  | insertAttempt b =>
    cases answer with
    | error e => exact still ⟨rfl, rfl⟩ answers
    | ok u =>
      obtain rfl := Except.ok.inj answers
      exact .added rfl rfl rfl
  | completeAttempt id c =>
    cases answer with
    | error e => exact still ⟨rfl, rfl⟩ answers
    | ok u => exact .recorded answers rfl
  | saveEvent event =>
    cases answer with
    | error e => exact still ⟨rfl, rfl⟩ answers
    | ok u =>
      obtain rfl := Except.ok.inj answers
      exact .kept (Store.attempts_saveEvent s event) ⟨rfl, rfl⟩
  | insertCall call =>
    cases answer with
    | error e => exact still ⟨rfl, rfl⟩ answers
    | ok u =>
      obtain rfl := Except.ok.inj answers
      exact .kept rfl ⟨rfl, rfl⟩
  | updateCall call =>
    cases answer with
    | error e => exact still ⟨rfl, rfl⟩ answers
    | ok u => exact .kept (Store.alike_updateCall answers).attempts ⟨rfl, rfl⟩
  | insertResources added =>
    cases answer with
    | error e => exact still ⟨rfl, rfl⟩ answers
    | ok u =>
      obtain rfl := Except.ok.inj answers
      exact .kept rfl ⟨rfl, rfl⟩
  | deleteResources ids deletedAt =>
    cases answer with
    | error e => exact still ⟨rfl, rfl⟩ answers
    | ok u =>
      obtain rfl := Except.ok.inj answers
      exact .kept rfl ⟨rfl, rfl⟩
  | getEvent id => exact still ⟨rfl, rfl⟩ answers.1
  | pendingAttempts department => exact still ⟨rfl, rfl⟩ answers.1
  | attemptsOf event => exact still ⟨rfl, rfl⟩ answers.1
  | resourcesOf department => exact still ⟨rfl, rfl⟩ answers.1
  | _ => exact still ⟨rfl, rfl⟩ answers

/-- Attempts have identifiers of their own, an outcome is recorded for an attempt that waits, and a
new attempt waits. -/
structure Proper (m : Moment) : Prop where
  distinct : (m.store.attempts.map (·.id)).Nodup
  recorded : ∀ id c, m.recorded? = some (id, c) →
    ∃ a ∈ m.store.attempts, a.id = id ∧ a.isPending = true
  added : ∀ a, m.added? = some a → a.isPending = true

/-- The tables after an outcome has been recorded. -/
theorem Proper.attempts_recorded {m : Moment} (proper : m.Proper)
    (recorded : m.recorded? = some (id, c)) (wrote : m.store.completeAttempt id c = .ok after) :
    ∃ a ∈ m.store.attempts, a.id = id ∧ a.isPending = true ∧
      after.attempts = Attempt.completeAt a.id c m.store.attempts := by
  obtain ⟨a, mem, rfl, pending⟩ := proper.recorded id c recorded
  rw [Store.completeAttempt_eq proper.distinct (List.mem_map_of_mem mem)] at wrote
  obtain rfl := Except.ok.inj wrote
  exact ⟨a, mem, rfl, pending, rfl⟩

/-- What has an outcome is left alone. -/
theorem Proper.kept {m : Moment} (proper : m.Proper) (leads : m.Leads after)
    (mem : b ∈ m.store.attempts) (closed : b.isPending = false) : b ∈ after.attempts := by
  cases leads with
  | kept same leaves => rwa [same]
  | recorded wrote recorded =>
    obtain ⟨a, mem_a, -, pending, rows⟩ := proper.attempts_recorded recorded wrote
    rw [rows]
    refine (Attempt.mem_completeAt_iff proper.distinct mem_a).2 (.inr ⟨mem, fun same => ?_⟩)
    rw [Attempt.eq_of_id_eq proper.distinct mem mem_a same, pending] at closed
    cases closed
  | added rows added unrecorded =>
    rw [rows]
    exact List.mem_append_left _ mem

end Moment

namespace Program
variable {α : Type} {p : Program α} {value : α}

/-- An outcome stays. -/
theorem Runs.kept (run : Runs p s t value after) (proper : ∀ m ∈ t, m.Proper)
    (mem : b ∈ s.attempts) (closed : b.isPending = false) : b ∈ after.attempts := by
  induction run with
  | done value s => exact mem
  | ask answered rest ih =>
    rw [List.forall_mem_cons] at proper
    exact ih proper.2 (proper.1.kept (Moment.leads_of_answers answered) mem closed)

/-- The table shows an outcome in the end exactly if the run has recorded it, or the attempt had it
before. -/
theorem Runs.recorded_iff (run : Runs p s t value after) (proper : ∀ m ∈ t, m.Proper)
    (distinct : (after.attempts.map (·.id)).Nodup) (id : Uuid) (c : Completion) :
    (∃ m ∈ t, m.recorded? = some (id, c)) ↔
      ∃ a ∈ after.attempts, a.id = id ∧ a.complete c = a ∧
        ∀ b ∈ s.attempts, b.id = id → b.isPending = true := by
  induction run with
  | done value s =>
    refine iff_of_false (by simp) ?_
    rintro ⟨a, mem, same, done, waits⟩
    have pending := waits a mem same
    rw [← done] at pending
    cases pending
  | @ask r next s middle after answer t value answered rest ih =>
    rw [List.forall_mem_cons] at proper
    obtain ⟨proper, later⟩ := proper
    have ih := ih later distinct
    have split : (∃ m ∈ (⟨s, r, answer⟩ : Moment) :: t, m.recorded? = some (id, c)) ↔
        Moment.recorded? ⟨s, r, answer⟩ = some (id, c) ∨ ∃ m ∈ t, m.recorded? = some (id, c) := by
      simp
    rw [split]
    cases Moment.leads_of_answers answered with
    | kept same leaves =>
      have same : middle.attempts = s.attempts := same
      rw [leaves.1, ih, same]
      simp
    | @added new rows added unrecorded =>
      have rows : middle.attempts = s.attempts ++ [new] := rows
      have waits : new.isPending = true := proper.added new added
      rw [unrecorded, ih, rows, Attempt.waits_append waits]
      simp
    | @recorded id' c' wrote recorded =>
      obtain ⟨a, mem, rfl, pending, rows⟩ := proper.attempts_recorded recorded wrote
      have rows : middle.attempts = Attempt.completeAt a.id c' s.attempts := rows
      have completed : a.complete c' ∈ middle.attempts := by
        rw [rows]
        exact (Attempt.mem_completeAt_iff proper.distinct mem).2 (.inl rfl)
      rw [recorded, ih]
      by_cases own : a.id = id
      · -- The outcome stays, and it is the only one that the run records for the attempt.
        subst own
        have answered : a.complete c' ∈ after.attempts := rest.kept later completed rfl
        constructor
        · rintro (same | ⟨d, -, -, -, waits⟩)
          · obtain ⟨-, rfl⟩ := Prod.mk.inj (Option.some.inj same)
            refine ⟨_, answered, rfl, rfl, fun b hb same => ?_⟩
            rwa [Attempt.eq_of_id_eq proper.distinct hb mem same]
          · have waits := waits _ completed rfl
            cases waits
        · rintro ⟨d, hd, same, done, -⟩
          rw [Attempt.eq_of_id_eq distinct hd answered same, Attempt.complete_complete] at done
          exact .inl (by rw [Attempt.complete_inj done])
      · rw [rows, Attempt.waits_completeAt proper.distinct mem own]
        refine or_iff_right fun same => own ?_
        exact (Prod.mk.inj (Option.some.inj same)).1

end Program
end CalendarSync
