import CalendarSync.Proofs.Orderly

/-!
# The answers in the table

An attempt of the table carries an outcome that names a call exactly if a cycle has recorded it.
-/

namespace CalendarSync
set_option autoImplicit false
open Program Simulation

/-- The operation is a cycle. -/
def Episode.isCycle : Episode → Bool
  | ⟨.cycle _ _ _, _, _⟩ => true
  | _ => false

/-- A cycle among these operations has recorded the outcome for an attempt. -/
def RecordedIn (episodes : List Episode) (id : Uuid) (c : Completion) : Prop :=
  ∃ e ∈ episodes, e.isCycle = true ∧ ∃ m ∈ e.trace, m.recorded? = some (id, c)

/-- The table shows the outcome of an attempt, and a call. -/
def Tells (rows : List Attempt) (id : Uuid) (c : Completion) : Prop :=
  ∃ a ∈ rows, a.id = id ∧ a.call.isSome = true ∧ a.complete c = a

namespace Tells
variable {rows : List Attempt} {a r : Attempt} {c d : Completion} {id event : Uuid}
  {s after : Store} {t : List Moment}

theorem closed_of_complete (same : a.complete c = a) : a.isPending = false := by
  rw [← same]
  rfl

/-- A new attempt shows no outcome. -/
theorem append_iff (pending : r.isPending = true) :
    Tells (rows ++ [r]) id c ↔ Tells rows id c := by
  constructor
  · rintro ⟨b, hb, same, called, done⟩
    rcases List.mem_append.1 hb with old | added
    · exact ⟨b, old, same, called, done⟩
    · rw [← List.mem_singleton.1 added, closed_of_complete done] at pending
      cases pending
  · rintro ⟨b, hb, rest⟩
    exact ⟨b, List.mem_append_left _ hb, rest⟩

/-- Closing an attempt that waits without asking the Planner shows no outcome with a call. -/
theorem withdraw_iff (distinct : (rows.map (·.id)).Nodup) (mem : a ∈ rows)
    (pending : a.isPending = true) (uncalled : d.call = none) :
    Tells (Attempt.completeAt a.id d rows) id c ↔ Tells rows id c := by
  constructor
  · rintro ⟨b, hb, same, called, done⟩
    rcases (Attempt.mem_completeAt_iff distinct mem).1 hb with rfl | ⟨hb, -⟩
    · rw [Attempt.complete_call, uncalled] at called
      cases called
    · exact ⟨b, hb, same, called, done⟩
  · rintro ⟨b, hb, same, called, done⟩
    refine ⟨b, (Attempt.mem_completeAt_iff distinct mem).2 (.inr ⟨hb, fun own => ?_⟩), same, called,
      done⟩
    rw [← Attempt.eq_of_id_eq distinct hb mem own, closed_of_complete done] at pending
    cases pending

theorem propose {seen : Window} {result : Except DomainError (Option Attempt)}
    (proposing : Queue.Proposing event seen s t result after) :
    Tells after.attempts id c ↔ Tells s.attempts id c := by
  cases proposing with
  | kept still none => exact Iff.rfl
  | proposed still found stale dated issued => exact append_iff rfl

theorem delete {result : Except DomainError (Option Attempt)}
    (h : Disciplined s.Flagged s.attempts) (deleting : Queue.Deleting event s t result after) :
    Tells after.attempts id c ↔ Tells s.attempts id c := by
  cases deleting with
  | kept still none => exact Iff.rfl
  | flagged unflagged flags still still' none reason => rw [flags.attempts]
  | proposed unflagged flags still still' last held dated issued =>
    rw [Store.attempts_insertAttempt, flags.attempts]
    exact append_iff rfl
  | withdrawn unflagged flags still still' free run =>
    obtain ⟨-, ⟨rfl, -⟩ | ⟨a, mem, -, waits, -, rfl⟩⟩ := h.withdraw unflagged flags run
    · rw [flags.attempts]
    · exact withdraw_iff h.distinct mem waits rfl

theorem cycle {policy : CallPolicy} {maxCreates : Nat} {department : String}
    {result : Except DomainError CycleReport} (distinct : (s.attempts.map (·.id)).Nodup)
    (run : Runs (Cycle.run policy maxCreates department) s t result after)
    (timely : ∀ m ∈ t, m.Timely) :
    Tells after.attempts id c ↔
      Tells s.attempts id c ∨ ∃ m ∈ t, m.recorded? = some (id, c) := by
  obtain ⟨⟨moves, -⟩, shows_all⟩ := Cycle.moves_of_timely distinct run timely
  have distinct' := moves.nodup distinct
  have proper : ∀ m ∈ t, m.Proper := by
    intro m mem
    obtain ⟨moves, -, -, recorded, added⟩ := shows_all m mem
    exact ⟨moves.nodup distinct, fun id c found => (recorded id c found).2, added⟩
  rw [run.recorded_iff proper distinct' id c]
  constructor
  · rintro ⟨a, mem, same, called, done⟩
    by_cases waits : ∀ b ∈ s.attempts, b.id = id → b.isPending = true
    · exact .inr ⟨a, mem, same, done, waits⟩
    · push Not at waits
      obtain ⟨b, hb, same', closed⟩ := waits
      have kept := run.kept proper hb (by simpa using closed)
      obtain rfl := Attempt.eq_of_id_eq distinct' mem kept (same.trans same'.symm)
      exact .inl ⟨a, hb, same, called, done⟩
  · rintro (⟨a, mem, same, called, done⟩ | ⟨a, mem, same, done, waits⟩)
    · exact ⟨a, run.kept proper mem (closed_of_complete done), same, called, done⟩
    · obtain ⟨m, hm, found⟩ := (run.recorded_iff proper distinct' id c).2 ⟨a, mem, same, done, waits⟩
      refine ⟨a, mem, same, ?_, done⟩
      rw [← done]
      exact ((shows_all m hm).recorded id c found).1

end Tells

/-- The table shows the outcomes that cycles have recorded. -/
theorem recordedIn_iff {s₀ s : Store} {episodes : List Episode} (history : History s₀ episodes s)
    (empty : s₀.attempts = []) (timely : ∀ m ∈ momentsOf episodes, m.Timely) (id : Uuid)
    (c : Completion) : RecordedIn episodes id c ↔ Tells s.attempts id c := by
  induction history with
  | start => simp [RecordedIn, Tells, empty]
  | @next episodes s after command t result past run ih =>
    rw [momentsOf_append, momentsOf_singleton, List.forall_mem_append] at timely
    obtain ⟨h, -⟩ := Disciplined.history past empty timely.1
    have split : RecordedIn (episodes ++ [⟨command, t, result⟩]) id c ↔
        RecordedIn episodes id c ∨ Episode.isCycle ⟨command, t, result⟩ = true ∧
          ∃ m ∈ t, m.recorded? = some (id, c) := by
      simp only [RecordedIn, List.mem_append, List.mem_singleton, or_and_right, exists_or,
        exists_eq_left]
    rw [split, ih timely.1]
    cases command with
    | propose event seen =>
      rw [Tells.propose (Queue.runs_proposeIfStale run)]
      simp [Episode.isCycle]
    | delete event =>
      rw [Tells.delete h (Queue.runs_delete run)]
      simp [Episode.isCycle]
    | cycle policy maxCreates department =>
      rw [Tells.cycle h.distinct run timely.2]
      simp [Episode.isCycle]

end CalendarSync
