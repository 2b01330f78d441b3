import CalendarSync.Proofs.Recency
import CalendarSync.Simulation.Store

/-!
# The tables

What the operations of the store do to the attempts and the events, where attempts have identifiers
of their own.
-/

namespace CalendarSync
set_option autoImplicit false
open Simulation

namespace Attempt
variable {rows : List Attempt} {a b : Attempt} {c : Completion} {id : Uuid}

/-- Records the outcome of every attempt with an identifier. -/
def completeAt (id : Uuid) (c : Completion) (rows : List Attempt) : List Attempt :=
  rows.map fun a => if a.id = id then a.complete c else a

@[simp] theorem complete_id (a : Attempt) (c : Completion) : (a.complete c).id = a.id := rfl
@[simp] theorem complete_event (a : Attempt) (c : Completion) : (a.complete c).event = a.event := rfl
@[simp] theorem complete_operation (a : Attempt) (c : Completion) :
    (a.complete c).operation = a.operation := rfl
@[simp] theorem complete_createdAt (a : Attempt) (c : Completion) :
    (a.complete c).createdAt = a.createdAt := rfl
@[simp] theorem complete_call (a : Attempt) (c : Completion) : (a.complete c).call = c.call := rfl
@[simp] theorem complete_isPending (a : Attempt) (c : Completion) :
    (a.complete c).isPending = false := rfl

/-- The last outcome counts. -/
@[simp] theorem complete_complete (a : Attempt) (c d : Completion) :
    (a.complete c).complete d = a.complete d := rfl

@[simp] theorem map_id_completeAt : (completeAt id c rows).map (·.id) = rows.map (·.id) := by
  rw [completeAt, List.map_map]
  apply List.map_congr_left
  intro a _
  simp only [Function.comp_apply]
  split <;> rfl

theorem completeAt_eq_self (other : ∀ a ∈ rows, a.id ≠ id) : completeAt id c rows = rows :=
  (List.map_congr_left fun a mem => if_neg (other a mem)).trans (List.map_id rows)

/-- The rows after the outcome of one attempt has been recorded. -/
theorem mem_completeAt_iff (distinct : (rows.map (·.id)).Nodup) (mem : a ∈ rows) :
    b ∈ completeAt a.id c rows ↔ b = a.complete c ∨ b ∈ rows ∧ b.id ≠ a.id := by
  simp only [completeAt, List.mem_map]
  constructor
  · rintro ⟨d, hd, rfl⟩
    split
    · rename_i same
      exact .inl (by rw [eq_of_id_eq distinct hd mem same])
    · rename_i other
      exact .inr ⟨hd, other⟩
  · rintro (rfl | ⟨hb, other⟩)
    · exact ⟨a, mem, if_pos rfl⟩
    · exact ⟨b, hb, if_neg other⟩

/-- What holds of the attempt with its outcome and of the others. -/
theorem forall_completeAt {P : Attempt → Prop} (distinct : (rows.map (·.id)).Nodup) (mem : a ∈ rows)
    (answered : P (a.complete c)) (others : ∀ b ∈ rows, b.id ≠ a.id → P b) :
    ∀ b ∈ completeAt a.id c rows, P b := by
  intro b hb
  rcases (mem_completeAt_iff distinct mem).1 hb with rfl | ⟨hb, other⟩
  · exact answered
  · exact others b hb other

/-- An outcome leaves attempts where a filter has put them by their proposals. -/
theorem filter_completeAt {p : Attempt → Bool} (same : ∀ a, p (a.complete c) = p a) :
    (completeAt id c rows).filter p = completeAt id c (rows.filter p) := by
  unfold completeAt
  rw [List.filter_map]
  congr 1
  apply List.filter_congr
  intro a _
  simp only [Function.comp_apply]
  split
  · exact same a
  · rfl

end Attempt

namespace Simulation

/-- A change of the first row that meets a condition leaves the rows around it alone. -/
theorem changeFirst?_eq_some_iff {α : Type} {p : α → Bool} {f : α → α} {rows changed : List α} :
    changeFirst? p f rows = some changed ↔
      ∃ before row after, rows = before ++ row :: after ∧ (∀ r ∈ before, p r = false) ∧
        p row = true ∧ changed = before ++ f row :: after := by
  induction rows generalizing changed with
  | nil => simp [changeFirst?]
  | cons r rows ih =>
    rw [changeFirst?]
    split
    · rename_i meets
      constructor
      · rintro h
        cases h
        exact ⟨[], r, rows, rfl, by simp, meets, rfl⟩
      · rintro ⟨before, row, after, split, apart, -, rfl⟩
        cases before with
        | nil => cases split; rfl
        | cons b before =>
          cases split
          exact absurd meets (by simp [apart r List.mem_cons_self])
    · rename_i out
      simp only [Option.map_eq_some_iff, ih]
      constructor
      · rintro ⟨_, ⟨before, row, after, rfl, apart, meets, rfl⟩, rfl⟩
        exact ⟨r :: before, row, after, rfl, List.forall_mem_cons.2 ⟨by simpa using out, apart⟩, meets, rfl⟩
      · rintro ⟨before, row, after, split, apart, meets, rfl⟩
        cases before with
        | nil => cases split; exact absurd meets out
        | cons b before =>
          cases split
          exact ⟨_, ⟨before, row, after, rfl, fun r h => apart r (List.mem_cons_of_mem _ h), meets,
            rfl⟩, rfl⟩

/-- Rows behind the first one that meets the condition do not matter. -/
theorem changeFirst?_append {α : Type} {p : α → Bool} {f : α → α} {rows more changed : List α}
    (h : changeFirst? p f rows = some changed) :
    changeFirst? p f (rows ++ more) = some (changed ++ more) := by
  obtain ⟨before, row, after, rfl, apart, meets, rfl⟩ := changeFirst?_eq_some_iff.1 h
  exact changeFirst?_eq_some_iff.2 ⟨before, row, after ++ more, by simp, apart, meets, by simp⟩

theorem changeFirst?_eq_none_iff {α : Type} {p : α → Bool} {f : α → α} {rows : List α} :
    changeFirst? p f rows = none ↔ ∀ r ∈ rows, p r = false := by
  induction rows with
  | nil => simp [changeFirst?]
  | cons r rows ih => by_cases h : p r = true <;> simp [changeFirst?, h, ih]

namespace Store
variable {s after : Store} {a : Attempt} {c : Completion} {id : Uuid}

/-- Both hold the same attempts and events. -/
structure Alike (s after : Store) : Prop where
  attempts : after.attempts = s.attempts
  events : after.events = s.events

theorem Alike.refl (s : Store) : s.Alike s := ⟨rfl, rfl⟩

theorem Alike.trans {s middle after : Store} (h : s.Alike middle) (h' : middle.Alike after) :
    s.Alike after :=
  ⟨h'.attempts.trans h.attempts, h'.events.trans h.events⟩

theorem alike_insertCall (s : Store) (call : Call) : s.Alike (s.insertCall call) := ⟨rfl, rfl⟩

theorem alike_updateCall {call : Call} (h : s.updateCall call = .ok after) : s.Alike after := by
  unfold updateCall at h
  split at h
  · cases h; exact ⟨rfl, rfl⟩
  · cases h

/-- A recorded outcome changes nothing but attempts. -/
theorem events_completeAttempt (h : s.completeAttempt id c = .ok after) :
    after.events = s.events := by
  unfold completeAttempt at h
  split at h
  · cases h; rfl
  · cases h

/-- An outcome is recorded for the one attempt with the identifier. -/
theorem changeFirst?_complete {rows : List Attempt} (distinct : (rows.map (·.id)).Nodup)
    (mem : id ∈ rows.map (·.id)) :
    changeFirst? (fun a => decide (a.id = id)) (·.complete c) rows =
      some (Attempt.completeAt id c rows) := by
  induction rows with
  | nil => cases mem
  | cons a rows ih =>
    rw [List.map_cons, List.nodup_cons] at distinct
    by_cases same : a.id = id
    · subst same
      have others : Attempt.completeAt a.id c rows = rows :=
        Attempt.completeAt_eq_self fun b hb same => distinct.1 (same ▸ List.mem_map_of_mem hb)
      have split : Attempt.completeAt a.id c (a :: rows) =
          a.complete c :: Attempt.completeAt a.id c rows := by
        simp [Attempt.completeAt]
      simp [changeFirst?, split, others]
    · have mem : id ∈ rows.map (·.id) := (List.mem_cons.1 mem).resolve_left (Ne.symm same)
      simp [changeFirst?, same, ih distinct.2 mem, Attempt.completeAt]

theorem completeAttempt_eq (distinct : (s.attempts.map (·.id)).Nodup)
    (mem : id ∈ s.attempts.map (·.id)) :
    s.completeAttempt id c = .ok { s with attempts := Attempt.completeAt id c s.attempts } := by
  rw [completeAttempt, changeFirst?_complete distinct mem]

@[simp] theorem attempts_insertAttempt (s : Store) (a : Attempt) :
    (s.insertAttempt a).attempts = s.attempts ++ [a] := rfl

@[simp] theorem events_insertAttempt (s : Store) (a : Attempt) :
    (s.insertAttempt a).events = s.events := rfl

@[simp] theorem attempts_saveEvent (s : Store) (e : Event) :
    (s.saveEvent e).attempts = s.attempts := by
  unfold saveEvent
  split <;> rfl

/-- A saved event replaces the one with its identifier. -/
theorem event?_saveEvent (s : Store) (e : Event) :
    (s.saveEvent e).event? id = if id = e.id then some e.row else s.event? id := by
  unfold saveEvent event?
  split
  · rename_i events changed
    obtain ⟨before, row, rest, split, apart, meets, rfl⟩ := changeFirst?_eq_some_iff.1 changed
    have meets : row.id = e.id := by simpa using meets
    have apart : ∀ r ∈ before, ¬ r.id = e.id := by simpa using apart
    have row_id : e.row.id = e.id := rfl
    rw [split]
    by_cases same : id = e.id
    · subst same
      have none : before.find? (fun r => decide (r.id = e.id)) = none := by
        simpa [List.find?_eq_none] using apart
      simp [List.find?_append, none, row_id]
    · have other : ¬ e.id = id := fun h => same h.symm
      simp [List.find?_append, row_id, meets, other, same]
  · rename_i unchanged
    have apart : ∀ r ∈ s.events, ¬ r.id = e.id := by
      simpa using changeFirst?_eq_none_iff.1 unchanged
    have row_id : e.row.id = e.id := rfl
    by_cases same : id = e.id
    · subst same
      have none : s.events.find? (fun r => decide (r.id = e.id)) = none := by
        simpa [List.find?_eq_none] using apart
      simp [List.find?_append, none, row_id]
    · have other : ¬ e.id = id := fun h => same h.symm
      cases h : s.events.find? (fun r => decide (r.id = id)) <;>
        simp [List.find?_append, h, row_id, other, same]

/-- The event has been flagged as deleted. -/
def Flagged (s : Store) (event : Uuid) : Prop :=
  ∃ row, s.event? event = some row ∧ row.isDeleted = true

instance (event : Uuid) : Decidable (s.Flagged event) :=
  decidable_of_iff ((s.event? event).any (·.isDeleted) = true) (by
    simp [Flagged, Option.any_eq_true])

theorem flagged_congr (events : after.events = s.events) : after.Flagged = s.Flagged := by
  unfold Flagged event?
  rw [events]

theorem id_of_event? {row : Event} (h : s.event? id = some row) : row.id = id := by
  simpa using List.find?_some h

theorem not_flagged_of_event? {row : Event} (h : s.event? id = some row)
    (stands : row.isDeleted = false) : ¬ s.Flagged id := by
  rintro ⟨row', found, deleted⟩
  rw [h] at found
  rw [← Option.some.inj found, stands] at deleted
  cases deleted

theorem mem_history {event : Uuid} : a ∈ s.history event ↔ a ∈ s.attempts ∧ a.event = event := by
  simp [history, Attempt.mem_oldestFirst]

theorem mem_waiting_history {event : Uuid} :
    a ∈ (s.history event).filter (·.isPending) ↔
      a ∈ s.attempts ∧ a.event = event ∧ a.isPending = true := by
  rw [List.mem_filter, mem_history, and_assoc]

theorem nodup_history (distinct : (s.attempts.map (·.id)).Nodup) (event : Uuid) :
    ((s.history event).map (·.id)).Nodup :=
  ((Attempt.oldestFirst_perm _).map _).nodup_iff.2 (Attempt.nodup_filter distinct _)

theorem event?_congr (events : after.events = s.events) : after.event? id = s.event? id := by
  rw [event?, event?, events]

theorem belongsTo_congr (events : after.events = s.events) : after.belongsTo = s.belongsTo := by
  unfold belongsTo
  rw [events]

theorem mem_pending {department : String} :
    a ∈ s.pending department ↔
      a ∈ s.attempts ∧ a.isPending = true ∧ s.belongsTo department a = true := by
  simp [pending]

end Store
end Simulation
end CalendarSync
