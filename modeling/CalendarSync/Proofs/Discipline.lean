import CalendarSync.Proofs.History
import CalendarSync.Proofs.Moves
import CalendarSync.Proofs.Queue

/-!
# The discipline of the queue

Whatever is proposed, deleted and sent, in whatever order and with whatever failures, an event has at
most one attempt that waits and is no delete, and at most one delete that waits; deletes are for
events that have been flagged; and nothing but creates is sent for an event before its create has
been answered.
-/

namespace CalendarSync
set_option autoImplicit false
open Program Simulation

/-- The discipline of the rows of a table, where these events have been flagged as deleted. -/
structure Disciplined (flagged : Uuid → Prop) (rows : List Attempt) : Prop where
  distinct : (rows.map (·.id)).Nodup
  /-- At most one delete of an event waits, and at most one other attempt. -/
  one : ∀ a ∈ rows, ∀ b ∈ rows, a.isPending = true → b.isPending = true → a.event = b.event →
    (a.operation = .delete ↔ b.operation = .delete) → a = b
  deletes : ∀ a ∈ rows, a.operation = .delete → flagged a.event
  /-- What waits for an event that stands is the most recent attempt of it. -/
  newest : ∀ a ∈ rows, a.isPending = true → ¬ flagged a.event →
    ∀ b ∈ rows, b.event = a.event → b.NotAfter a
  /-- Beside a create that waits there are only creates that failed and were proposed again. -/
  alone : ∀ a ∈ rows, a.isPending = true → a.operation = .create →
    ∀ b ∈ rows, b.event = a.event → b = a ∨ b.operation = .create ∧ b.isTransient = true
  /-- Every event begins with a create. -/
  begun : ∀ a ∈ rows, ∃ b ∈ rows, b.event = a.event ∧ b.operation = .create
  /-- Where a create has been withdrawn, nothing waits and nothing but creates was ever proposed. -/
  withdrawn : ∀ a ∈ rows, a.operation = .create → a.isPending = false → a.call = none →
    flagged a.event ∧ ∀ b ∈ rows, b.event = a.event → b.operation = .create ∧ b.isPending = false

/-- A new attempt that the discipline allows. -/
structure Admits (flagged : Uuid → Prop) (rows : List Attempt) (r : Attempt) : Prop where
  pending : r.isPending = true
  newer : ∀ b ∈ rows, b.createdAt ≤ r.createdAt ∧ b.id < r.id
  free : ∀ b ∈ rows, b.isPending = true → b.event = r.event →
    ¬ (b.operation = .delete ↔ r.operation = .delete)
  deletes : r.operation = .delete → flagged r.event
  first : r.operation = .create → ∀ b ∈ rows, b.event = r.event →
    b.operation = .create ∧ b.isTransient = true
  later : r.operation ≠ .create → ∀ b ∈ rows, b.event = r.event → b.operation = .create →
    b.isPending = false
  begun : r.operation ≠ .create → ∃ b ∈ rows, b.event = r.event
  called : ∀ b ∈ rows, b.event = r.event → b.operation = .create → b.isPending = false →
    b.call.isSome = true

namespace Disciplined
variable {flagged flagged' : Uuid → Prop} {rows rows' : List Attempt} {a b r : Attempt} {c : Completion}

theorem nil (flagged : Uuid → Prop) : Disciplined flagged [] := by
  constructor <;> simp

/-- Flagging more events. -/
theorem mono (h : Disciplined flagged rows) (more : ∀ event, flagged event → flagged' event) :
    Disciplined flagged' rows where
  distinct := h.distinct
  one := h.one
  deletes a mem op := more _ (h.deletes a mem op)
  newest a mem pending stands := h.newest a mem pending fun flag => stands (more _ flag)
  alone := h.alone
  begun := h.begun
  withdrawn a mem op closed call :=
    have ⟨flag, rest⟩ := h.withdrawn a mem op closed call
    ⟨more _ flag, rest⟩

/-- A create that waits stands alone, so that no other attempt of its event waits. -/
theorem idle_of_create (h : Disciplined flagged rows) (mem : a ∈ rows) (pending : a.isPending = true)
    (create : a.operation = .create) (hb : b ∈ rows) (other : b.id ≠ a.id)
    (same : b.event = a.event) : b.operation = .create ∧ b.isPending = false := by
  rcases h.alone a mem pending create b hb same with rfl | ⟨op, -⟩
  · exact absurd rfl other
  · refine ⟨op, ?_⟩
    by_contra waits
    have both : b.operation = .delete ↔ a.operation = .delete := by rw [op, create]
    exact other (congrArg Attempt.id (h.one b hb a mem (by simpa using waits) pending same both))

/-- An event that has begun with a create still has when an attempt gets an outcome. -/
theorem begun_completeAt (h : Disciplined flagged rows) (mem : a ∈ rows) (hb : b ∈ rows) :
    ∃ d ∈ Attempt.completeAt a.id c rows, d.event = b.event ∧ d.operation = .create := by
  obtain ⟨d, hd, same, op⟩ := h.begun b hb
  by_cases own : d.id = a.id
  · obtain rfl := Attempt.eq_of_id_eq h.distinct hd mem own
    exact ⟨d.complete c, (Attempt.mem_completeAt_iff h.distinct mem).2 (.inl rfl), same, op⟩
  · exact ⟨d, (Attempt.mem_completeAt_iff h.distinct mem).2 (.inr ⟨hd, own⟩), same, op⟩

/-- An attempt that waits gets an outcome: from the Planner, or because its event is deleted. -/
theorem complete (h : Disciplined flagged rows) (mem : a ∈ rows) (pending : a.isPending = true)
    (named : c.call = none → flagged a.event) :
    Disciplined flagged (Attempt.completeAt a.id c rows) := by
  have split {b : Attempt} : b ∈ Attempt.completeAt a.id c rows ↔
      b = a.complete c ∨ b ∈ rows ∧ b.id ≠ a.id := Attempt.mem_completeAt_iff h.distinct mem
  have waits {b : Attempt} (hb : b ∈ Attempt.completeAt a.id c rows) (open' : b.isPending = true) :
      b ∈ rows ∧ b.id ≠ a.id := by
    rcases split.1 hb with rfl | old
    · cases open'
    · exact old
  constructor
  case distinct =>
    rw [Attempt.map_id_completeAt]
    exact h.distinct
  case one =>
    intro b hb d hd open_b open_d
    exact h.one b (waits hb open_b).1 d (waits hd open_d).1 open_b open_d
  case deletes =>
    intro b hb op
    rcases split.1 hb with rfl | ⟨hb, -⟩
    · exact h.deletes a mem op
    · exact h.deletes b hb op
  case newest =>
    intro b hb open_b stands d hd same
    have newest := h.newest b (waits hb open_b).1 open_b stands
    rcases split.1 hd with rfl | ⟨hd, -⟩
    · exact newest a mem same
    · exact newest d hd same
  case alone =>
    intro b hb open_b create d hd same
    obtain ⟨old, other⟩ := waits hb open_b
    rcases split.1 hd with rfl | ⟨hd, -⟩
    · have event : a.event = b.event := same
      have op : a.operation = .create := by
        rcases h.alone b old open_b create a mem event with rfl | ⟨op, -⟩
        · exact create
        · exact op
      have closed := (h.idle_of_create mem pending op old other event.symm).2
      rw [closed] at open_b
      cases open_b
    · exact h.alone b old open_b create d hd same
  case begun =>
    intro b hb
    rcases split.1 hb with rfl | ⟨hb, -⟩
    · exact h.begun_completeAt (b := a) mem mem
    · exact h.begun_completeAt mem hb
  case withdrawn =>
    intro b hb create closed call
    rcases split.1 hb with rfl | ⟨hb, -⟩
    · refine ⟨named call, fun d hd same => ?_⟩
      rcases split.1 hd with rfl | ⟨hd, other⟩
      · exact ⟨create, rfl⟩
      · exact h.idle_of_create mem pending create hd other same
    · obtain ⟨flag, rest⟩ := h.withdrawn b hb create closed call
      refine ⟨flag, fun d hd same => ?_⟩
      rcases split.1 hd with rfl | ⟨hd, -⟩
      · have closed := (rest a mem same).2
        rw [pending] at closed
        cases closed
      · exact rest d hd same

/-- A new attempt is added. -/
theorem insert (h : Disciplined flagged rows) (admits : Admits flagged rows r) :
    Disciplined flagged (rows ++ [r]) := by
  have split {b : Attempt} : b ∈ rows ++ [r] ↔ b ∈ rows ∨ b = r := by simp
  constructor
  case distinct => exact Attempt.nodup_append_of_lt h.distinct fun b hb => (admits.newer b hb).2
  case one =>
    intro b hb d hd open_b open_d same both
    rcases split.1 hb with old_b | rfl <;> rcases split.1 hd with old_d | rfl
    · exact h.one b old_b d old_d open_b open_d same both
    · exact absurd both (admits.free b old_b open_b same)
    · exact absurd both.symm (admits.free d old_d open_d same.symm)
    · rfl
  case deletes =>
    intro b hb op
    rcases split.1 hb with old_b | rfl
    · exact h.deletes b old_b op
    · exact admits.deletes op
  case newest =>
    intro b hb open_b stands d hd same
    rcases split.1 hb with old_b | rfl
    · rcases split.1 hd with old_d | rfl
      · exact h.newest b old_b open_b stands d old_d same
      · -- No attempt waits beside a new one of an event that stands.
        have both : b.operation = .delete ↔ d.operation = .delete :=
          iff_of_false (fun op => stands (h.deletes b old_b op))
            fun op => stands (same ▸ admits.deletes op)
        exact absurd both (admits.free b old_b open_b same.symm)
    · rcases split.1 hd with old_d | rfl
      · obtain ⟨le, less⟩ := admits.newer d old_d
        exact Attempt.notAfter_of_le le less
      · exact Attempt.notAfter_refl d
  case alone =>
    intro b hb open_b create d hd same
    rcases split.1 hb with old_b | rfl
    · rcases split.1 hd with old_d | rfl
      · exact h.alone b old_b open_b create d old_d same
      · by_cases op : d.operation = .create
        · have both : b.operation = .delete ↔ d.operation = .delete := by rw [op, create]
          exact absurd both (admits.free b old_b open_b same.symm)
        · have closed := admits.later op b old_b same.symm create
          rw [closed] at open_b
          cases open_b
    · rcases split.1 hd with old_d | rfl
      · exact .inr (admits.first create d old_d same)
      · exact .inl rfl
  case begun =>
    intro b hb
    have old {event : Uuid} (begun : ∃ d ∈ rows, d.event = event ∧ d.operation = .create) :
        ∃ d ∈ rows ++ [r], d.event = event ∧ d.operation = .create := by
      obtain ⟨d, hd, begun⟩ := begun
      exact ⟨d, split.2 (.inl hd), begun⟩
    rcases split.1 hb with old_b | rfl
    · exact old (h.begun b old_b)
    · by_cases create : b.operation = .create
      · exact ⟨b, hb, rfl, create⟩
      · obtain ⟨d, hd, same⟩ := admits.begun create
        exact same ▸ old (h.begun d hd)
  case withdrawn =>
    intro b hb create closed call
    rcases split.1 hb with old_b | rfl
    · obtain ⟨flag, rest⟩ := h.withdrawn b old_b create closed call
      refine ⟨flag, fun d hd same => ?_⟩
      rcases split.1 hd with old_d | rfl
      · exact rest d old_d same
      · have called := admits.called b old_b same.symm create closed
        rw [call] at called
        cases called
    · rw [admits.pending] at closed
      cases closed

/-- A transient failure is proposed again. -/
theorem admits_again (h : Disciplined flagged rows) (mem : a ∈ rows) (pending : a.isPending = true)
    (called : c.call.isSome = true) (transient : (a.complete c).isTransient = true) {fresh : Uuid}
    {createdAt : Timestamp} (newer : ∀ b ∈ rows, b.createdAt ≤ createdAt ∧ b.id < fresh) :
    Admits flagged (Attempt.completeAt a.id c rows) (a.again fresh a.operation createdAt) := by
  have split {b : Attempt} : b ∈ Attempt.completeAt a.id c rows ↔
      b = a.complete c ∨ b ∈ rows ∧ b.id ≠ a.id := Attempt.mem_completeAt_iff h.distinct mem
  constructor
  case pending => rfl
  case newer =>
    intro b hb
    rcases split.1 hb with rfl | ⟨hb, -⟩
    · exact newer a mem
    · exact newer b hb
  case free =>
    intro b hb open_b same both
    rcases split.1 hb with rfl | ⟨hb, other⟩
    · cases open_b
    · exact other (congrArg Attempt.id (h.one b hb a mem open_b pending same both))
  case deletes => exact h.deletes a mem
  case first =>
    intro create b hb same
    rcases split.1 hb with rfl | ⟨hb, other⟩
    · exact ⟨create, transient⟩
    · rcases h.alone a mem pending create b hb same with rfl | failed
      · exact absurd rfl other
      · exact failed
  case later =>
    intro no_create b hb same create
    rcases split.1 hb with rfl | ⟨hb, -⟩
    · rfl
    · by_contra open_b
      rcases h.alone b hb (by simpa using open_b) create a mem same.symm with rfl | ⟨op, -⟩
      · exact no_create create
      · exact no_create op
  case begun => exact fun _ => ⟨a.complete c, split.2 (.inl rfl), rfl⟩
  case called =>
    intro b hb same create closed
    rcases split.1 hb with rfl | ⟨hb, -⟩
    · exact called
    · by_contra no_call
      have closed_a := ((h.withdrawn b hb create closed (by simpa using no_call)).2 a mem same.symm).2
      rw [pending] at closed_a
      cases closed_a

/-- Moves keep the discipline. -/
theorem move {lossy : Prop} (h : Disciplined flagged rows) (move : Move lossy rows rows') :
    Disciplined flagged rows' := by
  have named {c : Completion} (called : c.call.isSome = true) {event : Uuid} :
      c.call = none → flagged event := by
    intro none
    rw [none] at called
    cases called
  cases move with
  | answer mem pending called lasting => exact h.complete mem pending (named called)
  | again mem pending called transient newer =>
    exact (h.complete mem pending (named called)).insert
      (h.admits_again mem pending called transient newer)

theorem moves {lossy : Prop} (h : Disciplined flagged rows) (moves : Moves lossy rows rows') :
    Disciplined flagged rows' := by
  induction moves with
  | refl => exact h
  | tail _ move ih => exact ih.move move

end Disciplined
end CalendarSync
