import CalendarSync.Proofs.Moves
import CalendarSync.Proofs.Outcome

/-!
# Deletes and what the Planner holds

The history of an event that has been flagged holds a delete exactly if the Planner holds its item:
some create or update was answered with success, or a create with the code of an item that exists.
Without a delete nothing of the event waits. The deletes are the one that was queued, and one more
for each delete that met a transient failure.
-/

namespace CalendarSync
set_option autoImplicit false
open Program Simulation

namespace Attempt
variable {rows : List Attempt} {a b : Attempt} {c : Completion} {event id : Uuid}

/-- The attempts of an event. -/
def ofEvent (event : Uuid) (rows : List Attempt) : List Attempt :=
  rows.filter fun a => a.event = event

/-- The deletes among attempts. -/
def deletes (rows : List Attempt) : List Attempt :=
  rows.filter fun a => a.operation = .delete

/-- The Planner has answered the attempt, and it holds the item since then. -/
structure Reached (a : Attempt) : Prop where
  proposal : a.operation ≠ .delete
  called : a.call.isSome = true
  effective : a.isEffective = true

/-- The first attempt met a transient failure, and the second one proposes it again. -/
structure RepeatedBy (a b : Attempt) : Prop where
  transient : a.isTransient = true
  event : a.event = b.event
  operation : a.operation = b.operation
  window : a.window = b.window
  created : a.createdAt ≤ b.createdAt
  id : a.id < b.id

theorem mem_ofEvent : a ∈ ofEvent event rows ↔ a ∈ rows ∧ a.event = event := by
  simp [ofEvent]

theorem mem_deletes : a ∈ deletes rows ↔ a ∈ rows ∧ a.operation = .delete := by
  simp [deletes]

theorem deletes_eq_nil_iff : deletes rows = [] ↔ ∀ a ∈ rows, a.operation ≠ .delete := by
  simp [deletes]

theorem not_reached_of_isPending (pending : a.isPending = true) : ¬ a.Reached := by
  intro reached
  have effective := reached.effective
  rw [isEffective_of_isPending pending] at effective
  cases effective

theorem ofEvent_completeAt :
    ofEvent event (completeAt id c rows) = completeAt id c (ofEvent event rows) :=
  filter_completeAt fun _ => rfl

theorem deletes_completeAt : deletes (completeAt id c rows) = completeAt id c (deletes rows) :=
  filter_completeAt fun _ => rfl

/-- Recording an outcome changes a count by the row that it is recorded for. -/
theorem countP_completeAt (p : Attempt → Bool) (distinct : (rows.map (·.id)).Nodup)
    (mem : a ∈ rows) :
    (completeAt a.id c rows).countP p + (if p a then 1 else 0) =
      rows.countP p + if p (a.complete c) then 1 else 0 := by
  induction rows with
  | nil => cases mem
  | cons b rows ih =>
    rw [List.map_cons, List.nodup_cons] at distinct
    obtain ⟨new, distinct⟩ := distinct
    have split : completeAt a.id c (b :: rows) =
        (if b.id = a.id then b.complete c else b) :: completeAt a.id c rows := rfl
    rw [split, List.countP_cons, List.countP_cons]
    rcases List.mem_cons.1 mem with rfl | mem
    · have other : ∀ d ∈ rows, d.id ≠ a.id := fun d hd same => new (List.mem_map.2 ⟨d, hd, same⟩)
      rw [completeAt_eq_self other, if_pos rfl]
      omega
    · have other : b.id ≠ a.id := fun same => new (List.mem_map.2 ⟨a, mem, same.symm⟩)
      have ih := ih distinct mem
      rw [if_neg other]
      omega

theorem RepeatedBy.complete (h : b.RepeatedBy a) (c : Completion) :
    b.RepeatedBy (a.complete c) :=
  ⟨h.transient, h.event, h.operation, h.window, h.created, h.id⟩

end Attempt

open Attempt

/-! ## The deletes of an event -/

/-- These deletes are the one that was queued, and one for each transient failure among them. -/
structure QueuedOnce (queued : Attempt) (rows : List Attempt) : Prop where
  first : ∃ d ∈ rows, d.id = queued.id
  count : rows.length = 1 + rows.countP isTransient
  others : ∀ d ∈ rows, d.id = queued.id ∨ ∃ b ∈ rows, b.RepeatedBy d

namespace QueuedOnce
variable {queued a : Attempt} {rows : List Attempt} {c : Completion} {fresh : Uuid}
  {createdAt : Timestamp}

/-- The delete is queued. -/
theorem single (pending : queued.isTransient = false) : QueuedOnce queued [queued] := by
  refine ⟨⟨queued, List.mem_singleton_self _, rfl⟩, ?_, fun d mem => .inl ?_⟩
  · simp [pending]
  · rw [List.mem_singleton.1 mem]

/-- A delete that waited gets an outcome. -/
theorem others_complete (h : QueuedOnce queued rows) (distinct : (rows.map (·.id)).Nodup)
    (mem : a ∈ rows) (blank : a.isTransient = false) :
    ∀ d ∈ completeAt a.id c rows, d.id = queued.id ∨
      ∃ b ∈ completeAt a.id c rows, b.RepeatedBy d := by
  have kept {d : Attempt} (origin : d.id = queued.id ∨ ∃ b ∈ rows, b.RepeatedBy d) :
      d.id = queued.id ∨ ∃ b ∈ completeAt a.id c rows, b.RepeatedBy d := by
    refine origin.imp_right ?_
    rintro ⟨b, hb, repeated⟩
    refine ⟨b, (mem_completeAt_iff distinct mem).2 (.inr ⟨hb, fun same => ?_⟩), repeated⟩
    have transient := repeated.transient
    rw [eq_of_id_eq distinct hb mem same, blank] at transient
    cases transient
  intro d hd
  rcases (mem_completeAt_iff distinct mem).1 hd with rfl | ⟨hd, -⟩
  · refine (kept (h.others a mem)).imp_right ?_
    rintro ⟨b, hb, repeated⟩
    exact ⟨b, hb, repeated.complete c⟩
  · exact kept (h.others d hd)

theorem first_complete (h : QueuedOnce queued rows) :
    ∃ d ∈ completeAt a.id c rows, d.id = queued.id := by
  obtain ⟨d, mem, same⟩ := h.first
  refine ⟨_, List.mem_map_of_mem mem, ?_⟩
  split
  · exact same
  · exact same

theorem answer (h : QueuedOnce queued rows) (distinct : (rows.map (·.id)).Nodup) (mem : a ∈ rows)
    (blank : a.isTransient = false) (lasting : (a.complete c).isTransient = false) :
    QueuedOnce queued (completeAt a.id c rows) := by
  refine ⟨h.first_complete, ?_, h.others_complete distinct mem blank⟩
  have counts := countP_completeAt (c := c) isTransient distinct mem
  simp only [blank, lasting] at counts
  have length : (completeAt a.id c rows).length = rows.length := List.length_map _
  have count := h.count
  omega

/-- A delete that waited meets a transient failure, and is proposed again. -/
theorem again (h : QueuedOnce queued rows) (distinct : (rows.map (·.id)).Nodup) (mem : a ∈ rows)
    (blank : a.isTransient = false) (transient : (a.complete c).isTransient = true)
    (newer : a.createdAt ≤ createdAt ∧ a.id < fresh) :
    QueuedOnce queued (completeAt a.id c rows ++ [a.again fresh a.operation createdAt]) := by
  have fresh_blank : (a.again fresh a.operation createdAt).isTransient = false := rfl
  constructor
  · obtain ⟨d, hd, same⟩ := h.first_complete (a := a) (c := c)
    exact ⟨d, List.mem_append_left _ hd, same⟩
  · have counts := countP_completeAt (c := c) isTransient distinct mem
    simp only [blank, transient] at counts
    have length : (completeAt a.id c rows).length = rows.length := List.length_map _
    have count := h.count
    rw [List.length_append, List.countP_append, List.countP_singleton, fresh_blank,
      List.length_singleton]
    simp only [if_true] at counts
    omega
  · intro d hd
    rcases List.mem_append.1 hd with old | added
    · refine (h.others_complete distinct mem blank d old).imp_right ?_
      rintro ⟨b, hb, repeated⟩
      exact ⟨b, List.mem_append_left _ hb, repeated⟩
    · obtain rfl := List.mem_singleton.1 added
      have answered : a.complete c ∈ completeAt a.id c rows :=
        (mem_completeAt_iff distinct mem).2 (.inl rfl)
      exact .inr ⟨a.complete c, List.mem_append_left _ answered,
        transient, rfl, rfl, rfl, newer.1, newer.2⟩

end QueuedOnce

/-! ## The history of an event -/

/-- What is known of the history of an event, which may have been flagged, and for which these
deletes have been queued. -/
structure Deletion (flagged : Prop) (queued history : List Attempt) : Prop where
  blank : ∀ a ∈ history, a.isPending = true → a.isTransient = false
  /-- As long as the event stands, every outcome is an answer of the Planner. -/
  called : ¬ flagged → ∀ a ∈ history, a.isPending = false → a.call.isSome = true
  /-- A flagged event has a delete exactly if the Planner holds its item. -/
  held : flagged → (deletes history ≠ [] ↔ ∃ a ∈ history, a.Reached)
  /-- Nothing waits for a flagged event that has no delete. -/
  idle : flagged → deletes history = [] → ∀ a ∈ history, a.isPending = false
  none : deletes history = [] → queued = []
  one : deletes history ≠ [] → ∃ q, queued = [q] ∧ QueuedOnce q (deletes history)

namespace Deletion
variable {flagged : Prop} {queued history : List Attempt} {a r : Attempt} {c : Completion}
  {fresh : Uuid} {createdAt : Timestamp}

theorem nil (flagged : Prop) : Deletion flagged [] [] := by
  constructor <;> simp [deletes]

/-- An attempt that waits for a flagged event stands beside a delete. -/
theorem deletes_ne_nil_of_isPending (h : Deletion flagged queued history) (flag : flagged)
    (mem : a ∈ history) (pending : a.isPending = true) : deletes history ≠ [] := by
  intro none
  rw [h.idle flag none a mem] at pending
  cases pending

/-- Whatever the answer, the item is held afterwards if the event has a delete. -/
theorem held_complete (h : Deletion flagged queued history)
    (distinct : (history.map (·.id)).Nodup) (mem : a ∈ history) (pending : a.isPending = true)
    (flag : flagged) :
    deletes history ≠ [] ↔ ∃ b ∈ completeAt a.id c history, b.Reached := by
  constructor
  · intro some
    obtain ⟨b, hb, reached⟩ := (h.held flag).1 some
    refine ⟨b, (mem_completeAt_iff distinct mem).2 (.inr ⟨hb, fun same => ?_⟩), reached⟩
    rw [eq_of_id_eq distinct hb mem same] at reached
    exact not_reached_of_isPending pending reached
  · rintro ⟨b, hb, reached⟩
    rcases (mem_completeAt_iff distinct mem).1 hb with rfl | ⟨hb, -⟩
    · exact h.deletes_ne_nil_of_isPending flag mem pending
    · exact (h.held flag).2 ⟨b, hb, reached⟩

theorem blank_complete (h : Deletion flagged queued history)
    (distinct : (history.map (·.id)).Nodup) (mem : a ∈ history) :
    ∀ b ∈ completeAt a.id c history, b.isPending = true → b.isTransient = false :=
  forall_completeAt distinct mem (fun waits => by cases waits) fun b hb _ => h.blank b hb

theorem called_complete (h : Deletion flagged queued history)
    (distinct : (history.map (·.id)).Nodup) (mem : a ∈ history) (called : c.call.isSome = true)
    (stands : ¬ flagged) :
    ∀ b ∈ completeAt a.id c history, b.isPending = false → b.call.isSome = true :=
  forall_completeAt distinct mem (fun _ => called) fun b hb _ => h.called stands b hb

theorem idle_complete (h : Deletion flagged queued history)
    (distinct : (history.map (·.id)).Nodup) (mem : a ∈ history) (flag : flagged)
    (none : deletes history = []) : ∀ b ∈ completeAt a.id c history, b.isPending = false :=
  forall_completeAt distinct mem rfl fun b hb _ => h.idle flag none b hb

/-- The deletes, when an attempt of another kind gets an outcome. -/
theorem deletes_complete_other (distinct : (history.map (·.id)).Nodup) (mem : a ∈ history)
    (other : a.operation ≠ .delete) : completeAt a.id c (deletes history) = deletes history := by
  apply completeAt_eq_self
  intro d hd same
  obtain ⟨hd, delete⟩ := mem_deletes.1 hd
  rw [eq_of_id_eq distinct hd mem same] at delete
  exact other delete

/-- An attempt that waits is answered for good. -/
theorem answer (h : Deletion flagged queued history) (distinct : (history.map (·.id)).Nodup)
    (mem : a ∈ history) (pending : a.isPending = true) (called : c.call.isSome = true)
    (lasting : (a.complete c).isTransient = false) :
    Deletion flagged queued (completeAt a.id c history) := by
  have nil_iff : deletes (completeAt a.id c history) = [] ↔ deletes history = [] := by
    rw [deletes_completeAt]
    exact List.map_eq_nil_iff
  constructor
  case blank => exact h.blank_complete distinct mem
  case called => exact h.called_complete distinct mem called
  case held =>
    intro flag
    rw [ne_eq, nil_iff]
    exact h.held_complete distinct mem pending flag
  case idle => exact fun flag none => h.idle_complete distinct mem flag (nil_iff.1 none)
  case none => exact fun none => h.none (nil_iff.1 none)
  case one =>
    intro some
    obtain ⟨q, rfl, repeats⟩ := h.one fun none => some (nil_iff.2 none)
    refine ⟨q, rfl, ?_⟩
    rw [deletes_completeAt]
    by_cases delete : a.operation = .delete
    · have own : ((deletes history).map (·.id)).Nodup := nodup_filter distinct _
      exact repeats.answer own (mem_deletes.2 ⟨mem, delete⟩) (h.blank a mem pending) lasting
    · rwa [deletes_complete_other distinct mem delete]

/-- An attempt that waits meets a transient failure, and is proposed again. -/
theorem again (h : Deletion flagged queued history) (distinct : (history.map (·.id)).Nodup)
    (mem : a ∈ history) (pending : a.isPending = true) (called : c.call.isSome = true)
    (transient : (a.complete c).isTransient = true) (newer : a.createdAt ≤ createdAt ∧ a.id < fresh) :
    Deletion flagged queued
      (completeAt a.id c history ++ [a.again fresh a.operation createdAt]) := by
  have split : deletes (completeAt a.id c history ++ [a.again fresh a.operation createdAt]) =
      completeAt a.id c (deletes history) ++ deletes [a.again fresh a.operation createdAt] := by
    rw [← deletes_completeAt]
    exact List.filter_append _ _
  have nil_iff : deletes (completeAt a.id c history ++ [a.again fresh a.operation createdAt]) = [] ↔
      deletes history = [] := by
    rw [split, List.append_eq_nil_iff, completeAt, List.map_eq_nil_iff]
    apply and_iff_left_of_imp
    intro none
    have other : a.operation ≠ .delete := deletes_eq_nil_iff.1 none a mem
    exact deletes_eq_nil_iff.2 fun b hb => by rwa [List.mem_singleton.1 hb]
  constructor
  case blank =>
    refine List.forall_mem_append.2 ⟨h.blank_complete distinct mem, ?_⟩
    exact List.forall_mem_singleton.2 fun _ => rfl
  case called =>
    intro stands
    refine List.forall_mem_append.2 ⟨h.called_complete distinct mem called stands, ?_⟩
    exact List.forall_mem_singleton.2 fun closed => by cases closed
  case held =>
    intro flag
    rw [ne_eq, nil_iff, ← ne_eq, h.held_complete distinct mem pending flag]
    constructor
    · rintro ⟨b, hb, reached⟩
      exact ⟨b, List.mem_append_left _ hb, reached⟩
    · rintro ⟨b, hb, reached⟩
      rcases List.mem_append.1 hb with old | added
      · exact ⟨b, old, reached⟩
      · rw [List.mem_singleton.1 added] at reached
        exact absurd reached (not_reached_of_isPending rfl)
  case idle =>
    intro flag none
    exact absurd (nil_iff.1 none) (h.deletes_ne_nil_of_isPending flag mem pending)
  case none => exact fun none => h.none (nil_iff.1 none)
  case one =>
    intro some
    obtain ⟨q, rfl, repeats⟩ := h.one fun none => some (nil_iff.2 none)
    refine ⟨q, rfl, ?_⟩
    rw [split]
    by_cases delete : a.operation = .delete
    · have own : ((deletes history).map (·.id)).Nodup := nodup_filter distinct _
      have added : deletes [a.again fresh a.operation createdAt] =
          [a.again fresh a.operation createdAt] :=
        List.filter_eq_self.2 (List.forall_mem_singleton.2 (decide_eq_true delete))
      rw [added]
      exact repeats.again own (mem_deletes.2 ⟨mem, delete⟩) (h.blank a mem pending) transient newer
    · have added : deletes [a.again fresh a.operation createdAt] = [] :=
        deletes_eq_nil_iff.2 (List.forall_mem_singleton.2 delete)
      rwa [added, List.append_nil, deletes_complete_other distinct mem delete]

/-- A create or an update is proposed for an event that stands. -/
theorem propose (h : Deletion flagged queued history) (stands : ¬ flagged)
    (pending : r.isPending = true) (blank : r.isTransient = false) (other : r.operation ≠ .delete) :
    Deletion flagged queued (history ++ [r]) := by
  have same : deletes (history ++ [r]) = deletes history := by
    have added : deletes [r] = [] := deletes_eq_nil_iff.2 (List.forall_mem_singleton.2 other)
    refine (List.filter_append _ _).trans ?_
    rw [← deletes, ← deletes, added, List.append_nil]
  constructor
  case blank =>
    exact List.forall_mem_append.2 ⟨h.blank, List.forall_mem_singleton.2 fun _ => blank⟩
  case called =>
    intro stands
    refine List.forall_mem_append.2 ⟨h.called stands, List.forall_mem_singleton.2 fun closed => ?_⟩
    rw [pending] at closed
    cases closed
  case held => exact fun flag => absurd flag stands
  case idle => exact fun flag => absurd flag stands
  case none =>
    rw [same]
    exact h.none
  case one =>
    rw [same]
    exact h.one

/-- The event is flagged, and its first delete is queued because the item is held. -/
theorem queue (h : Deletion flagged queued history) (none : deletes history = [])
    (held : ∃ a ∈ history, a.Reached) (blank : r.isTransient = false)
    (delete : r.operation = .delete) : Deletion True (queued ++ [r]) (history ++ [r]) := by
  have one : deletes (history ++ [r]) = [r] := by
    have added : deletes [r] = [r] :=
      List.filter_eq_self.2 (List.forall_mem_singleton.2 (decide_eq_true delete))
    refine (List.filter_append _ _).trans ?_
    rw [← deletes, ← deletes, none, added, List.nil_append]
  have some : deletes (history ++ [r]) ≠ [] := by simp [one]
  constructor
  case blank =>
    exact List.forall_mem_append.2 ⟨h.blank, List.forall_mem_singleton.2 fun _ => blank⟩
  case called => exact fun stands => absurd trivial stands
  case held =>
    obtain ⟨a, mem, reached⟩ := held
    exact fun _ => iff_of_true some ⟨a, List.mem_append_left _ mem, reached⟩
  case idle => exact fun _ none => absurd none some
  case none => exact fun none => absurd none some
  case one =>
    rw [one, h.none none, List.nil_append]
    exact fun _ => ⟨r, rfl, .single blank⟩

/-- The event is flagged when nothing waits and the item is not held. -/
theorem retire (none : deletes history = []) (free : ∀ a ∈ history, ¬ a.Reached)
    (idle : ∀ a ∈ history, a.isPending = false) : Deletion True [] history := by
  constructor
  case blank =>
    intro a mem waits
    rw [idle a mem] at waits
    cases waits
  case called => exact fun stands => absurd trivial stands
  case held =>
    exact fun _ => iff_of_false (not_not_intro none) fun ⟨a, mem, reached⟩ => free a mem reached
  case idle => exact fun _ _ => idle
  case none => exact fun _ => rfl
  case one => exact fun some => absurd none some

/-- The event is flagged, and the one attempt that waits is closed without a call. -/
theorem withdraw (distinct : (history.map (·.id)).Nodup) (none : deletes history = [])
    (free : ∀ a ∈ history, ¬ a.Reached) (mem : a ∈ history) (uncalled : c.call = .none)
    (single : ∀ b ∈ history, b.isPending = true → b = a) :
    Deletion True [] (completeAt a.id c history) := by
  apply retire
  · rw [deletes_completeAt, none]
    rfl
  · refine forall_completeAt distinct mem (fun reached => ?_) fun b hb _ => free b hb
    have called := reached.called
    rw [complete_call, uncalled] at called
    cases called
  · refine forall_completeAt distinct mem rfl fun b hb different => ?_
    by_contra waits
    rw [single b hb (by simpa using waits)] at different
    exact different rfl

end Deletion
end CalendarSync
