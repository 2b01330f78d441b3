import CalendarSync.Proofs.Answers
import CalendarSync.Proofs.Removal

/-!
# What becomes of flagged events

Once nothing waits for a flagged event, nothing is ever sent for it again. An event that has been
flagged has a delete exactly if a cycle has recorded that the Planner holds the item; otherwise it
has been retired.
-/

namespace CalendarSync
set_option autoImplicit false
open Program Simulation Attempt

/-- The event has been flagged, and nothing waits for it. -/
structure Retired (event : Uuid) (s : Store) : Prop where
  flagged : s.Flagged event
  idle : ∀ a ∈ s.attempts, a.event = event → a.isPending = false

namespace Retired
variable {event id : Uuid} {rows rows' : List Attempt} {s after : Store} {t : List Moment}

/-- Moves leave an event alone for which nothing waits. -/
theorem idle_move {lossy : Prop} (idle : ∀ a ∈ rows, a.event = event → a.isPending = false)
    (distinct : (rows.map (·.id)).Nodup) (move : Move lossy rows rows') :
    ∀ a ∈ rows', a.event = event → a.isPending = false := by
  have answered {a : Attempt} {c : Completion} (mem : a ∈ rows) :
      ∀ b ∈ completeAt a.id c rows, b.event = event → b.isPending = false :=
    forall_completeAt distinct mem (fun _ => rfl) fun b hb _ => idle b hb
  cases move with
  | answer mem pending called lasting => exact answered mem
  | again mem pending called transient newer =>
    refine List.forall_mem_append.2 ⟨answered mem, List.forall_mem_singleton.2 fun same => ?_⟩
    rw [idle _ mem same] at pending
    cases pending

theorem idle_moves {lossy : Prop} (idle : ∀ a ∈ rows, a.event = event → a.isPending = false)
    (distinct : (rows.map (·.id)).Nodup) (moves : Moves lossy rows rows') :
    ∀ a ∈ rows', a.event = event → a.isPending = false := by
  induction moves with
  | refl => exact idle
  | tail moves move ih => exact idle_move ih (Moves.nodup moves distinct) move

theorem propose {seen : Window} {result : Except DomainError (Option Attempt)}
    (retired : Retired event s) (proposing : Queue.Proposing id seen s t result after) :
    Retired event after ∧ ∀ m ∈ t, m.sent = [] := by
  cases proposing with
  | kept still none => exact ⟨retired, fun m mem => (still m mem).2⟩
  | @proposed row op createdAt fresh still found stale dated issued =>
    have stands := (Queue.nextOperation?_status stale).1
    refine ⟨⟨retired.flagged, ?_⟩, fun m mem => (still m mem).2⟩
    refine List.forall_mem_append.2 ⟨retired.idle, List.forall_mem_singleton.2 fun same => ?_⟩
    have other : id = event := same
    exact absurd (other ▸ retired.flagged) (Store.not_flagged_of_event? found stands)

theorem delete {result : Except DomainError (Option Attempt)} (retired : Retired event s)
    (h : Disciplined s.Flagged s.attempts) (deleting : Queue.Deleting id s t result after) :
    Retired event after ∧ ∀ m ∈ t, m.sent = [] := by
  have quiet {s : Store} {t : List Moment} (still : ∀ m ∈ t, Queue.Still s m) :
      ∀ m ∈ t, m.sent = [] := fun m mem => (still m mem).2
  have flag {f : Store} (flags : Queue.Flags id s f) : Retired event f := by
    refine ⟨(flags.flagged _).2 (.inr retired.flagged), ?_⟩
    rw [flags.attempts]
    exact retired.idle
  cases deleting with
  | kept still none => exact ⟨retired, quiet still⟩
  | flagged unflagged flags still still' none reason =>
    exact ⟨flag flags, List.forall_mem_append.2 ⟨quiet still, quiet still'⟩⟩
  | proposed unflagged flags still still' last held dated issued =>
    obtain ⟨flagged, idle⟩ := flag flags
    refine ⟨⟨flagged, ?_⟩, List.forall_mem_append.2 ⟨quiet still, quiet still'⟩⟩
    refine List.forall_mem_append.2 ⟨idle, List.forall_mem_singleton.2 fun same => ?_⟩
    have own : id = event := (Store.mem_history.1 (latest?_mem last)).2.symm.trans same
    exact absurd (own ▸ retired.flagged) unflagged
  | @withdrawn f _ t t' t'' instant result unflagged flags still still' free run =>
    obtain ⟨still'', effect⟩ := h.withdraw unflagged flags run
    have sent : ∀ m ∈ t ++ (t' ++ t''), m.sent = [] :=
      List.forall_mem_append.2 ⟨quiet still, List.forall_mem_append.2 ⟨quiet still', quiet still''⟩⟩
    refine ⟨?_, sent⟩
    rcases effect with ⟨rfl, -⟩ | ⟨a, mem, -, waits, -, rfl⟩
    · exact flag flags
    · refine ⟨(flag flags).flagged, ?_⟩
      exact forall_completeAt h.distinct mem (fun _ => rfl) fun b hb _ => retired.idle b hb

theorem cycle {policy : CallPolicy} {maxCreates : Nat} {department : String}
    {result : Except DomainError CycleReport} (retired : Retired event s)
    (distinct : (s.attempts.map (·.id)).Nodup)
    (run : Runs (Cycle.run policy maxCreates department) s t result after)
    (timely : ∀ m ∈ t, m.Timely) :
    Retired event after ∧ ∀ m ∈ t, ∀ a ∈ m.sent, a.event ≠ event := by
  obtain ⟨⟨moves, events⟩, shows_all⟩ := Cycle.moves_of_timely distinct run timely
  refine ⟨⟨?_, idle_moves retired.idle distinct moves⟩, fun m mem a sent same => ?_⟩
  · rw [Store.flagged_congr events]
    exact retired.flagged
  · obtain ⟨moves, -, waits, -, -⟩ := shows_all m mem
    obtain ⟨here, pending⟩ := waits a sent
    rw [idle_moves retired.idle distinct moves a here same] at pending
    cases pending

/-- No operation brings back an event that has been retired. -/
theorem command (c : Command) {result : Except DomainError c.Result} (retired : Retired event s)
    (h : Disciplined s.Flagged s.attempts) (run : Runs c.program s t result after)
    (timely : ∀ m ∈ t, m.Timely) :
    Retired event after ∧ ∀ m ∈ t, ∀ a ∈ m.sent, a.event ≠ event := by
  have none {t : List Moment} (quiet : ∀ m ∈ t, m.sent = []) :
      ∀ m ∈ t, ∀ a ∈ m.sent, a.event ≠ event := by
    intro m mem a sent
    rw [quiet m mem] at sent
    cases sent
  cases c with
  | propose id seen =>
    obtain ⟨retired, quiet⟩ := retired.propose (Queue.runs_proposeIfStale run)
    exact ⟨retired, none quiet⟩
  | delete id =>
    obtain ⟨retired, quiet⟩ := retired.delete h (Queue.runs_delete run)
    exact ⟨retired, none quiet⟩
  | cycle policy maxCreates department => exact retired.cycle h.distinct run timely

theorem history {more : List Episode} (retired : Retired event s)
    (h : Disciplined s.Flagged s.attempts) (history : History s more after)
    (timely : ∀ m ∈ momentsOf more, m.Timely) :
    ∀ m ∈ momentsOf more, ∀ a ∈ m.sent, a.event ≠ event := by
  have kept : (Disciplined after.Flagged after.attempts ∧ Retired event after) ∧
      ∀ m ∈ momentsOf more, ∀ a ∈ m.sent, a.event ≠ event := by
    induction history with
    | start => exact ⟨⟨h, retired⟩, by simp [momentsOf]⟩
    | @next more middle after command t result past run ih =>
      rw [momentsOf_append, momentsOf_singleton, List.forall_mem_append] at timely ⊢
      obtain ⟨⟨h, retired⟩, before⟩ := ih timely.1
      obtain ⟨retired, now⟩ := retired.command command h run timely.2
      exact ⟨⟨(h.command command run timely.2).1, retired⟩, before, now⟩
  exact kept.2

end Retired

/-! ## Flagged events -/

/-- The answer to an attempt says that the Planner holds the item. -/
def Completion.Holds (c : Completion) (op : Operation) : Prop :=
  c.success = true ∨ op = .create ∧ c.success = false ∧ c.errorCode = some itemExistsCode

/-- What has become of a flagged event after these operations. -/
structure Removed (episodes : List Episode) (s : Store) (event : Uuid) : Prop where
  /-- Its log holds a delete exactly if a cycle has recorded for one of its creates and updates that
  the Planner holds the item. -/
  held : deletes (s.history event) ≠ [] ↔ ∃ a ∈ s.history event, a.operation ≠ .delete ∧
    ∃ c, RecordedIn episodes a.id c ∧ c.Holds a.operation
  /-- Without a delete nothing waits. -/
  idle : deletes (s.history event) = [] → ∀ a ∈ s.history event, a.isPending = false
  /-- Without a delete no later call carries an attempt of the event. -/
  silent : deletes (s.history event) = [] → ∀ more after, History s more after →
    Forward (momentsOf (episodes ++ more)) → ∀ m ∈ momentsOf more, ∀ a ∈ m.sent, a.event ≠ event
  /-- Otherwise one delete was queued, and the others repeat those that met a transient failure. -/
  one : deletes (s.history event) ≠ [] →
    ∃ q, queuedFor event episodes = [q] ∧ QueuedOnce q (deletes (s.history event))

theorem QueuedOnce.perm {q : Attempt} {rows rows' : List Attempt} (h : QueuedOnce q rows)
    (same : rows'.Perm rows) : QueuedOnce q rows' := by
  obtain ⟨first, count, others⟩ := h
  refine ⟨?_, ?_, fun d mem => ?_⟩
  · obtain ⟨d, mem, id⟩ := first
    exact ⟨d, same.mem_iff.2 mem, id⟩
  · rw [same.length_eq, same.countP_eq, count]
  · refine (others d (same.mem_iff.1 mem)).imp_right ?_
    rintro ⟨b, mem, repeated⟩
    exact ⟨b, same.mem_iff.2 mem, repeated⟩

/-- The Planner holds the item since an attempt exactly if a cycle has recorded it so. -/
theorem reached_iff {episodes : List Episode} {s : Store} {a : Attempt}
    (distinct : (s.attempts.map (·.id)).Nodup)
    (recorded : ∀ id c, RecordedIn episodes id c ↔ Tells s.attempts id c) (mem : a ∈ s.attempts) :
    a.Reached ↔ a.operation ≠ .delete ∧ ∃ c, RecordedIn episodes a.id c ∧ c.Holds a.operation := by
  constructor
  · rintro ⟨proposal, called, effective⟩
    obtain ⟨c, done⟩ := exists_complete_of_isEffective effective
    refine ⟨proposal, c, (recorded _ _).2 ⟨a, mem, rfl, called, done⟩, ?_⟩
    rw [← done] at effective
    exact isEffective_complete_iff.1 effective
  · rintro ⟨proposal, c, told, holds⟩
    obtain ⟨b, hb, same, called, done⟩ := (recorded _ _).1 told
    obtain rfl := eq_of_id_eq distinct hb mem same
    refine ⟨proposal, called, ?_⟩
    rw [← done]
    exact isEffective_complete_iff.2 holds

/-- After any operations with a storage that does not fail, an event that has been flagged has a
delete exactly if the Planner holds its item, one that was queued once; and without a delete it is
never sent again. -/
theorem removed_history {s₀ s : Store} {episodes : List Episode} {event : Uuid}
    (history : History s₀ episodes s) (empty : s₀.attempts = [])
    (forward : Forward (momentsOf episodes)) (stored : ∀ m ∈ momentsOf episodes, m.Stored)
    (flagged : s.Flagged event) : Removed episodes s event := by
  obtain ⟨timely, -⟩ := history.timely empty forward
  obtain ⟨h, -⟩ := Disciplined.history history empty timely
  have known := Store.Accounts.history history empty
    (fun m mem => ⟨timely m mem, stored m mem⟩) event
  have same : (s.history event).Perm (ofEvent event s.attempts) := oldestFirst_perm _
  have same' : (deletes (s.history event)).Perm (deletes (ofEvent event s.attempts)) := same.filter _
  have nil_iff : deletes (s.history event) = [] ↔ deletes (ofEvent event s.attempts) = [] := by
    rw [← List.length_eq_zero_iff, same'.length_eq, List.length_eq_zero_iff]
  have idle (none : deletes (s.history event) = []) :
      ∀ a ∈ s.attempts, a.event = event → a.isPending = false :=
    fun a mem own => known.idle flagged (nil_iff.1 none) a (mem_ofEvent.2 ⟨mem, own⟩)
  constructor
  case held =>
    rw [ne_eq, nil_iff, ← ne_eq, known.held flagged]
    apply exists_congr
    intro a
    rw [same.mem_iff]
    refine and_congr_right fun mem => reached_iff h.distinct ?_ (mem_ofEvent.1 mem).1
    exact recordedIn_iff history empty timely
  case idle =>
    intro none a mem
    obtain ⟨mem, own⟩ := Store.mem_history.1 mem
    exact idle none a mem own
  case silent =>
    intro none more after later forward'
    obtain ⟨timely', -⟩ := (history.trans later).timely empty forward'
    rw [momentsOf_append, List.forall_mem_append] at timely'
    exact Retired.history ⟨flagged, idle none⟩ h later timely'.2
  case one =>
    intro some
    obtain ⟨q, one, repeats⟩ := known.one fun none => some (nil_iff.2 none)
    exact ⟨q, one, repeats.perm same'⟩

/-- In the lifetimes of two events one is never sent, and the other one has a delete that is
repeated. -/
theorem removed_lifetimes : ∃ episodes,
    History World.standing.store episodes (World.standing.perform World.lifetimes).store ∧
    Removed episodes (World.standing.perform World.lifetimes).store (.ofNat 2) ∧
    Removed episodes (World.standing.perform World.lifetimes).store (.ofNat 1) ∧
    (deletes (ofEvent (.ofNat 2) (World.standing.perform World.lifetimes).store.attempts)).length = 0 ∧
    (deletes (ofEvent (.ofNat 1) (World.standing.perform World.lifetimes).store.attempts)).length = 2 := by
  obtain ⟨episodes, history, moments⟩ :=
    World.exists_history World.lifetimes World.standing rfl (by decide +kernel)
  have forward : Forward (momentsOf episodes) := by
    rw [moments]
    exact ⟨by decide +kernel, by decide +kernel⟩
  have stored : ∀ m ∈ momentsOf episodes, m.Stored := by
    rw [moments]
    decide +kernel
  have removed (event : Uuid)
      (flagged : (World.standing.perform World.lifetimes).store.Flagged event) :=
    removed_history history rfl forward stored flagged
  exact ⟨episodes, history, removed _ (by decide +kernel), removed _ (by decide +kernel),
    by decide +kernel, by decide +kernel⟩

end CalendarSync
