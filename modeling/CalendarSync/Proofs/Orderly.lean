import CalendarSync.Proofs.Discipline

/-!
# The queue stays in order

Every operation keeps the discipline, whatever the Planner answers and whichever requests to the
storage fail. So in every history that begins without attempts the queue of an event is in order at
every moment, and an update or a delete is sent only after the Planner has answered the creates.
-/

namespace CalendarSync
set_option autoImplicit false
open Program Simulation

namespace Disciplined
variable {s f after : Store} {t : List Moment} {id fresh : Uuid} {createdAt : Timestamp}

/-- The discipline holds of the tables at a moment, and what is sent waits in them. -/
structure At (m : Moment) : Prop where
  rows : Disciplined m.store.Flagged m.store.attempts
  waits : ∀ a ∈ m.sent, a ∈ m.store.attempts ∧ a.isPending = true

theorem at_still (h : Disciplined s.Flagged s.attempts) {m : Moment} (still : Queue.Still s m) :
    At m := by
  obtain ⟨rfl, quiet⟩ := still
  refine ⟨h, ?_⟩
  rw [quiet]
  exact fun a mem => by cases mem

/-- The creates of an event that stands have been answered, unless they wait. -/
theorem called_of_unflagged (h : Disciplined s.Flagged s.attempts) (unflagged : ¬ s.Flagged id)
    {b : Attempt} (mem : b ∈ s.attempts) (same : b.event = id) (create : b.operation = .create)
    (closed : b.isPending = false) : b.call.isSome = true := by
  by_contra none
  have flagged := (h.withdrawn b mem create closed (by simpa using none)).1
  rw [same] at flagged
  exact unflagged flagged

/-- What is proposed for an event that stands is allowed. -/
theorem admits_proposal {op : Operation} {seen : Window} (h : Disciplined s.Flagged s.attempts)
    (unflagged : ¬ s.Flagged id)
    (stale : op = .create ∧ s.history id = [] ∨ op = .update ∧
      ∃ latest, Attempt.latest? (s.history id) = some latest ∧ latest.isPending = false)
    (newer : ∀ b ∈ s.attempts, b.createdAt ≤ createdAt ∧ b.id < fresh) :
    Admits s.Flagged s.attempts (.pending fresh id op seen createdAt) := by
  -- Whatever waits for the event is its latest attempt, which does not wait.
  have closed : ∀ b ∈ s.attempts, b.event = id → b.isPending = false := by
    intro b mem same
    have here : b ∈ s.history id := Store.mem_history.2 ⟨mem, same⟩
    rcases stale with ⟨-, none⟩ | ⟨-, latest, last, closed⟩
    · rw [none] at here
      cases here
    · obtain ⟨mem', same'⟩ := Store.mem_history.1 (Attempt.latest?_mem last)
      by_contra waits
      have stands : ¬ s.Flagged b.event := same ▸ unflagged
      have newest := h.newest b mem (by simpa using waits) stands latest mem' (same'.trans same.symm)
      have id_eq := (Attempt.notAfter_latest? last b here).id_eq newest
      rw [Attempt.eq_of_id_eq h.distinct mem mem' id_eq] at waits
      exact waits closed
  constructor
  case pending => rfl
  case newer => exact newer
  case free =>
    intro b mem waits same
    rw [closed b mem same] at waits
    cases waits
  case deletes =>
    rintro rfl
    rcases stale with ⟨op, -⟩ | ⟨op, -⟩ <;> cases op
  case first =>
    rintro rfl b mem same
    rcases stale with ⟨-, none⟩ | ⟨op, -⟩
    · have here : b ∈ s.history id := Store.mem_history.2 ⟨mem, same⟩
      rw [none] at here
      cases here
    · cases op
  case later => exact fun _ b mem same _ => closed b mem same
  case begun =>
    intro no_create
    rcases stale with ⟨create, -⟩ | ⟨-, latest, last, -⟩
    · exact absurd create no_create
    · exact ⟨latest, Store.mem_history.1 (Attempt.latest?_mem last)⟩
  case called => exact fun b mem same => h.called_of_unflagged unflagged mem same

/-- The delete of an item that the Planner holds is allowed. -/
theorem admits_delete {latest : Attempt} (h : Disciplined s.Flagged s.attempts)
    (unflagged : ¬ s.Flagged id) (flags : Queue.Flags id s f)
    (last : Attempt.latest? (s.history id) = some latest)
    (held : Queue.isHeld (s.history id) = true)
    (newer : ∀ b ∈ f.attempts, b.createdAt ≤ createdAt ∧ b.id < fresh) :
    Admits f.Flagged f.attempts (latest.again fresh .delete createdAt) := by
  obtain ⟨mem_latest, event⟩ := Store.mem_history.1 (Attempt.latest?_mem last)
  rw [flags.attempts] at newer ⊢
  constructor
  case pending => rfl
  case newer => exact newer
  case free =>
    intro b mem waits same both
    have flagged := h.deletes b mem (both.2 rfl)
    rw [same] at flagged
    exact unflagged (event ▸ flagged)
  case deletes => exact fun _ => (flags.flagged _).2 (.inl event)
  case first => exact fun create => by cases create
  case later =>
    intro _ b mem same create
    by_contra waits
    -- A create that waits stands beside transient failures only, none of which left an item.
    obtain ⟨d, hd, effective⟩ := Queue.isHeld_iff.1 held
    obtain ⟨mem_d, event_d⟩ := Store.mem_history.1 hd
    have waits : b.isPending = true := by simpa using waits
    have same : b.event = latest.event := same
    rcases h.alone b mem waits create d mem_d (event_d.trans (same.trans event).symm)
      with rfl | ⟨-, transient⟩
    · rw [Attempt.isEffective_of_isPending waits] at effective
      cases effective
    · rw [Attempt.isEffective_of_isTransient transient] at effective
      cases effective
  case begun => exact fun _ => ⟨latest, mem_latest, rfl⟩
  case called =>
    intro b mem same
    exact h.called_of_unflagged unflagged mem (Eq.trans same event)

/-- A new attempt is more recent than all others if it is dated by the clock and named by the source
of identifiers. -/
theorem newer_of_timely (timely : ∀ m ∈ t, m.Timely) (dated : ⟨s, .now, createdAt⟩ ∈ t)
    (issued : ⟨s, .freshId, fresh⟩ ∈ t) :
    ∀ b ∈ s.attempts, b.createdAt ≤ createdAt ∧ b.id < fresh := by
  have later : ∀ b ∈ s.attempts, b.createdAt ≤ createdAt := timely _ dated
  have greater : ∀ b ∈ s.attempts, b.id < fresh := timely _ issued
  exact fun b mem => ⟨later b mem, greater b mem⟩

theorem propose {seen : Window} {result : Except DomainError (Option Attempt)}
    (h : Disciplined s.Flagged s.attempts)
    (proposing : Queue.Proposing id seen s t result after) (timely : ∀ m ∈ t, m.Timely) :
    Disciplined after.Flagged after.attempts ∧ ∀ m ∈ t, At m := by
  cases proposing with
  | kept still none => exact ⟨h, fun m mem => h.at_still (still m mem)⟩
  | @proposed row op createdAt fresh still found stale dated issued =>
    obtain ⟨stands, stale⟩ := Queue.nextOperation?_status stale
    have unflagged : ¬ s.Flagged id := Store.not_flagged_of_event? found stands
    have admits : Admits s.Flagged s.attempts (.pending fresh id op seen createdAt) :=
      h.admits_proposal unflagged stale (newer_of_timely timely dated issued)
    exact ⟨h.insert admits, fun m mem => h.at_still (still m mem)⟩

/-- At most one attempt waits for an event that stands. -/
theorem waiting_of_unflagged (h : Disciplined s.Flagged s.attempts) (unflagged : ¬ s.Flagged id) :
    (s.history id).filter (·.isPending) = [] ∨
      ∃ a, (s.history id).filter (·.isPending) = [a] := by
  have own : ((s.history id).filter (·.isPending)).Nodup :=
    (Store.nodup_history h.distinct id).of_map.filter _
  have no_delete : ∀ a ∈ s.attempts, a.event = id → a.operation ≠ .delete :=
    fun a mem same delete => unflagged (same ▸ h.deletes a mem delete)
  have few : ((s.history id).filter (·.isPending)).length ≤ 1 := by
    refine Attempt.length_le_one_of_nodup own fun a ha b hb => ?_
    obtain ⟨mem_a, event_a, open_a⟩ := Store.mem_waiting_history.1 ha
    obtain ⟨mem_b, event_b, open_b⟩ := Store.mem_waiting_history.1 hb
    have both := iff_of_false (no_delete a mem_a event_a) (no_delete b mem_b event_b)
    exact h.one a mem_a b mem_b open_a open_b (event_a.trans event_b.symm) both
  rcases Nat.le_one_iff_eq_zero_or_eq_one.1 few with none | one
  · exact .inl (List.eq_nil_of_length_eq_zero none)
  · exact .inr (List.length_eq_one_iff.1 one)

/-- What withdrawing can do for an event that stood: there is nothing to withdraw, or the storage
fails, or the one attempt that waited gets its outcome. -/
theorem withdraw {c : Completion} {result : Except DomainError Unit}
    (h : Disciplined s.Flagged s.attempts) (unflagged : ¬ s.Flagged id)
    (flags : Queue.Flags id s f)
    (run : Runs (Queue.withdraw c ((s.history id).filter (·.isPending))) f t result after) :
    (∀ m ∈ t, Queue.Still f m) ∧
      (after = f ∧ ((∀ a ∈ s.attempts, a.event = id → a.isPending = false) ∨ ∃ m ∈ t, ¬ m.Stored) ∨
        ∃ a ∈ s.attempts, a.event = id ∧ a.isPending = true ∧
          (∀ b ∈ s.attempts, b.event = id → b.isPending = true → b = a) ∧
          after = { f with attempts := Attempt.completeAt a.id c s.attempts }) := by
  rcases h.waiting_of_unflagged unflagged with none | ⟨a, one⟩
  · have idle : ∀ a ∈ s.attempts, a.event = id → a.isPending = false := by
      intro a mem same
      by_contra waits
      have here := Store.mem_waiting_history.2 ⟨mem, same, by simpa using waits⟩
      rw [none] at here
      cases here
    rw [none] at run
    obtain ⟨rfl, rfl⟩ := Queue.runs_withdraw_nil run
    exact ⟨by simp, .inl ⟨rfl, .inl idle⟩⟩
  · have single : ∀ b ∈ s.attempts, b.event = id → b.isPending = true → b = a := by
      intro b mem same waits
      have here := Store.mem_waiting_history.2 ⟨mem, same, waits⟩
      rw [one] at here
      exact List.mem_singleton.1 here
    obtain ⟨mem, event, waits⟩ := Store.mem_waiting_history.1 (one ▸ List.mem_singleton_self a)
    rw [one] at run
    obtain ⟨answer, wrote, rfl⟩ := Queue.runs_withdraw_singleton run
    refine ⟨List.forall_mem_singleton.2 ⟨rfl, rfl⟩, ?_⟩
    cases answer with
    | error e =>
      obtain rfl : after = f := wrote
      exact .inl ⟨rfl, .inr ⟨_, List.mem_singleton_self _, fun stored => by cases stored⟩⟩
    | ok u =>
      have distinct : (f.attempts.map (·.id)).Nodup := flags.attempts ▸ h.distinct
      have here : a.id ∈ f.attempts.map (·.id) := flags.attempts ▸ List.mem_map_of_mem mem
      rw [Store.completeAttempt_eq distinct here, flags.attempts] at wrote
      exact .inr ⟨a, mem, event, waits, single, (Except.ok.inj wrote).symm⟩

theorem delete {result : Except DomainError (Option Attempt)}
    (h : Disciplined s.Flagged s.attempts) (deleting : Queue.Deleting id s t result after)
    (timely : ∀ m ∈ t, m.Timely) :
    Disciplined after.Flagged after.attempts ∧ ∀ m ∈ t, At m := by
  have flag {f : Store} (flags : Queue.Flags id s f) : Disciplined f.Flagged f.attempts := by
    rw [flags.attempts]
    exact h.mono fun event flagged => (flags.flagged event).2 (.inr flagged)
  cases deleting with
  | kept still none => exact ⟨h, fun m mem => h.at_still (still m mem)⟩
  | flagged unflagged flags still still' none reason =>
    have h' := flag flags
    refine ⟨h', List.forall_mem_append.2 ⟨?_, ?_⟩⟩
    · exact fun m mem => h.at_still (still m mem)
    · exact fun m mem => h'.at_still (still' m mem)
  | proposed unflagged flags still still' last held dated issued =>
    have h' := flag flags
    rw [List.forall_mem_append] at timely
    have newer := newer_of_timely timely.2 dated issued
    refine ⟨h'.insert (h.admits_delete unflagged flags last held newer),
      List.forall_mem_append.2 ⟨?_, ?_⟩⟩
    · exact fun m mem => h.at_still (still m mem)
    · exact fun m mem => h'.at_still (still' m mem)
  | @withdrawn f _ t t' t'' instant result unflagged flags still still' free run =>
    have h' := flag flags
    obtain ⟨still'', effect⟩ := h.withdraw unflagged flags run
    have done : Disciplined after.Flagged after.attempts := by
      rcases effect with ⟨rfl, -⟩ | ⟨a, mem, event, waits, -, rfl⟩
      · exact h'
      · have h' : Disciplined f.Flagged s.attempts := flags.attempts ▸ h'
        exact h'.complete mem waits fun _ => (flags.flagged _).2 (.inl event)
    refine ⟨done, List.forall_mem_append.2 ⟨?_, List.forall_mem_append.2 ⟨?_, ?_⟩⟩⟩
    · exact fun m mem => h.at_still (still m mem)
    · exact fun m mem => h'.at_still (still' m mem)
    · exact fun m mem => h'.at_still (still'' m mem)

theorem cycle {policy : CallPolicy} {maxCreates : Nat} {department : String}
    {result : Except DomainError CycleReport} (h : Disciplined s.Flagged s.attempts)
    (run : Runs (Cycle.run policy maxCreates department) s t result after)
    (timely : ∀ m ∈ t, m.Timely) :
    Disciplined after.Flagged after.attempts ∧ ∀ m ∈ t, At m := by
  obtain ⟨⟨moves, events⟩, shows_all⟩ := Cycle.moves_of_timely h.distinct run timely
  refine ⟨?_, fun m mem => ?_⟩
  · rw [Store.flagged_congr events]
    exact h.moves moves
  · obtain ⟨moves, events, waits, -, -⟩ := shows_all m mem
    refine ⟨?_, waits⟩
    rw [Store.flagged_congr events]
    exact h.moves moves

/-- Every operation keeps the discipline, and keeps it at every moment. -/
theorem command (c : Command) {result : Except DomainError c.Result}
    (h : Disciplined s.Flagged s.attempts) (run : Runs c.program s t result after)
    (timely : ∀ m ∈ t, m.Timely) :
    Disciplined after.Flagged after.attempts ∧ ∀ m ∈ t, At m := by
  cases c with
  | propose event seen => exact h.propose (Queue.runs_proposeIfStale run) timely
  | delete event => exact h.delete (Queue.runs_delete run) timely
  | cycle policy maxCreates department => exact h.cycle run timely

theorem history {s₀ : Store} {episodes : List Episode} (history : History s₀ episodes s)
    (empty : s₀.attempts = []) (timely : ∀ m ∈ momentsOf episodes, m.Timely) :
    Disciplined s.Flagged s.attempts ∧ ∀ m ∈ momentsOf episodes, At m := by
  induction history with
  | start =>
    rw [empty]
    exact ⟨nil _, by simp [momentsOf]⟩
  | @next episodes s after command t result past run ih =>
    rw [momentsOf_append, momentsOf_singleton, List.forall_mem_append] at timely ⊢
    obtain ⟨h, before⟩ := ih timely.1
    obtain ⟨h', now⟩ := h.command command run timely.2
    exact ⟨h', before, now⟩

end Disciplined

/-! ## What is in order -/

/-- The attempts of an event that wait: its deletes, or the others. -/
def Simulation.Store.waiting (s : Store) (event : Uuid) (deletes : Bool) : List Attempt :=
  (s.history event).filter fun a => a.isPending && (a.operation == .delete) == deletes

/-- The queues of all events are in order. -/
structure Orderly (s : Store) : Prop where
  distinct : (s.attempts.map (·.id)).Nodup
  /-- At most one delete of an event waits, and at most one other attempt. -/
  one : ∀ event deletes, (s.waiting event deletes).length ≤ 1
  deletes : ∀ a ∈ s.attempts, a.operation = .delete → s.Flagged a.event
  /-- What waits for an event that stands is its latest attempt. -/
  newest : ∀ a ∈ s.attempts, a.isPending = true → ¬ s.Flagged a.event →
    Attempt.latest? (s.history a.event) = some a
  /-- Beside a create that waits there are only creates that met a transient failure. -/
  alone : ∀ a ∈ s.attempts, a.isPending = true → a.operation = .create →
    ∀ b ∈ s.attempts, b.event = a.event → b ≠ a → b.operation = .create ∧ b.isTransient = true

/-- A call carries an update or a delete only for an event with a create, and only when the Planner
has answered every create of it. -/
def InTurn (m : Moment) : Prop :=
  ∀ a ∈ m.sent, a.operation ≠ .create →
    (∃ b ∈ m.store.attempts, b.event = a.event ∧ b.operation = .create) ∧
      ∀ b ∈ m.store.attempts, b.event = a.event → b.operation = .create →
        b.isPending = false ∧ b.call.isSome = true

namespace Disciplined
variable {s : Store}

theorem orderly (h : Disciplined s.Flagged s.attempts) : Orderly s where
  distinct := h.distinct
  one event deletes := by
    have own : (s.waiting event deletes).Nodup := (Store.nodup_history h.distinct event).of_map.filter _
    have waits : ∀ a ∈ s.waiting event deletes, a ∈ s.attempts ∧ a.event = event ∧
        a.isPending = true ∧ (a.operation == .delete) = deletes := by
      intro a mem
      obtain ⟨mem, waits⟩ := List.mem_filter.1 mem
      obtain ⟨here, same⟩ := Store.mem_history.1 mem
      obtain ⟨pending, op⟩ := Bool.and_eq_true_iff.1 waits
      exact ⟨here, same, pending, by simpa using op⟩
    apply Attempt.length_le_one_of_nodup own
    intro a ha b hb
    obtain ⟨mem_a, event_a, open_a, op_a⟩ := waits a ha
    obtain ⟨mem_b, event_b, open_b, op_b⟩ := waits b hb
    have both : (a.operation == .delete) = true ↔ (b.operation == .delete) = true := by
      rw [op_a, op_b]
    rw [beq_iff_eq, beq_iff_eq] at both
    exact h.one a mem_a b mem_b open_a open_b (event_a.trans event_b.symm) both
  deletes := h.deletes
  newest a mem waits stands := by
    refine (Attempt.latest?_eq_some_iff (Store.nodup_history h.distinct _)).2 ⟨?_, fun b hb => ?_⟩
    · exact Store.mem_history.2 ⟨mem, rfl⟩
    · obtain ⟨mem_b, same⟩ := Store.mem_history.1 hb
      exact h.newest a mem waits stands b mem_b same
  alone a mem waits create b mem_b same other :=
    (h.alone a mem waits create b mem_b same).resolve_left other

theorem At.inTurn {m : Moment} (at_m : At m) : InTurn m := by
  intro a sent no_create
  obtain ⟨h, waits⟩ := at_m
  obtain ⟨mem, pending⟩ := waits a sent
  refine ⟨h.begun a mem, fun b mem_b same create => ?_⟩
  have closed : b.isPending = false := by
    by_contra open_b
    rcases h.alone b mem_b (by simpa using open_b) create a mem same.symm with rfl | ⟨op, -⟩
    · exact no_create create
    · exact no_create op
  refine ⟨closed, ?_⟩
  by_contra none
  have withdrawn := (h.withdrawn b mem_b create closed (by simpa using none)).2 a mem same.symm
  exact no_create withdrawn.1

end Disciplined

/-- The queue is in order after any operations, and at every moment of them; updates and deletes are
sent in turn. -/
theorem orderly_history {s₀ s : Store} {episodes : List Episode} (history : History s₀ episodes s)
    (empty : s₀.attempts = []) (forward : Forward (momentsOf episodes)) :
    Orderly s ∧ ∀ m ∈ momentsOf episodes, Orderly m.store ∧ InTurn m := by
  obtain ⟨timely, -⟩ := history.timely empty forward
  obtain ⟨h, at_all⟩ := Disciplined.history history empty timely
  exact ⟨h.orderly, fun m mem => ⟨(at_all m mem).rows.orderly, (at_all m mem).inTurn⟩⟩

/-- The lifetimes of two events end with their queue in order. -/
theorem orderly_lifetimes : Orderly (World.standing.perform World.lifetimes).store := by
  obtain ⟨episodes, history, moments⟩ :=
    World.exists_history World.lifetimes World.standing rfl (by decide +kernel)
  have forward : Forward (momentsOf episodes) := by
    rw [moments]
    exact ⟨by decide +kernel, by decide +kernel⟩
  exact (orderly_history history rfl forward).1

end CalendarSync
