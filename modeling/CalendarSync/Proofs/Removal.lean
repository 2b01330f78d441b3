import CalendarSync.Proofs.Deletion
import CalendarSync.Proofs.Orderly

/-!
# How events are removed

With a storage that does not fail, every operation keeps what is known of deletes. What has been
removed without a delete is never sent again.
-/

namespace CalendarSync
set_option autoImplicit false
open Program Simulation Attempt

/-! ## The tables -/

namespace Deletion
variable {flagged : Uuid → Prop} {queued : Uuid → List Attempt} {rows rows' : List Attempt}
  {s f after : Store} {t : List Moment} {id : Uuid}

theorem congr {flag flag' : Prop} {deletes history : List Attempt} (same : flag' ↔ flag)
    (h : Deletion flag deletes history) : Deletion flag' deletes history :=
  propext same ▸ h

/-- A change of one row does not touch the histories of other events. -/
theorem ofEvent_complete_other {a : Attempt} {c : Completion} {event : Uuid}
    (distinct : (rows.map (·.id)).Nodup) (mem : a ∈ rows) (other : a.event ≠ event) :
    ofEvent event (completeAt a.id c rows) = ofEvent event rows := by
  rw [ofEvent_completeAt]
  refine completeAt_eq_self fun d hd same => ?_
  obtain ⟨hd, event⟩ := mem_ofEvent.1 hd
  rw [eq_of_id_eq distinct hd mem same] at event
  exact other event

theorem ofEvent_insert_other {r : Attempt} {event : Uuid} (other : r.event ≠ event) :
    ofEvent event (rows ++ [r]) = ofEvent event rows := by
  simp [ofEvent, List.filter_append, other]

theorem ofEvent_insert {r : Attempt} {event : Uuid} (own : r.event = event) :
    ofEvent event (rows ++ [r]) = ofEvent event rows ++ [r] := by
  simp [ofEvent, List.filter_append, own]

theorem move (distinct : (rows.map (·.id)).Nodup)
    (h : ∀ event, Deletion (flagged event) (queued event) (ofEvent event rows))
    (move : Move False rows rows') :
    ∀ event, Deletion (flagged event) (queued event) (ofEvent event rows') := by
  intro event
  have own : ((ofEvent event rows).map (·.id)).Nodup := nodup_filter distinct _
  cases move with
  | @answer a c mem pending called lasting =>
    by_cases same : a.event = event
    · subst same
      rw [ofEvent_completeAt]
      exact (h a.event).answer own (mem_ofEvent.2 ⟨mem, rfl⟩) pending called
        (lasting.resolve_left id)
    · rw [ofEvent_complete_other distinct mem same]
      exact h event
  | @again a c fresh createdAt mem pending called transient newer =>
    by_cases same : a.event = event
    · subst same
      have own' : (a.again fresh a.operation createdAt).event = a.event := rfl
      rw [ofEvent_insert own', ofEvent_completeAt]
      exact (h a.event).again own (mem_ofEvent.2 ⟨mem, rfl⟩) pending called transient (newer a mem)
    · have other : (a.again fresh a.operation createdAt).event ≠ event := same
      rw [ofEvent_insert_other other, ofEvent_complete_other distinct mem same]
      exact h event

theorem moves (distinct : (rows.map (·.id)).Nodup)
    (h : ∀ event, Deletion (flagged event) (queued event) (ofEvent event rows))
    (moves : Moves False rows rows') :
    ∀ event, Deletion (flagged event) (queued event) (ofEvent event rows') := by
  induction moves with
  | refl => exact h
  | tail moves move ih => exact Deletion.move (Moves.nodup moves distinct) ih move

end Deletion

/-- The delete that an operation queued for an event. -/
def Episode.queued? (event : Uuid) : Episode → Option Attempt
  | ⟨.delete removed, _, .ok answer⟩ => if removed = event then answer else none
  | _ => none

/-- The deletes that were queued for an event, in order. -/
def queuedFor (event : Uuid) (episodes : List Episode) : List Attempt :=
  episodes.filterMap (Episode.queued? event)

/-- What is known of all events of the tables, for which these deletes have been queued. -/
def Simulation.Store.Accounts (s : Store) (queued : Uuid → List Attempt) : Prop :=
  ∀ event, Deletion (s.Flagged event) (queued event) (ofEvent event s.attempts)

namespace Simulation.Store.Accounts
variable {queued queued' : Uuid → List Attempt} {s f after : Store} {t : List Moment} {id : Uuid}

/-- With a storage that does not fail no update is ever superseded. -/
theorem toClose_eq_nil {maxCreates : Nat} {department : String}
    (h : Disciplined s.Flagged s.attempts) (op : Operation) :
    Cycle.toClose (s.pending department) (Batch.build (s.pending department) maxCreates) op = [] := by
  have own : ((s.pending department).map (·.id)).Nodup := nodup_filter h.distinct _
  have one : ∀ a ∈ Batch.waiting (s.pending department) .update,
      ∀ b ∈ Batch.waiting (s.pending department) .update, a.event = b.event → a = b := by
    intro a ha b hb same
    obtain ⟨ha, open_a, op_a⟩ := Batch.mem_waiting.1 ha
    obtain ⟨hb, open_b, op_b⟩ := Batch.mem_waiting.1 hb
    have both : a.operation = .delete ↔ b.operation = .delete := by rw [op_a, op_b]
    exact h.one a (Store.mem_pending.1 ha).1 b (Store.mem_pending.1 hb).1 open_a open_b same both
  apply List.eq_nil_iff_forall_not_mem.2
  intro a mem
  obtain ⟨-, listed, superseded⟩ := Cycle.mem_toClose.1 mem
  exact Batch.superseded_eq_nil own one a listed superseded

theorem cycle {policy : CallPolicy} {maxCreates : Nat} {department : String}
    {result : Except DomainError CycleReport} (accounts : s.Accounts queued)
    (h : Disciplined s.Flagged s.attempts)
    (run : Runs (Cycle.run policy maxCreates department) s t result after)
    (fair : ∀ m ∈ t, m.Timely ∧ m.Stored) : after.Accounts queued := by
  obtain ⟨⟨moves, events⟩, -⟩ := Cycle.moves_run h.distinct (.inr (toClose_eq_nil h)) run
    fun m mem => ⟨(fair m mem).1, .inr (fair m mem).2⟩
  unfold Store.Accounts
  rw [Store.flagged_congr events]
  exact Deletion.moves h.distinct accounts moves

theorem propose {seen : Window} {result : Except DomainError (Option Attempt)}
    (accounts : s.Accounts queued) (proposing : Queue.Proposing id seen s t result after) :
    after.Accounts queued := by
  cases proposing with
  | kept still none => exact accounts
  | @proposed row op createdAt fresh still found stale dated issued =>
    obtain ⟨stands, stale⟩ := Queue.nextOperation?_status stale
    have unflagged : ¬ s.Flagged id := Store.not_flagged_of_event? found stands
    have other : op ≠ .delete := by
      rcases stale with ⟨rfl, -⟩ | ⟨rfl, -⟩
      · exact fun h => by cases h
      · exact fun h => by cases h
    intro event
    by_cases same : id = event
    · subst same
      have own : (Attempt.pending fresh id op seen createdAt).event = id := rfl
      show Deletion (s.Flagged id) (queued id) (ofEvent id (s.attempts ++ _))
      rw [Deletion.ofEvent_insert own]
      exact (accounts id).propose unflagged rfl rfl other
    · show Deletion (s.Flagged event) (queued event) (ofEvent event (s.attempts ++ _))
      rw [Deletion.ofEvent_insert_other same]
      exact accounts event

/-- An event is flagged. -/
theorem flag (accounts : s.Accounts queued) (flags : Queue.Flags id s f)
    (events : after.events = f.events) (own : Deletion True (queued' id) (ofEvent id after.attempts))
    (others : ∀ event, id ≠ event → queued' event = queued event ∧
      ofEvent event after.attempts = ofEvent event s.attempts) : after.Accounts queued' := by
  intro event
  rw [Store.flagged_congr events]
  by_cases same : id = event
  · subst same
    exact own.congr (iff_of_true ((flags.flagged _).2 (.inl rfl)) trivial)
  · obtain ⟨deletes, history⟩ := others event same
    rw [deletes, history]
    refine (accounts event).congr ((flags.flagged event).trans ?_)
    exact or_iff_right fun h => same h.symm

/-- There is no delete of an event that stands. -/
theorem deletes_of_unflagged (h : Disciplined s.Flagged s.attempts) (unflagged : ¬ s.Flagged id) :
    deletes (ofEvent id s.attempts) = [] := by
  apply deletes_eq_nil_iff.2
  intro a mem delete
  obtain ⟨mem, same⟩ := mem_ofEvent.1 mem
  exact unflagged (same ▸ h.deletes a mem delete)

/-- An item is held if the Planner has answered an attempt of its event so. -/
theorem reached_of_isHeld (accounts : s.Accounts queued) (h : Disciplined s.Flagged s.attempts)
    (unflagged : ¬ s.Flagged id) (held : Queue.isHeld (s.history id) = true) :
    ∃ a ∈ ofEvent id s.attempts, a.Reached := by
  obtain ⟨a, mem, effective⟩ := Queue.isHeld_iff.1 held
  have mem : a ∈ ofEvent id s.attempts := mem_ofEvent.2 (Store.mem_history.1 mem)
  have closed : a.isPending = false := (isEffective_iff.1 effective).1
  refine ⟨a, mem, ?_, (accounts id).called unflagged a mem closed, effective⟩
  exact deletes_eq_nil_iff.1 (deletes_of_unflagged h unflagged) a mem

theorem not_reached_of_isHeld (free : Queue.isHeld (s.history id) = false) :
    ∀ a ∈ ofEvent id s.attempts, ¬ a.Reached := by
  intro a mem reached
  have held := Queue.isHeld_iff.2 ⟨a, Store.mem_history.2 (mem_ofEvent.1 mem), reached.effective⟩
  rw [free] at held
  cases held

theorem queued?_eq_none {result : Except DomainError (Option Attempt)}
    (nothing : ∀ a, result ≠ .ok (some a)) (event : Uuid) :
    Episode.queued? event ⟨.delete id, t, result⟩ = none := by
  cases result with
  | error e => rfl
  | ok answer =>
    cases answer with
    | none => exact ite_self _
    | some a => exact absurd rfl (nothing a)

theorem queued?_of_ne {result : Except DomainError (Option Attempt)} {event : Uuid}
    (other : id ≠ event) : Episode.queued? event ⟨.delete id, t, result⟩ = none := by
  cases result with
  | error e => rfl
  | ok answer => exact if_neg other

theorem delete {result : Except DomainError (Option Attempt)} (accounts : s.Accounts queued)
    (h : Disciplined s.Flagged s.attempts) (deleting : Queue.Deleting id s t result after)
    (stored : ∀ m ∈ t, m.Stored) :
    after.Accounts fun event =>
      queued event ++ (Episode.queued? event ⟨.delete id, t, result⟩).toList := by
  have other {event : Uuid} (other : id ≠ event) :
      queued event ++ (Episode.queued? event ⟨.delete id, t, result⟩).toList = queued event := by
    rw [queued?_of_ne other, Option.toList_none, List.append_nil]
  have unchanged (nothing : ∀ a, result ≠ .ok (some a)) (event : Uuid) :
      queued event ++ (Episode.queued? event ⟨.delete id, t, result⟩).toList = queued event := by
    rw [queued?_eq_none nothing, Option.toList_none, List.append_nil]
  cases deleting with
  | kept still none =>
    intro event
    have same := accounts event
    rw [← unchanged none event] at same
    exact same
  | flagged unflagged flags still still' none reason =>
    have empty : s.history id = [] := by
      refine reason.resolve_right ?_
      rintro ⟨m, mem, fault⟩
      exact fault (stored m (List.mem_append_right _ mem))
    have rows : ofEvent id after.attempts = [] := by
      rw [flags.attempts]
      exact oldestFirst_eq_nil_iff.1 empty
    refine accounts.flag flags rfl ?_ fun event ne => ⟨other ne, by rw [flags.attempts]⟩
    rw [unchanged none, (accounts id).none (deletes_of_unflagged h unflagged), rows]
    exact .nil _
  | @proposed f t t' latest createdAt fresh unflagged flags still still' last held dated issued =>
    have event : latest.event = id := (Store.mem_history.1 (latest?_mem last)).2
    have own : (latest.again fresh .delete createdAt).event = id := event
    refine accounts.flag flags rfl ?_ fun event ne => ⟨other ne, ?_⟩
    · have queues : Episode.queued? id ⟨.delete id, t ++ t',
          .ok (some (latest.again fresh .delete createdAt))⟩ =
          some (latest.again fresh .delete createdAt) := if_pos rfl
      rw [queues, Store.attempts_insertAttempt, Deletion.ofEvent_insert own, flags.attempts]
      exact (accounts id).queue (deletes_of_unflagged h unflagged)
        (accounts.reached_of_isHeld h unflagged held) rfl rfl
    · rw [Store.attempts_insertAttempt, Deletion.ofEvent_insert_other (own ▸ ne), flags.attempts]
  | @withdrawn f _ t t' t'' instant result unflagged flags still still' free run =>
    have none : ∀ a : Attempt, (result.map fun _ => none) ≠ .ok (some a) := by
      intro a
      cases result with
      | error e => exact fun h => by cases h
      | ok u => exact fun h => by cases h
    have gone := not_reached_of_isHeld free
    have no_delete := deletes_of_unflagged h unflagged
    obtain ⟨-, ⟨rfl, idle | ⟨m, mem, fault⟩⟩ | ⟨a, mem, event, waits, single, rfl⟩⟩ :=
      h.withdraw unflagged flags run
    · refine accounts.flag flags rfl ?_ fun event ne => ⟨other ne, by rw [flags.attempts]⟩
      rw [unchanged none, (accounts id).none no_delete, flags.attempts]
      refine .retire no_delete gone fun a mem => ?_
      exact idle a (mem_ofEvent.1 mem).1 (mem_ofEvent.1 mem).2
    · exact absurd (stored m (List.mem_append_right _ (List.mem_append_right _ mem))) fault
    · refine accounts.flag flags rfl ?_ fun event' ne => ⟨other ne, ?_⟩
      · have own : ((ofEvent id s.attempts).map (·.id)).Nodup := nodup_filter h.distinct _
        rw [unchanged none, (accounts id).none no_delete, ofEvent_completeAt]
        refine .withdraw own no_delete gone (mem_ofEvent.2 ⟨mem, event⟩) rfl fun b hb waits => ?_
        exact single b (mem_ofEvent.1 hb).1 (mem_ofEvent.1 hb).2 waits
      · exact Deletion.ofEvent_complete_other h.distinct mem (event ▸ ne)

/-- Every operation keeps the accounts. -/
theorem command (c : Command) {result : Except DomainError c.Result} (accounts : s.Accounts queued)
    (h : Disciplined s.Flagged s.attempts) (run : Runs c.program s t result after)
    (fair : ∀ m ∈ t, m.Timely ∧ m.Stored) :
    after.Accounts fun event => queued event ++ (Episode.queued? event ⟨c, t, result⟩).toList := by
  cases c with
  | propose event seen =>
    have same : (fun event' => queued event' ++
        (Episode.queued? event' ⟨.propose event seen, t, result⟩).toList) = queued :=
      funext fun _ => List.append_nil _
    rw [same]
    exact accounts.propose (Queue.runs_proposeIfStale run)
  | delete event => exact accounts.delete h (Queue.runs_delete run) fun m mem => (fair m mem).2
  | cycle policy maxCreates department =>
    have same : (fun event' => queued event' ++
        (Episode.queued? event' ⟨.cycle policy maxCreates department, t, result⟩).toList) = queued :=
      funext fun _ => List.append_nil _
    rw [same]
    exact accounts.cycle h run fair

theorem history {s₀ : Store} {episodes : List Episode} (history : History s₀ episodes s)
    (empty : s₀.attempts = []) (fair : ∀ m ∈ momentsOf episodes, m.Timely ∧ m.Stored) :
    s.Accounts fun event => queuedFor event episodes := by
  induction history with
  | start =>
    intro event
    rw [empty]
    exact .nil _
  | @next episodes s after command t result past run ih =>
    rw [momentsOf_append, momentsOf_singleton, List.forall_mem_append] at fair
    obtain ⟨h, -⟩ := Disciplined.history past empty fun m mem => (fair.1 m mem).1
    have accounts := (ih fair.1).command command h run fair.2
    intro event
    have split : queuedFor event (episodes ++ [⟨command, t, result⟩]) = queuedFor event episodes ++
        (Episode.queued? event ⟨command, t, result⟩).toList := by
      rw [queuedFor, queuedFor, List.filterMap_append, filterMap_cons_toList, List.filterMap_nil,
        List.append_nil]
    show Deletion (after.Flagged event) (queuedFor event (episodes ++ _)) _
    rw [split]
    exact accounts event

end Simulation.Store.Accounts
end CalendarSync
