import CalendarSync.Proofs.Erasing
import CalendarSync.Proofs.Queue
import CalendarSync.Proofs.World

/-!
# Deleting once more

A delete flags its event before it does anything about the attempts. A delete that has failed can be
repeated as long as the event has not been flagged; after that, repeating it does nothing.
-/

namespace CalendarSync
set_option autoImplicit false
open Program Simulation

namespace Attempt
variable {rows : List Attempt} {c : Completion} {id : Uuid} {ids : List Uuid}

/-- Records the outcome of every attempt with one of the identifiers. -/
def completeAll (ids : List Uuid) (c : Completion) (rows : List Attempt) : List Attempt :=
  rows.map fun a => if a.id ∈ ids then a.complete c else a

theorem completeAll_nil : completeAll [] c rows = rows := by
  simp [completeAll]

theorem completeAll_cons :
    completeAll (id :: ids) c rows = completeAll ids c (completeAt id c rows) := by
  rw [completeAll, completeAll, completeAt, List.map_map]
  refine List.map_congr_left fun a _ => ?_
  by_cases same : a.id = id <;> by_cases listed : a.id ∈ ids <;> simp [same, listed]

end Attempt

namespace Queue
variable {s middle after : Store} {t t' : List Moment} {id : Uuid} {row : Event} {c : Completion}

/-! ## One delete -/

/-- The tables after an event has been deleted undisturbed, with the identifier and the instant that
are read then: the event is flagged, and either a delete with the window of the latest attempt is
added, or what waits for the event is withdrawn. -/
def erase (s : Store) (row : Event) (fresh : Uuid) (instant : Timestamp) : Store :=
  { s.saveEvent row.markDeleted with
    attempts :=
      if isHeld (s.history row.id) then
        s.attempts ++ (Attempt.latest? (s.history row.id)).toList.map (·.again fresh .delete instant)
      else
        s.attempts.map fun a =>
          if a.event = row.id ∧ a.isPending = true then a.complete (.withdrawn instant) else a }

/-- Some run of a delete, with a storage that does not fail, leads from these tables to those. -/
def Undisturbed (id : Uuid) (s after : Store) : Prop :=
  ∃ t result, Runs (delete id) s t result after ∧ ∀ m ∈ t, m.Stored

/-- Withdrawing attempts of the table closes them all, or it leaves one of them waiting. -/
theorem Withdrawing.effect {l : List Attempt} {result : Except DomainError Unit}
    (withdrawing : Withdrawing c l t result) (linked : Linked s t after)
    (distinct : (s.attempts.map (·.id)).Nodup) (own : (l.map (·.id)).Nodup)
    (sub : ∀ a ∈ l, a ∈ s.attempts) :
    (result = .ok () →
      after = { s with attempts := Attempt.completeAll (l.map (·.id)) c s.attempts }) ∧
      ∀ e, result = .error e → ∃ a ∈ l, a ∈ after.attempts := by
  induction withdrawing generalizing s with
  | done =>
    obtain rfl := Linked.nil_iff.1 linked
    exact ⟨fun _ => by rw [List.map_nil, Attempt.completeAll_nil], fun e h => by cases h⟩
  | failed s' a l e =>
    obtain ⟨-, middle, answered, rest⟩ := Linked.cons_iff.1 linked
    obtain rfl := Linked.nil_iff.1 rest
    obtain rfl : after = s := answered
    exact ⟨fun h => (by cases h), fun _ _ => ⟨a, List.mem_cons_self, sub a List.mem_cons_self⟩⟩
  | @closed s' a l t result withdrawing ih =>
    obtain ⟨-, middle, answered, rest⟩ := Linked.cons_iff.1 linked
    rw [List.forall_mem_cons] at sub
    rw [List.map_cons, List.nodup_cons] at own
    have wrote : s.completeAttempt a.id c = .ok middle := answered
    rw [Store.completeAttempt_eq distinct (List.mem_map_of_mem sub.1)] at wrote
    obtain rfl := Except.ok.inj wrote
    have others : ∀ b ∈ l, b ∈ Attempt.completeAt a.id c s.attempts := fun b mem =>
      (Attempt.mem_completeAt_iff distinct sub.1).2
        (.inr ⟨sub.2 b mem, fun same => own.1 (same ▸ List.mem_map_of_mem mem)⟩)
    obtain ⟨done, failed⟩ := ih rest (by simpa using distinct) own.2 others
    refine ⟨fun ok => ?_, fun e error => ?_⟩
    · rw [done ok, List.map_cons, Attempt.completeAll_cons]
    · obtain ⟨b, mem, waits⟩ := failed e error
      exact ⟨b, List.mem_cons_of_mem _ mem, waits⟩

/-- What waits for an event is closed by its identifiers. -/
theorem completeAll_waiting (distinct : (s.attempts.map (·.id)).Nodup) :
    Attempt.completeAll (((s.history id).filter (·.isPending)).map (·.id)) c s.attempts =
      s.attempts.map fun a => if a.event = id ∧ a.isPending = true then a.complete c else a := by
  refine List.map_congr_left fun a mem => ?_
  have listed : a.id ∈ ((s.history id).filter (·.isPending)).map (·.id) ↔
      a.event = id ∧ a.isPending = true := by
    constructor
    · intro listed
      obtain ⟨b, waits, same⟩ := List.mem_map.1 listed
      obtain ⟨here, event, pending⟩ := Store.mem_waiting_history.1 waits
      obtain rfl := Attempt.eq_of_id_eq distinct here mem same
      exact ⟨event, pending⟩
    · rintro ⟨event, pending⟩
      exact List.mem_map_of_mem (Store.mem_waiting_history.2 ⟨mem, event, pending⟩)
  simp only [listed]

/-- An event that is read and its history are those of the tables. -/
theorem linked_read {s₁ s₂ : Store} {found : Event} {history : List Attempt}
    (linked : Linked s (⟨s₁, .getEvent id, .ok (some found)⟩ ::
      ⟨s₂, .attemptsOf id, .ok history⟩ :: t) after) :
    s.event? id = some found ∧ history = s.history id ∧ Linked s t after := by
  obtain ⟨-, _, ⟨rfl, known⟩, rest⟩ := Linked.cons_iff.1 linked
  obtain ⟨-, _, ⟨rfl, listed⟩, last⟩ := Linked.cons_iff.1 rest
  exact ⟨(known _ rfl).symm, listed _ rfl, last⟩

/-- The event has been flagged. -/
theorem flagged_saveEvent (found : s.event? id = some row) (rows : List Attempt) :
    Store.Flagged { s.saveEvent row.markDeleted with attempts := rows } id := by
  have flags := flags_saveEvent found row.attempts
  exact (flags.flagged id).2 (.inl rfl)

/-- How a delete of an event that stands can end: before anything has changed, with everything done,
or in between, with the event flagged. -/
inductive Ending (s : Store) (row : Event) : Except DomainError (Option Attempt) → Store → Prop where
  | untouched (e : DomainError) : Ending s row (.error e) s
  | complete (value : Option Attempt) (fresh : Uuid) (instant : Timestamp) :
      Ending s row (.ok value) (erase s row fresh instant)
  | halfway (e : DomainError) {after : Store} (flagged : after.Flagged row.id)
      (short : ∀ fresh instant, after ≠ erase s row fresh instant) : Ending s row (.error e) after

theorem erase_of_isHeld {latest : Attempt} (held : isHeld (s.history row.id) = true)
    (last : Attempt.latest? (s.history row.id) = some latest) (fresh : Uuid) (instant : Timestamp) :
    erase s row fresh instant =
      (s.saveEvent row.markDeleted).insertAttempt (latest.again fresh .delete instant) := by
  rw [erase, if_pos held, last, Store.insertAttempt, Store.attempts_saveEvent]
  rfl

theorem erase_of_not_isHeld (free : isHeld (s.history row.id) = false) (fresh : Uuid)
    (instant : Timestamp) :
    erase s row fresh instant = { s.saveEvent row.markDeleted with
      attempts := s.attempts.map fun a =>
        if a.event = row.id ∧ a.isPending = true then a.complete (.withdrawn instant) else a } := by
  rw [erase, if_neg (by simp [free])]

/-- Nothing waits for an event that was not held when it was erased. -/
theorem isPending_erase {fresh : Uuid} {instant : Timestamp} {a : Attempt}
    (free : isHeld (s.history row.id) = false) (mem : a ∈ (erase s row fresh instant).attempts)
    (event : a.event = row.id) : a.isPending = false := by
  rw [erase_of_not_isHeld free] at mem
  obtain ⟨b, -, rfl⟩ := List.mem_map.1 mem
  split
  · rfl
  · rename_i other
    rw [if_neg other] at event
    simpa [event] using other

/-- An event without attempts is erased by its flag. -/
theorem erase_of_empty (empty : s.history row.id = []) (fresh : Uuid) (instant : Timestamp) :
    erase s row fresh instant = s.saveEvent row.markDeleted := by
  have free : isHeld (s.history row.id) = false := by
    rw [empty]
    rfl
  have unmoved : (s.attempts.map fun a => if a.event = row.id ∧ a.isPending = true then
      a.complete (.withdrawn instant) else a) = s.attempts := by
    refine (List.map_congr_left fun a mem => if_neg ?_).trans (List.map_id _)
    rintro ⟨event, -⟩
    have listed := Store.mem_history.2 ⟨mem, event⟩
    rw [empty] at listed
    cases listed
  rw [erase_of_not_isHeld free, unmoved, ← Store.attempts_saveEvent s row.markDeleted]

/-- The delete that is to be added is in the tables, or it is missing. -/
theorem ending_add {latest : Attempt} {fresh : Uuid} {instant : Timestamp}
    {answer : Except DomainError Unit} (found : s.event? row.id = some row)
    (last : Attempt.latest? (s.history row.id) = some latest)
    (held : isHeld (s.history row.id) = true)
    (wrote : (s.saveEvent row.markDeleted).Writes
      (.ok ((s.saveEvent row.markDeleted).insertAttempt (latest.again fresh .delete instant)))
      answer after) :
    Ending s row (answer.map fun _ => some (latest.again fresh .delete instant)) after := by
  cases answer with
  | error e =>
    obtain rfl : after = s.saveEvent row.markDeleted := wrote
    refine .halfway e (flagged_saveEvent found _) fun fresh instant same => ?_
    have rows := congrArg (fun s => s.attempts.length) same
    rw [erase_of_isHeld held last] at rows
    simp at rows
  | ok u =>
    obtain rfl := Except.ok.inj wrote
    rw [← erase_of_isHeld held last]
    exact .complete _ fresh instant

/-- What waits is withdrawn, or some of it still waits. -/
theorem ending_withdraw {instant : Timestamp} {result : Except DomainError Unit}
    (distinct : (s.attempts.map (·.id)).Nodup) (found : s.event? row.id = some row)
    (free : isHeld (s.history row.id) = false)
    (withdrawing : Withdrawing (.withdrawn instant) ((s.history row.id).filter (·.isPending)) t
      result)
    (linked : Linked (s.saveEvent row.markDeleted) t after) :
    Ending s row (result.map fun _ => none) after := by
  have rows : (s.saveEvent row.markDeleted).attempts = s.attempts := Store.attempts_saveEvent _ _
  have waiting : ∀ a ∈ (s.history row.id).filter (·.isPending), a ∈ s.attempts ∧
      a.event = row.id ∧ a.isPending = true := fun a => Store.mem_waiting_history.1
  obtain ⟨done, failed⟩ := withdrawing.effect linked (rows ▸ distinct)
    (Attempt.nodup_filter (Store.nodup_history distinct row.id) _)
    (fun a mem => rows ▸ (waiting a mem).1)
  cases result with
  | error e =>
    obtain ⟨a, listed, mem⟩ := failed e rfl
    obtain ⟨-, event, pending⟩ := waiting a listed
    have events : after.events = (s.saveEvent row.markDeleted).events :=
      linked.agree .events fun m mem => by
        obtain ⟨id, same⟩ := withdrawing.completes m mem
        simp [same, Request.table?]
    refine .halfway e ?_ fun fresh instant same => ?_
    · rw [Store.flagged_congr events]
      exact flagged_saveEvent found _
    · rw [isPending_erase free (same ▸ mem) event] at pending
      cases pending
  | ok u =>
    have same : after = erase s row row.id instant := by
      rw [erase_of_not_isHeld free, ← completeAll_waiting distinct, done rfl, rows]
    rw [same]
    exact .complete none row.id instant

theorem Erasing.ending {result : Except DomainError (Option Attempt)}
    (erasing : Erasing { row with attempts := s.history row.id } t result)
    (linked : Linked s t after) (distinct : (s.attempts.map (·.id)).Nodup)
    (found : s.event? row.id = some row) (stands : row.isDeleted = false) :
    Ending s row result after := by
  cases erasing with
  | gone deleted =>
    have deleted : row.isDeleted = true := deleted
    rw [stands] at deleted
    cases deleted
  | unsaved _ s' e =>
    obtain ⟨-, middle, answered, rest⟩ := Linked.cons_iff.1 linked
    obtain rfl := Linked.nil_iff.1 rest
    obtain rfl : after = s := answered
    exact .untouched e
  | blank _ s' empty =>
    obtain ⟨-, middle, saved, rest⟩ := Linked.cons_iff.1 linked
    obtain rfl := Linked.nil_iff.1 rest
    obtain rfl : s.saveEvent row.markDeleted = after := Except.ok.inj saved
    rw [← erase_of_empty empty row.id row.createdAt]
    exact .complete none row.id row.createdAt
  | @queued _ s' s₁ s₂ s₃ latest last held createdAt fresh answer =>
    obtain ⟨-, middle, saved, rest⟩ := Linked.cons_iff.1 linked
    obtain rfl : s.saveEvent row.markDeleted = middle := Except.ok.inj saved
    obtain ⟨-, _, rfl, rest⟩ := Linked.cons_iff.1 rest
    obtain ⟨-, _, rfl, rest⟩ := Linked.cons_iff.1 rest
    obtain ⟨-, _, wrote, rest⟩ := Linked.cons_iff.1 rest
    obtain rfl := Linked.nil_iff.1 rest
    exact ending_add found last held wrote
  | @withdrawn _ s' s₁ latest last free instant t result withdrawing =>
    obtain ⟨-, middle, saved, rest⟩ := Linked.cons_iff.1 linked
    obtain rfl : s.saveEvent row.markDeleted = middle := Except.ok.inj saved
    obtain ⟨-, _, rfl, rest⟩ := Linked.cons_iff.1 rest
    exact ending_withdraw distinct found free withdrawing rest

/-- How a delete of an event that stands can end, whatever requests to the storage fail. -/
theorem ending_delete (distinct : (s.attempts.map (·.id)).Nodup) (found : s.event? id = some row)
    (stands : row.isDeleted = false) {result : Except DomainError (Option Attempt)}
    (run : Runs (delete id) s t result after) : Ending s row result after := by
  obtain ⟨path, linked⟩ := runs_iff.1 run
  obtain rfl := Store.id_of_event? found
  cases path_delete path with
  | unread reads reason =>
    rw [linked.eq_of_reads reads]
    exact .untouched _
  | read s₁ s₂ row' history erasing =>
    obtain ⟨found', rfl, rest⟩ := linked_read linked
    obtain rfl := Option.some.inj (found.symm.trans found')
    exact erasing.ending rest distinct found stands

/-- With a storage that does not fail, the delete of an event that stands is carried through. -/
theorem erase_of_undisturbed (distinct : (s.attempts.map (·.id)).Nodup)
    (found : s.event? id = some row) (stands : row.isDeleted = false)
    (undisturbed : Undisturbed id s after) : ∃ fresh instant, after = erase s row fresh instant := by
  obtain ⟨t, result, run, stored⟩ := undisturbed
  cases result with
  | ok value =>
    cases ending_delete distinct found stands run with
    | complete value fresh instant => exact ⟨fresh, instant, rfl⟩
  | error e =>
    obtain ⟨path, linked⟩ := runs_iff.1 run
    exfalso
    cases path_delete path with
    | unread reads reason =>
      obtain ⟨m, mem, fault⟩ | ⟨s', rfl⟩ := reason
      · exact fault (stored m mem)
      · obtain ⟨-, _, ⟨-, known⟩, -⟩ := Linked.cons_iff.1 linked
        rw [found] at known
        cases known none rfl
    | read s₁ s₂ row' history erasing =>
      obtain ⟨m, mem, fault⟩ := erasing.exists_fault
      exact fault (stored m (List.mem_cons_of_mem _ (List.mem_cons_of_mem _ mem)))

/-- A flagged event is not deleted again. -/
theorem eq_of_flagged {result : Except DomainError (Option Attempt)} (flagged : s.Flagged id)
    (run : Runs (delete id) s t result after) : after = s := by
  cases runs_delete run with
  | kept still none => rfl
  | flagged unflagged => exact absurd flagged unflagged
  | proposed unflagged => exact absurd flagged unflagged
  | withdrawn unflagged => exact absurd flagged unflagged

/-- A delete that has failed is made good by another one exactly as long as its event has not been
flagged. Then the second delete is like the only one, and otherwise it comes too late: the delete is
missing, or something still waits for the event. -/
theorem undisturbed_retry_iff (distinct : (s.attempts.map (·.id)).Nodup)
    (found : s.event? id = some row) (stands : row.isDeleted = false) {e : DomainError}
    (failed : Runs (delete id) s t (.error e) middle)
    {result : Except DomainError (Option Attempt)} (again : Runs (delete id) middle t' result after)
    (stored : ∀ m ∈ t', m.Stored) :
    (Undisturbed id s after ↔ ¬ middle.Flagged id) ∧
      ((∃ fresh instant, after = erase s row fresh instant) ↔ ¬ middle.Flagged id) := by
  have early (unflagged : ¬ middle.Flagged id) : Undisturbed id s after := by
    cases ending_delete distinct found stands failed with
    | untouched e => exact ⟨t', result, again, stored⟩
    | halfway e flagged short => exact absurd (Store.id_of_event? found ▸ flagged) unflagged
  have late (erased : ∃ fresh instant, after = erase s row fresh instant) :
      ¬ middle.Flagged id := by
    intro flagged
    obtain ⟨fresh, instant, same⟩ := erased
    obtain rfl := eq_of_flagged flagged again
    cases ending_delete distinct found stands failed with
    | untouched e => exact Store.not_flagged_of_event? found stands flagged
    | halfway e _ short => exact short fresh instant same
  have erased (undisturbed : Undisturbed id s after) :
      ∃ fresh instant, after = erase s row fresh instant :=
    erase_of_undisturbed distinct found stands undisturbed
  exact ⟨⟨fun undisturbed => late (erased undisturbed), early⟩,
    ⟨late, fun unflagged => erased (early unflagged)⟩⟩

end Queue

/-! ## A storage that fails once -/

namespace Simulation.World

/-- An event whose item the Planner holds, and storage that fails at the first access of a kind. -/
def jammed (access : Access) : World :=
  let created := atSecond 1000
  let create : Attempt := .pending (.ofNat 11) (.ofNat 1) .create ⟨created, created⟩ created
  let answered := create.complete (.succeeded (atSecond 1500) (some (.ofNat 31)))
  Session.world (atSecond 2000)
    (.ofEvents [⟨.ofNat 1, "rooms", "item", false, created, [answered]⟩] [])
    ⟨fun _ => [], [], []⟩ [(access, some ⟨.database, "disk full"⟩)] false

/-- The world after the event has been deleted once. -/
def jammedOnce (access : Access) : World :=
  ((jammed access).run (Queue.delete (.ofNat 1))).1

/-- The world after the event has been deleted twice. -/
def jammedTwice (access : Access) : World :=
  ((jammedOnce access).run (Queue.delete (.ofNat 1))).1

end Simulation.World

namespace Queue
open World

/-- The first delete fails and the second one meets no failure. -/
theorem runs_jammed (access : Access)
    (failed : result? ((jammed access).run (delete (.ofNat 1))) =
      some (.error ⟨.database, "disk full"⟩))
    (finished : isFinished ((jammedOnce access).run (delete (.ofNat 1))) = true)
    (stored : ∀ m ∈ (jammedOnce access).moments (delete (.ofNat 1)), m.Stored) :
    (∃ t, Runs (delete (.ofNat 1)) (jammed access).store t (.error ⟨.database, "disk full"⟩)
      (jammedOnce access).store) ∧
    ∃ t result, Runs (delete (.ofNat 1)) (jammedOnce access).store t result
      (jammedTwice access).store ∧ ∀ m ∈ t, m.Stored := by
  obtain ⟨first, tight⟩ := runs_of_result? _ _ rfl failed
  obtain ⟨result, second, -⟩ := exists_runs (jammedOnce access) _ tight finished
  exact ⟨⟨_, first⟩, _, result, second, stored⟩

/-- If the flag could not be stored the delete can be repeated, and if the attempt could not be added
it cannot. -/
theorem undisturbed_retry_jammed :
    Undisturbed (.ofNat 1) (jammed .saveEvent).store (jammedTwice .saveEvent).store ∧
      ¬ Undisturbed (.ofNat 1) (jammed .insertAttempt).store (jammedTwice .insertAttempt).store := by
  let row := (jammed .saveEvent).store.events[0]
  have found (access : Access) : (jammed access).store.event? (.ofNat 1) = some row := by
    change (jammed .saveEvent).store.event? (.ofNat 1) = some row
    decide +kernel
  constructor
  · obtain ⟨⟨_, failed⟩, _, _, again, stored⟩ := runs_jammed .saveEvent (by decide +kernel)
      (by decide +kernel) (by decide +kernel)
    refine (undisturbed_retry_iff ?_ (found _) rfl failed again stored).1.2 ?_ <;>
      decide +kernel
  · obtain ⟨⟨_, failed⟩, _, _, again, stored⟩ := runs_jammed .insertAttempt (by decide +kernel)
      (by decide +kernel) (by decide +kernel)
    refine mt (undisturbed_retry_iff ?_ (found _) rfl failed again stored).1.1 ?_ <;>
      decide +kernel

/-- So repeating a failed delete does not always make it good. -/
theorem exists_failed_retry : ¬ ∀ (id : Uuid) (s middle after : Store) (row : Event)
    (t t' : List Moment) (e : DomainError) (result : Except DomainError (Option Attempt)),
      (s.attempts.map (·.id)).Nodup → s.event? id = some row → row.isDeleted = false →
        Runs (delete id) s t (.error e) middle → Runs (delete id) middle t' result after →
          (∀ m ∈ t', m.Stored) → Undisturbed id s after := by
  intro claim
  let row := (jammed .insertAttempt).store.events[0]
  let s := (jammed .insertAttempt).store
  obtain ⟨⟨_, failed⟩, _, _, again, stored⟩ := runs_jammed .insertAttempt (by decide +kernel)
    (by decide +kernel) (by decide +kernel)
  have distinct : (s.attempts.map (·.id)).Nodup := by decide +kernel
  have found : s.event? (.ofNat 1) = some row := by decide +kernel
  have undisturbed := claim _ _ _ _ row _ _ _ _ distinct found rfl failed again stored
  obtain ⟨fresh, instant, same⟩ := erase_of_undisturbed distinct found rfl undisturbed
  -- The one attempt of the event would have been joined by a delete.
  have held : isHeld (s.history row.id) = true := by decide +kernel
  have last : Attempt.latest? (s.history row.id) = some s.attempts[0] := by decide +kernel
  have rows := congrArg (fun s => s.attempts.length) same
  rw [erase_of_isHeld held last, Store.attempts_insertAttempt, List.length_append,
    Store.attempts_saveEvent, List.length_singleton] at rows
  revert rows
  decide +kernel

end Queue
end CalendarSync
