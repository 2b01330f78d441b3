import CalendarSync.Proofs.Filing
import CalendarSync.Proofs.Growth

/-!
# Outcomes and their records

Attempts and the records of calls are written by different parts of a cycle. An outcome is valid if
it names the record of an answered call of its operation, or if it withdraws an attempt of a flagged
event. Every part of a cycle leaves attempts with valid outcomes only; what carries this to the
superseded updates is that the outcomes noted on the way are valid as well.
-/

namespace CalendarSync
set_option autoImplicit false
open Program Simulation

/-! ## Outcomes that are backed -/

/-- The record is of an answered call of the operation, which had ended by an instant. -/
structure Call.Backs (record : Call) (op : Operation) (instant : Timestamp) : Prop where
  operation : record.operation = op
  success : record.success = some true
  ended : ∃ ended, record.endedAt = some ended ∧ record.startedAt ≤ ended ∧ ended ≤ instant

/-- The outcome names a record that backs it, or it withdraws an attempt of an event that has been
flagged. -/
def Completion.Valid (s : Store) (event : Uuid) (op : Operation) (c : Completion) : Prop :=
  (s.Flagged event ∧ ∃ instant, c = .withdrawn instant) ∨
    ∃ record ∈ s.calls, c.call = some record.id ∧ record.Backs op c.syncedAt

/-- If the attempt does not wait, its outcome is valid. -/
def Attempt.Vouched (s : Store) (a : Attempt) : Prop :=
  a.isPending = false → ∃ c, a.complete c = a ∧ c.Valid s a.event a.operation

variable {s after : Store} {t : List Moment} {a r : Attempt} {c : Completion} {id : Uuid}

/-- More records and more flagged events. -/
theorem Completion.Valid.mono {event : Uuid} {op : Operation} (valid : c.Valid s event op)
    (calls : s.calls ⊆ after.calls) (flagged : ∀ event, s.Flagged event → after.Flagged event) :
    c.Valid after event op := by
  obtain ⟨flag, withdrawn⟩ | ⟨record, mem, named, backs⟩ := valid
  · exact .inl ⟨flagged event flag, withdrawn⟩
  · exact .inr ⟨record, calls mem, named, backs⟩

theorem Attempt.Vouched.mono (vouched : a.Vouched s) (calls : s.calls ⊆ after.calls)
    (flagged : ∀ event, s.Flagged event → after.Flagged event) : a.Vouched after := by
  intro closed
  obtain ⟨c, same, valid⟩ := vouched closed
  exact ⟨c, same, valid.mono calls flagged⟩

theorem Attempt.vouched_of_isPending (pending : a.isPending = true) : a.Vouched s := by
  intro closed
  rw [pending] at closed
  cases closed

/-- All attempts are vouched for, rows keep the event and the operation that a queue has for their
identifiers, and the outcomes noted so far are valid. -/
structure Vouching (queue : List Attempt) (noted : List (Uuid × Completion)) (s : Store) :
    Prop where
  rows : ∀ a ∈ s.attempts, a.Vouched s
  names : ∀ a ∈ queue, ∀ row ∈ s.attempts, row.id = a.id →
    row.event = a.event ∧ row.operation = a.operation
  noted : ∀ p ∈ noted, ∀ a ∈ queue, a.id = p.1 → p.2.Valid s a.event a.operation

namespace Vouching
variable {queue : List Attempt} {noted : List (Uuid × Completion)}

/-- With identifiers of their own, the attempts of a queue are the rows with their identifiers. -/
theorem initial (rows : ∀ a ∈ s.attempts, a.Vouched s) (distinct : (s.attempts.map (·.id)).Nodup)
    (sub : queue ⊆ s.attempts) : Vouching queue [] s := by
  refine ⟨rows, fun a listed row mem same => ?_, by simp⟩
  rw [Attempt.eq_of_id_eq distinct mem (sub listed) same]
  exact ⟨rfl, rfl⟩

/-- More records and more flagged events. -/
theorem mono (vouching : Vouching queue noted s) (same : after.attempts = s.attempts)
    (calls : s.calls ⊆ after.calls) (flagged : ∀ event, s.Flagged event → after.Flagged event) :
    Vouching queue noted after := by
  constructor
  · rw [same]
    exact fun a mem => (vouching.rows a mem).mono calls flagged
  · rw [same]
    exact vouching.names
  · exact fun p mem a listed own => (vouching.noted p mem a listed own).mono calls flagged

/-- A record is filed. -/
theorem file (vouching : Vouching queue noted s) (record : Call) :
    Vouching queue noted { s with calls := s.calls ++ [record] } :=
  vouching.mono rfl (List.subset_append_left _ _) fun _ flag => flag

/-- An attempt of the queue gets a valid outcome. -/
theorem complete (vouching : Vouching queue noted s) (listed : a ∈ queue)
    (valid : c.Valid s a.event a.operation) (wrote : s.completeAttempt a.id c = .ok after) :
    Vouching queue noted after := by
  have answered : s.Answers (.completeAttempt a.id c) (.ok ()) after := wrote
  have calls : after.calls = s.calls := answered.agree .calls (by simp [Request.table?])
  have events : after.events = s.events := Store.events_completeAttempt wrote
  have flagged : ∀ event, s.Flagged event → after.Flagged event := by
    rw [Store.flagged_congr events]
    exact fun _ flag => flag
  have still : s.calls ⊆ after.calls := by rw [calls]; exact List.Subset.refl _
  obtain ⟨before, row, rest, split, -, own, changed⟩ := Store.attempts_of_completeAttempt wrote
  have here : row ∈ s.attempts := split ▸ List.mem_append_right _ List.mem_cons_self
  obtain ⟨event, op⟩ := vouching.names a listed row here own
  have kept : ∀ b ∈ after.attempts, b = row.complete c ∨ b ∈ s.attempts := by
    intro b mem
    rw [changed, List.mem_append, List.mem_cons] at mem
    rw [split, List.mem_append, List.mem_cons]
    tauto
  constructor
  · intro b mem
    obtain rfl | old := kept b mem
    · intro _
      exact ⟨c, rfl, (event ▸ op ▸ valid : c.Valid s row.event row.operation).mono still flagged⟩
    · exact (vouching.rows b old).mono still flagged
  · intro d hd b mem same
    obtain rfl | old := kept b mem
    · exact vouching.names d hd row here same
    · exact vouching.names d hd b old same
  · exact fun p mem b listed own => (vouching.noted p mem b listed own).mono still flagged

/-- A new attempt is added. -/
theorem insert (vouching : Vouching queue noted s) (pending : r.isPending = true)
    (new : ∀ a ∈ queue, a.id ≠ r.id) : Vouching queue noted (s.insertAttempt r) := by
  have same : (s.insertAttempt r).calls = s.calls := rfl
  constructor
  · refine List.forall_mem_append.2 ⟨fun a mem => ?_, List.forall_mem_singleton.2 ?_⟩
    · exact (vouching.rows a mem).mono (List.Subset.refl _) fun _ flag => flag
    · exact Attempt.vouched_of_isPending pending
  · intro a listed
    refine List.forall_mem_append.2 ⟨vouching.names a listed, List.forall_mem_singleton.2 ?_⟩
    exact fun own => absurd own.symm (new a listed)
  · exact vouching.noted

/-- An outcome is noted. -/
theorem note (vouching : Vouching queue noted s)
    (valid : ∀ a ∈ queue, a.id = id → c.Valid s a.event a.operation) :
    Vouching queue ((id, c) :: noted) s :=
  ⟨vouching.rows, vouching.names, List.forall_mem_cons.2 ⟨valid, vouching.noted⟩⟩

end Vouching

/-! ## Cycles -/

namespace Cycle

/-- The storage does not fail, and new identifiers are none of a queue. -/
def Clear (queue : List Attempt) (m : Moment) : Prop :=
  m.Stored ∧ ∀ id, m.issued? = some id → ∀ a ∈ queue, a.id ≠ id

variable {queue : List Attempt} {recorded recorded' : List (Uuid × Completion)} {record : Call}
  {results : List ItemResult} {syncedAt : Timestamp} {op : Operation} {progress next : Progress}
  {maxCreates : Nat}

/-- The outcomes that an answer gives are backed by the record of its call. -/
theorem valid_completion (filed : record ∈ s.calls) (backs : record.Backs op syncedAt)
    (event : Uuid) (r : ItemResult) : (r.completion syncedAt record.id).Valid s event op := by
  refine .inr ⟨record, filed, call_completion _ _ _, ?_⟩
  unfold ItemResult.completion
  split <;> exact backs

/-- Recording the answer for an attempt of a group. -/
theorem vouching_recordOne (vouching : Vouching queue recorded s)
    (distinct : (queue.map (·.id)).Nodup) (listed : a ∈ queue) (filed : record ∈ s.calls)
    (backs : record.Backs a.operation syncedAt)
    (recording : Recording record.id results syncedAt recorded a s t recorded' after)
    (clear : ∀ m ∈ t, Clear queue m) : Vouching queue recorded' after := by
  have noted (r : ItemResult) :
      Vouching queue ((a.id, r.completion syncedAt record.id) :: recorded) s := by
    refine vouching.note fun b hb same => ?_
    obtain rfl := Attempt.eq_of_id_eq distinct hb listed same
    exact valid_completion filed backs _ r
  have completed {r : ItemResult} {middle : Store}
      (wrote : s.completeAttempt a.id (r.completion syncedAt record.id) = .ok middle) :
      Vouching queue ((a.id, r.completion syncedAt record.id) :: recorded) middle :=
    (noted r).complete listed (valid_completion filed backs _ r) wrote
  cases recording with
  | unanswered unknown => exact vouching
  | lost e found => exact absurd (clear _ (List.mem_singleton_self _)).1 (fun h => by cases h)
  | closed found wrote lasting => exact completed wrote
  | @again r middle after createdAt id answer found wrote transient proposed =>
    simp only [List.forall_mem_cons] at clear
    obtain ⟨-, -, ⟨-, new⟩, ⟨inserted, -⟩, -⟩ := clear
    cases answer with
    | error e => cases inserted
    | ok u =>
      obtain rfl := Except.ok.inj proposed
      exact (completed wrote).insert rfl (new id rfl)

/-- Recording the answer for a group. -/
theorem vouching_record {group : List Attempt} (vouching : Vouching queue progress.recorded s)
    (distinct : (queue.map (·.id)).Nodup) (listed : ∀ a ∈ group, a ∈ queue ∧ a.operation = op)
    (filed : record ∈ s.calls) (backs : record.Backs op syncedAt)
    (run : Runs (group.foldlM (recordOne record.id results syncedAt) progress) s t next after)
    (clear : ∀ m ∈ t, Clear queue m) : Vouching queue next.recorded after := by
  refine (runs_foldlM_kept (fun group progress s =>
    Vouching queue progress.recorded s ∧ record ∈ s.calls ∧
      ∀ a ∈ group, a ∈ queue ∧ a.operation = op) ?_ ⟨vouching, filed, listed⟩ run clear).1
  rintro a group progress s t next after ⟨vouching, filed, listed⟩ run clear
  rw [List.forall_mem_cons] at listed
  obtain ⟨⟨here, rfl⟩, listed⟩ := listed
  have calls : after.calls = s.calls :=
    (only_recordOne progress a).within.agree .calls run (by decide)
  exact ⟨vouching_recordOne vouching distinct here filed backs (runs_recordOne run) clear,
    calls ▸ filed, listed⟩

/-- Superseded updates are closed with outcomes that have been noted for updates of their events. -/
theorem vouching_close {l : List Attempt}
    (vouching : Vouching queue progress.recorded s)
    (listed : ∀ a ∈ l, a ∈ queue ∧ a.operation = .update)
    (run : Runs (l.foldlM (closeOne (Batch.build queue maxCreates)) progress) s t next after)
    (clear : ∀ m ∈ t, Clear queue m) : Vouching queue next.recorded after := by
  refine (runs_foldlM_kept (fun l progress s =>
    Vouching queue progress.recorded s ∧ ∀ a ∈ l, a ∈ queue ∧ a.operation = .update)
    ?_ ⟨vouching, listed⟩ run clear).1
  rintro a l progress s t next after ⟨vouching, listed⟩ run clear
  rw [List.forall_mem_cons] at listed
  obtain ⟨⟨here, update⟩, listed⟩ := listed
  obtain ⟨closing, kept⟩ := runs_closeOne run
  rw [kept]
  refine ⟨?_, listed⟩
  cases closing with
  | kept unknown => exact vouching
  | lost e found => exact absurd (clear _ (List.mem_singleton_self _)).1 (fun h => by cases h)
  | @closed c _ found wrote =>
    obtain ⟨w, winner, lookup⟩ := Option.bind_eq_some_iff.1 found
    obtain ⟨before, behind, split, -⟩ := List.lookup_eq_some_iff.1 lookup
    obtain ⟨sent, event⟩ := Batch.winner?_eq_some_iff.1 winner
    have sent : w ∈ (Batch.build queue maxCreates).group .update := sent
    obtain ⟨listed', op⟩ := Batch.mem_of_mem_group sent
    have valid : c.Valid s w.event w.operation := by
      refine vouching.noted (w.id, c) ?_ w listed' rfl
      rw [split]
      exact List.mem_append_right _ List.mem_cons_self
    rw [event, op, ← update] at valid
    exact vouching.complete here valid wrote

/-- Recording the answer for a group of a batch, and closing what the group supersedes. -/
theorem vouching_answer {group : List Attempt} {middle : Store} {t' : List Moment}
    {last : Progress} (vouching : Vouching queue progress.recorded s)
    (distinct : (queue.map (·.id)).Nodup) (listed : ∀ a ∈ group, a ∈ queue ∧ a.operation = op)
    (filed : record ∈ s.calls) (backs : record.Backs op syncedAt)
    (recording : Runs (group.foldlM (recordOne record.id results syncedAt) progress) s t next middle)
    (closing : Runs ((toClose queue (Batch.build queue maxCreates) op).foldlM
      (closeOne (Batch.build queue maxCreates)) next) middle t' last after)
    (clear : ∀ m ∈ t, Clear queue m) (clear' : ∀ m ∈ t', Clear queue m) :
    Vouching queue last.recorded after := by
  have close : ∀ a ∈ toClose queue (Batch.build queue maxCreates) op,
      a ∈ queue ∧ a.operation = .update := by
    intro a mem
    obtain ⟨-, here, superseded⟩ := mem_toClose.1 mem
    exact ⟨here, ((Batch.mem_superseded_iff distinct here).1 superseded).2.1⟩
  have recorded := vouching_record vouching distinct listed filed backs recording clear
  exact vouching_close recorded close closing clear'

end Cycle
end CalendarSync
