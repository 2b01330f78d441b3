import CalendarSync.Proofs.Erasing
import CalendarSync.Proofs.Queue
import CalendarSync.Proofs.Removal

/-!
# A delete beside a cycle

A delete decides from the history that it has read whether the Planner holds the item, and a cycle
goes on with the queue that it has read. Where the two overlap, a create can be answered with success
after the history has been read; no delete of the item is proposed then.
-/

namespace CalendarSync
set_option autoImplicit false
open Program Simulation

variable {t : List Moment} {id : Uuid} {queue : List Attempt} {a : Attempt}

/-! ## What a cycle asks for -/

/-- The request leaves the events alone, records outcomes for attempts of a queue only, and adds an
attempt only for an operation on an event that the queue has. -/
def Request.stays (queue : List Attempt) : Request → Bool
  | .saveEvent _ => false
  | .completeAttempt id _ => queue.any fun q => q.id = id
  | .insertAttempt a => queue.any fun q => q.event = a.event ∧ q.operation = a.operation
  | _ => true

theorem Request.stays_of_within {r : Request} (within : r.within [.calls] = true) :
    r.stays queue = true := by
  cases r with
  | saveEvent event => cases within
  | completeAttempt id c => cases within
  | insertAttempt a => cases within
  | _ => rfl

/-- A loop makes the requests that its iterations make. -/
theorem Program.Only.foldlM_of_mem {σ α : Type} {p : Request → Bool} {f : σ → α → Program σ}
    {l : List α} (each : ∀ a ∈ l, ∀ value, Only p (f value a)) (value : σ) :
    Only p (l.foldlM f value) := by
  induction l generalizing value with
  | nil => exact .done value
  | cons a l ih =>
    rw [List.forall_mem_cons] at each
    rw [List.foldlM_cons]
    exact (each.1 value).bind (ih each.2)

namespace Cycle

theorem stays_count {c : Completion} {report : CycleReport} (mem : a ∈ queue) :
    Only (Request.stays queue) (count (a.complete c) report) := by
  unfold count
  cases (a.complete c).outcome with
  | error e => exact .done _
  | ok outcome =>
    cases outcome with
    | transient code =>
      refine Only.bind (.request rfl) fun createdAt => Only.bind (.request rfl) fun id =>
        Only.bind (.request ?_) fun answer => ?_
      · exact List.any_eq_true.2 ⟨a, mem, by simp [Attempt.again, Attempt.pending]⟩
      · cases answer <;> exact .done _
    | _ => exact .done _

theorem stays_recordOne {call : Uuid} {results : List ItemResult} {syncedAt : Timestamp}
    (progress : Progress) (mem : a ∈ queue) :
    Only (Request.stays queue) (recordOne call results syncedAt progress a) := by
  unfold recordOne
  split
  · exact .done _
  · refine Only.bind (.request (List.any_eq_true.2 ⟨a, mem, by simp⟩)) fun answer => ?_
    cases answer with
    | error e => exact .done _
    | ok u => exact (stays_count mem).bind fun report => .done _

theorem stays_closeOne {b : Batch} (progress : Progress) (mem : a ∈ queue) :
    Only (Request.stays queue) (closeOne b progress a) := by
  unfold closeOne
  split
  · exact .done _
  · refine Only.bind (.request (List.any_eq_true.2 ⟨a, mem, by simp⟩)) fun answer => ?_
    cases answer <;> exact .done _

theorem stays_sendGroups {policy : CallPolicy} {b : Batch}
    {groups : List (Operation × List Attempt)} (sub : ∀ g ∈ groups, ∀ a ∈ g.2, a ∈ queue)
    (progress : Progress) :
    Only (Request.stays queue) (sendGroups policy queue b groups progress) := by
  induction groups generalizing progress with
  | nil => exact .done _
  | cons head groups ih =>
    obtain ⟨op, group⟩ := head
    rw [List.forall_mem_cons] at sub
    unfold sendGroups
    have sends : Only (Request.stays queue) (sendGroup policy op group) :=
      only_sendGroup.mono fun _ => Request.stays_of_within
    refine sends.lift.service_bind fun answer => ?_
    cases answer with
    | error e =>
      simp only
      split
      · exact .done _
      · exact ih sub.2 _
    | ok answer =>
      have records : Only (Request.stays queue)
          (record answer.1 group answer.2 { progress with
            report := { progress.report with sent := progress.report.sent + group.length } }) :=
        Only.bind (.request rfl) fun syncedAt =>
          .foldlM_of_mem (fun a mem progress => stays_recordOne progress (sub.1 a mem)) _
      refine records.lift.service_bind fun progress => ?_
      split
      · have closes : Only (Request.stays queue) (closeSuperseded queue b progress) :=
          .foldlM_of_mem (fun a mem progress => stays_closeOne progress (List.mem_filter.1 mem).1) _
        exact closes.lift.service_bind fun progress => ih sub.2 progress
      · exact ih sub.2 progress

/-- After it has read its queue, a cycle stays with it. -/
theorem path_run {policy : CallPolicy} {maxCreates : Nat} {department : String}
    {result : Except DomainError CycleReport}
    (path : Path (Cycle.run policy maxCreates department) t result) :
    (∃ s e, t = [⟨s, .pendingAttempts department, .error e⟩]) ∨
    ∃ s queue rest, t = ⟨s, .pendingAttempts department, .ok queue⟩ :: rest ∧
      ∀ m ∈ rest, m.request.stays queue = true := by
  unfold Cycle.run at path
  obtain ⟨e, rfl, read⟩ | ⟨queue, _, rest, rfl, read, sent⟩ := Service.path_bind_iff.1 path
  · obtain ⟨s, rfl⟩ := path_request_iff.1 read
    exact .inl ⟨s, e, rfl⟩
  · obtain ⟨s, rfl⟩ := path_request_iff.1 read
    have stays : Only (Request.stays queue) (sendGroups policy queue (Batch.build queue maxCreates)
        (Batch.build queue maxCreates).groups (opening queue maxCreates department)) := by
      refine stays_sendGroups (fun g hg a mem => ?_) _
      rw [(Batch.mem_groups.1 hg).1] at mem
      exact (Batch.mem_of_mem_group mem).1
    exact .inr ⟨s, queue, rest, rfl, stays.path sent⟩

end Cycle

namespace Moment
variable {m : Moment} {c : Completion}

theorem exists_of_stays_added (stays : m.request.stays queue = true) (added : m.added? = some a) :
    ∃ q ∈ queue, q.event = a.event ∧ q.operation = a.operation := by
  obtain ⟨store, request, answer⟩ := m
  cases request with
  | insertAttempt b =>
    cases answer with
    | error e => cases added
    | ok u =>
      obtain rfl := Option.some.inj added
      simpa using List.any_eq_true.1 stays
  | _ => cases added

theorem exists_of_stays_recorded (stays : m.request.stays queue = true)
    (recorded : m.recorded? = some (id, c)) : ∃ q ∈ queue, q.id = id := by
  obtain ⟨store, request, answer⟩ := m
  cases request with
  | completeAttempt id' c' =>
    cases answer with
    | error e => cases recorded
    | ok u =>
      obtain ⟨rfl, rfl⟩ := Prod.mk.inj (Option.some.inj recorded)
      simpa using List.any_eq_true.1 stays
  | _ => cases recorded

end Moment

/-! ## Both at once -/

namespace Overlap
variable {s after : Store} {t : List (Moment ⊕ Moment)} {policy : CallPolicy} {maxCreates : Nat}
  {department : String} {x : Except DomainError (Option Attempt)}
  {y : Except DomainError CycleReport}

/-- The queue of a cycle that runs beside something else: its rows waited after some requests of the
other program. -/
theorem exists_queue (path : Path (Cycle.run policy maxCreates department) (seconds t) y)
    (linked : Linked s (merged t) after) :
    ∃ queue, (∀ m ∈ seconds t, m.request.stays queue = true) ∧
      ∀ q ∈ queue, q.isPending = true ∧ ∃ early middle, Linked s early middle ∧
        (∀ m ∈ early, m ∈ firsts t) ∧ q ∈ middle.attempts := by
  obtain ⟨s', e, only⟩ | ⟨s', queue, rest, pulls, stays⟩ := Cycle.path_run path
  · exact ⟨[], by simp [only, Request.stays], by simp⟩
  · obtain ⟨early, late, split, others⟩ := exists_of_seconds_eq_cons pulls
    rw [split] at linked
    obtain ⟨middle, first, linked⟩ := Linked.append_iff.1 linked
    obtain ⟨-, _, ⟨-, listed⟩, -⟩ := Linked.cons_iff.1 linked
    have listed := listed queue rfl
    refine ⟨queue, ?_, fun q mem => ?_⟩
    · rw [pulls]
      exact List.forall_mem_cons.2 ⟨rfl, stays⟩
    · rw [listed] at mem
      obtain ⟨here, pending, -⟩ := Store.mem_pending.1 mem
      exact ⟨pending, early, middle, first, others, here⟩

/-- A row is about what some row was about at first, or about what the delete has added. -/
theorem origin (path : Path (Cycle.run policy maxCreates department) (seconds t) y)
    (linked : Linked s (merged t) after) {b : Attempt} (mem : b ∈ after.attempts) :
    (∃ a ∈ s.attempts, a.event = b.event ∧ a.operation = b.operation) ∨
      ∃ m ∈ firsts t, ∃ a, m.added? = some a := by
  obtain ⟨queue, stays, waited⟩ := exists_queue path linked
  have about {a : Attempt} (same : b.proposal = a.proposal) :
      a.event = b.event ∧ a.operation = b.operation := by
    simp only [Attempt.proposal, Prod.mk.injEq] at same
    exact ⟨same.2.1.symm, same.2.2.1.symm⟩
  obtain ⟨a, here, same, -⟩ | ⟨m, here, a, added, same⟩ := linked.origin mem
  · exact .inl ⟨a, here, about same⟩
  rcases mem_merged.1 here with here | here
  · exact .inr ⟨m, here, a, added⟩
  -- The cycle repeats what was in its queue.
  obtain ⟨q, listed, event, op⟩ := Moment.exists_of_stays_added (stays m here) added
  obtain ⟨-, early, middle, first, others, there⟩ := waited q listed
  obtain ⟨q₀, old, same', -⟩ | ⟨m', mem', a', added', -⟩ := first.origin there
  · obtain ⟨event', op'⟩ := about same
    simp only [Attempt.proposal, Prod.mk.injEq] at same'
    exact .inl ⟨q₀, old, by rw [← same'.2.1, event, event'], by rw [← same'.2.2.1, op, op']⟩
  · exact .inr ⟨m', others m' mem', a', added'⟩

/-- The delete reads the event as it was at first. -/
theorem event?_of_read (path : Path (Cycle.run policy maxCreates department) (seconds t) y)
    (linked : Linked s (merged t) after) {s₁ : Store} {row : Event} {rest : List Moment}
    (reads : firsts t = ⟨s₁, .getEvent id, .ok (some row)⟩ :: rest) : s.event? id = some row := by
  obtain ⟨queue, stays, -⟩ := exists_queue path linked
  obtain ⟨early, late, split, others⟩ := exists_of_firsts_eq_cons reads
  rw [split] at linked
  obtain ⟨middle, first, linked⟩ := Linked.append_iff.1 linked
  obtain ⟨-, _, ⟨-, known⟩, -⟩ := Linked.cons_iff.1 linked
  have events : middle.events = s.events := first.agree .events fun m mem => by
    have stays := stays m (others m mem)
    obtain ⟨store, request, answer⟩ := m
    cases request with
    | saveEvent event => cases stays
    | _ => simp [Request.table?]
  rw [← Store.event?_congr events]
  exact (known _ rfl).symm

/-- A history of the event is read that shows that the Planner holds the item. -/
def readsHeld (id : Uuid) : Moment → Bool
  | ⟨_, .attemptsOf event, .ok history⟩ => event = id ∧ Queue.isHeld history
  | _ => false

theorem exists_of_readsHeld {m : Moment} (held : readsHeld id m = true) :
    ∃ s history, m = ⟨s, .attemptsOf id, .ok history⟩ ∧ Queue.isHeld history = true := by
  unfold readsHeld at held
  split at held
  · obtain ⟨rfl, shown⟩ := of_decide_eq_true held
    exact ⟨_, _, rfl, shown⟩
  · cases held

/-- The delete has read a history that shows that the Planner holds the item. -/
def ReadHeld (id : Uuid) (t : List Moment) : Prop :=
  ∃ m ∈ t, readsHeld id m = true

instance (id : Uuid) (t : List Moment) : Decidable (ReadHeld id t) :=
  inferInstanceAs (Decidable (∃ m ∈ t, readsHeld id m = true))

/-- The delete adds something only if it has read that the item is held. -/
theorem readHeld_of_added (path : Path (Queue.delete id) (firsts t) x) {m : Moment}
    (mem : m ∈ firsts t) (added : m.added? = some a) : ReadHeld id (firsts t) := by
  generalize firsts t = l at path mem ⊢
  cases Queue.path_delete path with
  | unread reads reason =>
    have read := reads m mem
    obtain ⟨store, request, answer⟩ := m
    cases request with
    | insertAttempt b => cases read
    | _ => cases added
  | read s₁ s₂ row history erasing =>
    rcases List.mem_cons.1 mem with rfl | mem
    · cases added
    rcases List.mem_cons.1 mem with rfl | mem
    · cases added
    exact ⟨⟨s₂, .attemptsOf id, .ok history⟩, by simp,
      decide_eq_true ⟨rfl, erasing.isHeld_of_added mem added⟩⟩

/-- The delete of an event that stands adds a delete, if it has read that the item is held. -/
theorem exists_added_of_readHeld (path : Path (Queue.delete id) (firsts t) x)
    (path' : Path (Cycle.run policy maxCreates department) (seconds t) y)
    (linked : Linked s (merged t) after) (stored : ∀ m ∈ merged t, m.Stored)
    (unflagged : ¬ s.Flagged id) (held : ReadHeld id (firsts t)) :
    ∃ m ∈ firsts t, ∃ a, m.added? = some a ∧ a.event = id ∧ a.operation = .delete := by
  have stored : ∀ m ∈ firsts t, m.Stored := fun m mem => stored m (mem_merged.2 (.inl mem))
  have answers : ∀ m ∈ firsts t, ∃ middle, m.store.Answers m.request m.answer middle :=
    fun m mem => linked.answers m (mem_merged.2 (.inl mem))
  have read {s₁ : Store} {row : Event} {rest : List Moment} :
      firsts t = ⟨s₁, .getEvent id, .ok (some row)⟩ :: rest → s.event? id = some row :=
    event?_of_read path' linked
  obtain ⟨_, mem, held⟩ := held
  obtain ⟨s', history, rfl, shown⟩ := exists_of_readsHeld held
  generalize firsts t = l at *
  cases Queue.path_delete path with
  | unread reads reason =>
    obtain ⟨m, here, fault⟩ | ⟨s₁, rfl⟩ := reason
    · exact absurd (stored m here) fault
    · simp at mem
  | @read s₁ s₂ row history' rest _ erasing =>
    have same : history = history' := by
      simp only [List.mem_cons] at mem
      rcases mem with mem | mem | mem
      · cases mem
      · cases mem
        rfl
      · exact absurd rfl (erasing.unread _ mem)
    subst same
    have stands : row.isDeleted = false := by
      by_contra deleted
      exact unflagged ⟨row, read rfl, by simpa using deleted⟩
    simp only [List.forall_mem_cons] at stored answers
    obtain ⟨latest, fresh, createdAt, last, m, mem, added⟩ :=
      erasing.exists_added stands shown stored.2.2
    refine ⟨m, by simp [mem], _, added, ?_, rfl⟩
    obtain ⟨_, -, listed⟩ := answers.2.1
    have listed : history = s₂.history id := listed history rfl
    have last : Attempt.latest? history = some latest := last
    rw [listed] at last
    have own : latest.event = id := (Store.mem_history.1 (Attempt.latest?_mem last)).2
    exact own

/-- The delete of a flagged event only reads. -/
theorem reads_of_flagged (path : Path (Queue.delete id) (firsts t) x)
    (path' : Path (Cycle.run policy maxCreates department) (seconds t) y)
    (linked : Linked s (merged t) after) (flagged : s.Flagged id) :
    ∀ m ∈ firsts t, m.request.table? = none := by
  have read {s₁ : Store} {row : Event} {rest : List Moment} :
      firsts t = ⟨s₁, .getEvent id, .ok (some row)⟩ :: rest → s.event? id = some row :=
    event?_of_read path' linked
  generalize firsts t = l at *
  cases Queue.path_delete path with
  | unread reads reason => exact reads
  | read s₁ s₂ row history erasing =>
    obtain ⟨row', found, deleted⟩ := flagged
    obtain rfl := Option.some.inj ((read rfl).symm.trans found)
    have deleted : ({ row with attempts := history } : Event).isDeleted = true := deleted
    cases erasing with
    | gone _ => simp [Request.table?]
    | unsaved stands => rw [deleted] at stands; cases stands
    | blank stands => rw [deleted] at stands; cases stands
    | queued stands => rw [deleted] at stands; cases stands
    | withdrawn stands => rw [deleted] at stands; cases stands

/-- Beside a delete that only reads, a cycle leaves the rows of an event alone of which nothing
waits. -/
theorem mem_of_idle (path' : Path (Cycle.run policy maxCreates department) (seconds t) y)
    (linked : Linked s (merged t) after) (reads : ∀ m ∈ firsts t, m.request.table? = none)
    (distinct : (s.attempts.map (·.id)).Nodup)
    (idle : ∀ b ∈ s.attempts, b.event = id → b.isPending = false) (mem : a ∈ after.attempts)
    (event : a.event = id) : a ∈ s.attempts := by
  obtain ⟨queue, stays, waited⟩ := exists_queue path' linked
  have quiet : ∀ m ∈ firsts t, m.added? = none ∧ m.recorded? = none := by
    intro m mem
    have read := reads m mem
    obtain ⟨store, request, answer⟩ := m
    cases request with
    | insertAttempt b => cases read
    | completeAttempt id c => cases read
    | _ => exact ⟨rfl, rfl⟩
  have known : ∀ q ∈ queue, q ∈ s.attempts ∧ q.isPending = true := by
    intro q listed
    obtain ⟨pending, early, middle, first, others, here⟩ := waited q listed
    rw [first.eq_of_reads fun m mem => reads m (others m mem)] at here
    exact ⟨here, pending⟩
  obtain ⟨b, here, same, rfl | ⟨m, mem', c, recorded⟩⟩ | ⟨m, mem', b, added, same⟩ :=
    linked.origin mem
  · exact here
  · rcases mem_merged.1 mem' with first | second
    · rw [(quiet m first).2] at recorded
      cases recorded
    · obtain ⟨q, listed, id_eq⟩ := Moment.exists_of_stays_recorded (stays m second) recorded
      obtain ⟨old, pending⟩ := known q listed
      obtain rfl := Attempt.eq_of_id_eq distinct old here id_eq
      simp only [Attempt.proposal, Prod.mk.injEq] at same
      rw [idle q here (same.2.1.symm.trans event)] at pending
      cases pending
  · rcases mem_merged.1 mem' with first | second
    · rw [(quiet m first).1] at added
      cases added
    · obtain ⟨q, listed, event_eq, -⟩ := Moment.exists_of_stays_added (stays m second) added
      obtain ⟨old, pending⟩ := known q listed
      simp only [Attempt.proposal, Prod.mk.injEq] at same
      rw [idle q old (event_eq.trans (same.2.1.symm.trans event))] at pending
      cases pending

/-- An event that has been flagged without a delete has no create that is answered with success, and
never will have. -/
theorem exists_delete_of_flagged {queued : Uuid → List Attempt}
    (path : Path (Queue.delete id) (firsts t) x)
    (path' : Path (Cycle.run policy maxCreates department) (seconds t) y)
    (linked : Linked s (merged t) after) (disciplined : Disciplined s.Flagged s.attempts)
    (accounts : s.Accounts queued) (flagged : s.Flagged id) (mem : a ∈ after.attempts)
    (event : a.event = id) (create : a.operation = .create) (success : a.success = some true)
    (called : a.call.isSome = true) (balanced : ∀ a ∈ s.attempts, a.Balanced) :
    ∃ d ∈ s.attempts, d.event = id ∧ d.operation = .delete := by
  by_contra missing
  have none : Attempt.deletes (Attempt.ofEvent id s.attempts) = [] := by
    refine Attempt.deletes_eq_nil_iff.2 fun d listed delete => missing ?_
    obtain ⟨here, own⟩ := Attempt.mem_ofEvent.1 listed
    exact ⟨d, here, own, delete⟩
  have deletion := accounts id
  have idle : ∀ b ∈ s.attempts, b.event = id → b.isPending = false := fun b here own =>
    deletion.idle flagged none b (Attempt.mem_ofEvent.2 ⟨here, own⟩)
  have here : a ∈ s.attempts :=
    mem_of_idle path' linked (reads_of_flagged path path' linked flagged) disciplined.distinct idle
      mem event
  have closed : a.isPending = false := by
    have synced : a.syncedAt.isSome = true := by rw [balanced a here, success]; rfl
    rw [Attempt.isPending, Option.isNone_eq_false_iff, synced]
  have reached : a.Reached :=
    ⟨by simp [create], called, Attempt.isEffective_iff.2 ⟨closed, .inl success⟩⟩
  exact (deletion.held flagged).2 ⟨a, Attempt.mem_ofEvent.2 ⟨here, event⟩, reached⟩ none

end Overlap

open Overlap in
/-- A delete beside a cycle. Where a create of the event has been answered with success in the end,
the history of the event has a delete exactly if the event had been flagged before, or the delete has
read a history that shows that the Planner holds the item. A delete that has read its history before
the answer to the create was recorded leaves the item behind. -/
theorem deleted_beside_cycle_iff {s₀ s after : Store} {episodes : List Episode} {id : Uuid}
    {policy : CallPolicy} {maxCreates : Nat} {department : String} {t : List (Moment ⊕ Moment)}
    {x : Except DomainError (Option Attempt)} {y : Except DomainError CycleReport} {a : Attempt}
    (history : History s₀ episodes s) (empty : s₀.attempts = [])
    (forward : Forward (momentsOf episodes)) (stored : ∀ m ∈ momentsOf episodes, m.Stored)
    (run : Interleaved (Queue.delete id) (Cycle.run policy maxCreates department) s t x y after)
    (stored' : ∀ m ∈ merged t, m.Stored) (mem : a ∈ after.attempts) (event : a.event = id)
    (create : a.operation = .create) (success : a.success = some true)
    (called : a.call.isSome = true) :
    (∃ d ∈ after.attempts, d.event = id ∧ d.operation = .delete) ↔
      s.Flagged id ∨ ReadHeld id (firsts t) := by
  obtain ⟨path, path', linked⟩ := interleaved_iff.1 run
  obtain ⟨timely, -⟩ := history.timely empty forward
  obtain ⟨disciplined, -⟩ := Disciplined.history history empty timely
  constructor
  · rintro ⟨d, here, own, delete⟩
    obtain ⟨b, old, event, op⟩ | ⟨m, first, b, added⟩ := Overlap.origin path' linked here
    · exact .inl (own ▸ event ▸ disciplined.deletes b old (op.trans delete))
    · exact .inr (readHeld_of_added path first added)
  · intro cause
    have stays {b : Attempt} (same : ∃ d ∈ after.attempts, d.proposal = b.proposal)
        (own : b.event = id) (delete : b.operation = .delete) :
        ∃ d ∈ after.attempts, d.event = id ∧ d.operation = .delete := by
      obtain ⟨d, here, same⟩ := same
      simp only [Attempt.proposal, Prod.mk.injEq] at same
      exact ⟨d, here, same.2.1.trans own, same.2.2.1.trans delete⟩
    by_cases flagged : s.Flagged id
    · have accounts : s.Accounts fun event => queuedFor event episodes :=
        .history history empty fun m mem => ⟨timely m mem, stored m mem⟩
      have fresh : (s₀.attempts.map (·.id) ++ issued (momentsOf episodes)).Nodup := by
        simpa [empty] using forward.nodup
      have balanced : ∀ a ∈ s.attempts, a.Balanced :=
        (kept_history history (by simp [empty]) fresh).balanced s (by simp [storesOf])
      obtain ⟨b, old, own, delete⟩ := exists_delete_of_flagged path path' linked disciplined
        accounts flagged mem event create success called balanced
      exact stays (linked.exists_row old) own delete
    · obtain ⟨m, first, b, added, own, delete⟩ := exists_added_of_readHeld path path' linked stored'
        flagged (cause.resolve_left flagged)
      exact stays (linked.exists_added (mem_merged.2 (.inl first)) added) own delete

/-! ## An item that is left behind -/

namespace Simulation.World

/-- The standing world with a create that waits for the first event. -/
def expecting : World :=
  standing.perform [.propose (.ofNat 1) ⟨atSecond 3000, atSecond 4000⟩]

/-- A delete of the first event and a cycle, taking turns. -/
def beside (turns : List Bool) : World × List (Moment ⊕ Moment) ×
    Option (Except DomainError (Option Attempt) × Except DomainError CycleReport) :=
  expecting.weave turns (Queue.delete (.ofNat 1)) (Cycle.run samplePolicy 10 "rooms")

/-- The cycle records the answer to the create between the two reads of the delete. -/
def deleteLate : List Bool :=
  true :: List.replicate 40 false ++ List.replicate 10 true

/-- The delete is carried out after the cycle has read its queue. -/
def deleteEarly : List Bool :=
  false :: List.replicate 10 true ++ List.replicate 40 false

end Simulation.World

/-- What is known of a delete beside a cycle in the standing world. -/
theorem exists_beside (turns : List Bool) (done : (World.beside turns).2.2.isSome = true) :
    ∃ episodes x y, History World.standing.store episodes World.expecting.store ∧
      Forward (momentsOf episodes) ∧ (∀ m ∈ momentsOf episodes, m.Stored) ∧
      Interleaved (Queue.delete (.ofNat 1)) (Cycle.run World.samplePolicy 10 "rooms")
        World.expecting.store (World.beside turns).2.1 x y (World.beside turns).1.store := by
  let proposal := Command.propose (.ofNat 1) ⟨World.atSecond 3000, World.atSecond 4000⟩
  obtain ⟨episodes, history, moments⟩ :=
    World.exists_history [proposal] World.standing rfl (by decide +kernel)
  obtain ⟨⟨x, y⟩, done⟩ := Option.isSome_iff_exists.1 done
  refine ⟨episodes, x, y, history, ?_, ?_, ?_⟩
  · rw [moments]
    exact ⟨by decide +kernel, by decide +kernel⟩
  · rw [moments]
    decide +kernel
  · exact World.interleaved_of_weave turns _ _ World.expecting (by decide +kernel) done

/-- A delete that reads its history after the answer was recorded leads to another one. -/
theorem deleted_beside_cycle_late :
    ∃ d ∈ (World.beside World.deleteLate).1.store.attempts,
      d.event = .ofNat 1 ∧ d.operation = .delete := by
  obtain ⟨episodes, x, y, history, forward, stored, run⟩ :=
    exists_beside World.deleteLate (by decide +kernel)
  obtain ⟨a, mem, event, create, success, called⟩ :
      ∃ a ∈ (World.beside World.deleteLate).1.store.attempts, a.event = .ofNat 1 ∧
        a.operation = .create ∧ a.success = some true ∧ a.call.isSome = true := by
    decide +kernel
  have held : Overlap.ReadHeld (.ofNat 1) (firsts (World.beside World.deleteLate).2.1) := by
    decide +kernel
  exact (deleted_beside_cycle_iff history (by decide +kernel) forward stored run
    (by decide +kernel) mem event create success called).2 (.inr held)

/-- So an item can be left behind: the cycle sends the create that the delete has found waiting. -/
theorem exists_orphan_beside_cycle : ¬ ∀ (s₀ s after : Store) (episodes : List Episode) (id : Uuid)
    (policy : CallPolicy) (maxCreates : Nat) (department : String) (t : List (Moment ⊕ Moment))
    (x : Except DomainError (Option Attempt)) (y : Except DomainError CycleReport) (a : Attempt),
      History s₀ episodes s → s₀.attempts = [] → Forward (momentsOf episodes) →
        (∀ m ∈ momentsOf episodes, m.Stored) →
          Interleaved (Queue.delete id) (Cycle.run policy maxCreates department) s t x y after →
            (∀ m ∈ merged t, m.Stored) → a ∈ after.attempts → a.event = id →
              a.operation = .create → a.success = some true → a.call.isSome = true →
                ∃ d ∈ after.attempts, d.event = id ∧ d.operation = .delete := by
  intro deleted
  obtain ⟨episodes, x, y, history, forward, stored, run⟩ :=
    exists_beside World.deleteEarly (by decide +kernel)
  obtain ⟨a, mem, event, create, success, called⟩ :
      ∃ a ∈ (World.beside World.deleteEarly).1.store.attempts, a.event = .ofNat 1 ∧
        a.operation = .create ∧ a.success = some true ∧ a.call.isSome = true := by
    decide +kernel
  have deleted := deleted _ _ _ _ _ _ _ _ _ _ _ a history (by decide +kernel) forward stored run
    (by decide +kernel) mem event create success called
  revert deleted
  decide +kernel

end CalendarSync
