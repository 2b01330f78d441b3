import CalendarSync.Proofs.Moves
import CalendarSync.Proofs.Settlement

/-!
# No update overtakes a newer one

Over any number of cycles, with updates added between them, the updates of an event are sent in the
order of their recency. The invariant behind this: as long as an update of the event waits, one that
is no older than the update sent before waits as well.
-/

namespace CalendarSync
set_option autoImplicit false
open Program Simulation

/-- The attempt is an update of the event that waits. -/
structure Attempt.WaitsFor (event : Uuid) (a : Attempt) : Prop where
  pending : a.isPending = true
  update : a.operation = .update
  event : a.event = event

namespace Batch
variable {queue : List Attempt} {maxCreates : Nat} {a w : Attempt}

/-- Every update of a queue has the outcome of the winner of its event. -/
theorem outcomeIn?_update (distinct : (queue.map (·.id)).Nodup) (g : Answer)
    (waits : a ∈ waiting queue .update) :
    (build queue maxCreates).outcomeIn? g a =
      ((build queue maxCreates).winner? a).bind fun w => g.completion? w.id := by
  obtain ⟨mem, pending, update⟩ := mem_waiting.1 waits
  unfold outcomeIn?
  rw [update]
  split
  · rename_i sent
    have own : (build queue maxCreates).winner? a = some a := winner?_eq_some_iff.2 ⟨sent, rfl⟩
    rw [own]
    rfl
  · rename_i out
    rw [if_pos ((mem_superseded_iff distinct mem).2 ⟨pending, update, out⟩)]

/-- Updates of one event have the same outcome. -/
theorem outcome?_congr {answers : Operation → Option Answer} (distinct : (queue.map (·.id)).Nodup)
    (ha : a ∈ waiting queue .update) (hw : w ∈ waiting queue .update) (same : a.event = w.event) :
    (build queue maxCreates).outcome? answers a = (build queue maxCreates).outcome? answers w := by
  have winner : (build queue maxCreates).winner? a = (build queue maxCreates).winner? w := by
    unfold winner?
    rw [same]
  unfold outcome?
  rw [(mem_waiting.1 ha).2.2, (mem_waiting.1 hw).2.2]
  congr 1
  funext g
  rw [outcomeIn?_update distinct g ha, outcomeIn?_update distinct g hw, winner]

end Batch

namespace Cycle
variable {policy : CallPolicy} {maxCreates : Nat} {department : String}
  {result : Except DomainError CycleReport} {s s₀ after : Store} {t : List Moment} {a w : Attempt}

/-- What waits for an event with an attempt in the queue is in the queue. -/
theorem mem_waiting_pending (mem : w ∈ s.attempts) (waits : w.WaitsFor a.event)
    (listed : a ∈ s.pending department) : w ∈ Batch.waiting (s.pending department) .update := by
  have belongs : s.belongsTo department w = s.belongsTo department a := by
    unfold Store.belongsTo
    rw [waits.event]
  have listed := (Store.mem_pending.1 listed).2.2
  exact Batch.mem_waiting.2 ⟨Store.mem_pending.2 ⟨mem, waits.pending, belongs.trans listed⟩,
    waits.pending, waits.update⟩

/-- A cycle sends the groups of its batch. -/
theorem sent_groups {queue : List Attempt} {b : Batch} {groups : List (Operation × List Attempt)}
    {progress : Progress} (own : ∀ g ∈ groups, g.2 = b.group g.1)
    (run : Runs (sendGroups policy queue b groups progress) s t result after) :
    ∀ m ∈ t, m.sent = [] ∨ ∃ op, m.sent = b.group op := by
  induction groups generalizing s t progress with
  | nil =>
    obtain ⟨rfl, -⟩ := runs_sendGroups_nil run
    simp
  | cons head groups ih =>
    obtain ⟨op, group⟩ := head
    have sends {s after : Store} {t : List Moment} {answer : Except DomainError (Uuid × List ItemResult)}
        (sent : Runs (sendGroup policy op group) s t answer after) :
        ∀ m ∈ t, m.sent = [] ∨ ∃ op, m.sent = b.group op := by
      intro m mem
      rcases ((runs_sendGroup sent).2.1 m mem).sent with quiet | whole
      · exact .inl quiet
      · exact .inr ⟨op, whole.trans (own (op, group) List.mem_cons_self)⟩
    have others := fun g hg => own g (List.mem_cons_of_mem _ hg)
    cases runs_sendGroups_cons run with
    | shutdown sent => exact sends sent
    | failed sent kept more => exact List.forall_mem_append.2 ⟨sends sent, ih others more⟩
    | answered sent kept recording closing more =>
      simp only [List.forall_mem_append, List.forall_mem_cons]
      refine ⟨sends sent, .inl rfl, ?_, ?_, ih others more⟩
      · exact fun m mem => .inl (quiet_record recording m mem).sent
      · exact fun m mem => .inl (quiet_close closing m mem).sent

theorem sent_run (run : Runs (Cycle.run policy maxCreates department) s t result after) :
    ∀ m ∈ t, m.sent = [] ∨
      ∃ op, m.sent = (Batch.build (s.pending department) maxCreates).group op := by
  obtain ⟨e, rfl, rfl, -⟩ | ⟨rest, rfl, sent⟩ := runs_run run
  · simp [Moment.sent]
  · have groups := sent_groups (fun g mem => (Batch.mem_groups.1 mem).1) sent
    exact List.forall_mem_cons.2 ⟨.inl rfl, groups⟩

/-- An update that a cycle sends is the winner of its event. -/
theorem mem_updates_of_sent (run : Runs (Cycle.run policy maxCreates department) s t result after)
    {m : Moment} (mem : m ∈ t) (sent : a ∈ m.sent) (update : a.operation = .update) :
    a ∈ (Batch.build (s.pending department) maxCreates).updates := by
  rcases sent_run run m mem with quiet | ⟨op, group⟩
  · rw [quiet] at sent
    cases sent
  · rw [group] at sent
    obtain ⟨-, same⟩ := Batch.mem_of_mem_group sent
    rw [← same, update] at sent
    exact sent

/-- The rows after a cycle: the old ones with their outcomes, and more recent ones. -/
structure Rows (s : Store) (outcome? : Attempt → Option Completion) (after : Store) : Prop where
  old : ∀ a ∈ s.attempts, a.settle (outcome? a) ∈ after.attempts
  all : ∀ p ∈ after.attempts, (∃ a ∈ s.attempts, p = a.settle (outcome? a)) ∨
    ∀ a ∈ s.attempts, a.createdAt ≤ p.createdAt ∧ a.id < p.id

theorem rows_run (distinct : (s.attempts.map (·.id)).Nodup)
    (run : Runs (Cycle.run policy maxCreates department) s t result after)
    (fair : ∀ m ∈ t, Fair False m) :
    ∃ answers, Rows s (fun a =>
      (Batch.build (s.pending department) maxCreates).outcome? answers a) after := by
  have stored : ∀ m ∈ t, m.Stored := fun m mem => (fair m mem).2.resolve_left id
  obtain ⟨answers, done, more, settled, turns⟩ := settled_run distinct run stored
  obtain ⟨⟨moves, -⟩, -⟩ := moves_of_timely distinct run fun m mem => (fair m mem).1
  have rows := turns.rows settled
  obtain ⟨new, keys, newer⟩ := moves.grown
  refine ⟨answers, fun a mem => ?_, fun p mem => ?_⟩
  · rw [rows]
    exact List.mem_append_left _ (List.mem_map.2 ⟨a, mem, rfl⟩)
  · rw [rows] at mem keys
    rcases List.mem_append.1 mem with old | added
    · obtain ⟨a, ha, rfl⟩ := List.mem_map.1 old
      exact .inl ⟨a, ha, rfl⟩
    · have same : more.map (fun a => (a.id, a.createdAt)) = new := by
        rw [List.map_append, List.map_map] at keys
        refine List.append_cancel_left (Eq.trans ?_ keys)
        congr 1
        apply List.map_congr_left
        intro a _
        simp
      have key : (p.id, p.createdAt) ∈ new := same ▸ List.mem_map.2 ⟨p, added, rfl⟩
      exact .inr (newer _ key)

/-- While an update of the event of `v` waits, one waits that is no older than `v`. -/
def Covers (rows : List Attempt) (v : Attempt) : Prop :=
  (∃ r ∈ rows, r.id = v.id ∧ r.createdAt = v.createdAt) ∧
    ∀ p ∈ rows, p.WaitsFor v.event → ∃ w ∈ rows, w.WaitsFor v.event ∧ v.NotAfter w

/-- An update that waits covers itself. -/
theorem covers_self {rows : List Attempt} (mem : a ∈ rows) (waits : a.WaitsFor a.event) :
    Covers rows a :=
  ⟨⟨a, mem, rfl, rfl⟩, fun _ _ _ => ⟨a, mem, waits, Attempt.notAfter_refl a⟩⟩

/-- A row that is more recent than all rows is more recent than what is covered. -/
theorem notAfter_of_covers {rows : List Attempt} {v p : Attempt} (covers : Covers rows v)
    (newer : ∀ a ∈ rows, a.createdAt ≤ p.createdAt ∧ a.id < p.id) : v.NotAfter p := by
  obtain ⟨⟨r, mem, id, created⟩, -⟩ := covers
  obtain ⟨le, less⟩ := newer r mem
  exact Attempt.notAfter_of_le (created ▸ le) (id ▸ less)

/-- A cycle keeps what is covered. -/
theorem Rows.covers {answers : Operation → Option Answer} {v : Attempt}
    (distinct : (s.attempts.map (·.id)).Nodup)
    (rows : Rows s (fun a =>
      (Batch.build (s.pending department) maxCreates).outcome? answers a) after)
    (covers : Covers s.attempts v) : Covers after.attempts v := by
  have own : ((s.pending department).map (·.id)).Nodup := Attempt.nodup_filter distinct _
  constructor
  · obtain ⟨⟨r, mem, id, created⟩, -⟩ := covers
    exact ⟨_, rows.old r mem, by simpa using id, by simpa using created⟩
  · intro p mem waits
    rcases rows.all p mem with ⟨a, ha, rfl⟩ | newer
    · have unanswered := Attempt.settle_isPending waits.pending
      rw [unanswered] at waits
      obtain ⟨w, hw, waits_w, le⟩ := covers.2 a ha waits
      cases outcome : (Batch.build (s.pending department) maxCreates).outcome? answers w with
      | none =>
        have kept := rows.old w hw
        rw [outcome] at kept
        exact ⟨w, kept, waits_w, le⟩
      | some c =>
        -- Then the other update would have been answered with it.
        have listed := Batch.mem_of_outcome? distinct List.filter_sublist hw outcome
        have same : a.event = w.event := waits.event.trans waits_w.event.symm
        have waiting_w := mem_waiting_pending hw ⟨waits_w.pending, waits_w.update, rfl⟩ listed
        have waiting_a := mem_waiting_pending ha ⟨waits.pending, waits.update, same⟩ listed
        rw [Batch.outcome?_congr own waiting_a waiting_w same, outcome] at unanswered
        cases unanswered
    · exact ⟨p, mem, waits, notAfter_of_covers covers newer⟩

/-- An update that a cycle sends is no older than what is covered before it. -/
theorem notAfter_sent {v u : Attempt} (covers : Covers s.attempts v)
    (sent : u ∈ (Batch.build (s.pending department) maxCreates).updates) (same : u.event = v.event) :
    v.NotAfter u := by
  have waits : u ∈ Batch.waiting (s.pending department) .update :=
    (Batch.selection_of _).mem u (Batch.mem_updates.1 sent)
  obtain ⟨listed, pending, update⟩ := Batch.mem_waiting.1 waits
  obtain ⟨mem, -⟩ := Store.mem_pending.1 listed
  obtain ⟨w, hw, waits_w, le⟩ := covers.2 u mem ⟨pending, update, same⟩
  have event : w.event = u.event := waits_w.event.trans same.symm
  have waiting := mem_waiting_pending hw ⟨waits_w.pending, waits_w.update, event⟩ listed
  exact le.trans (Batch.notAfter_of_mem_updates sent waiting event)

/-- No update of an event goes on waiting that is older than one that the cycle closed. -/
theorem Rows.notAfter_waiting {answers : Operation → Option Answer} {u p b : Attempt}
    (distinct : (s.attempts.map (·.id)).Nodup)
    (rows : Rows s (fun a =>
      (Batch.build (s.pending department) maxCreates).outcome? answers a) after)
    (hb : b ∈ s.attempts) (pending : b.isPending = true) (same : b.id = u.id)
    (hu : u ∈ after.attempts) (update : u.operation = .update) (closed : u.isPending = false)
    (hp : p ∈ after.attempts) (waits : p.WaitsFor u.event) : u.NotAfter p := by
  have own : ((s.pending department).map (·.id)).Nodup := Attempt.nodup_filter distinct _
  rcases rows.all u hu with ⟨a, ha, rfl⟩ | newer
  · rw [Attempt.settle_id] at same
    obtain rfl := Attempt.eq_of_id_eq distinct hb ha same
    rcases rows.all p hp with ⟨q, hq, rfl⟩ | newer
    · -- What still waits has no outcome, but shares that of the update that was closed.
      have unanswered := Attempt.settle_isPending waits.pending
      rw [unanswered] at waits
      cases outcome : (Batch.build (s.pending department) maxCreates).outcome? answers b with
      | none =>
        rw [outcome] at closed
        exact absurd (closed.symm.trans pending) (by decide)
      | some c =>
        rw [outcome] at update waits
        have listed := Batch.mem_of_outcome? distinct List.filter_sublist hb outcome
        have event : q.event = b.event := waits.event
        have waiting_b := mem_waiting_pending hb ⟨pending, update, rfl⟩ listed
        have waiting_q := mem_waiting_pending hq ⟨waits.pending, waits.update, event⟩ listed
        rw [Batch.outcome?_congr own waiting_q waiting_b event, outcome] at unanswered
        cases unanswered
    · obtain ⟨le, less⟩ := newer b hb
      exact Attempt.notAfter_of_le (by simpa using le) (by simpa using less)
  · have less := (newer b hb).2
    rw [same] at less
    exact absurd less (Nat.lt_irrefl _)

/-- One cycle of a history, with the tables before and after it. -/
structure Round where
  before : Store
  trace : List Moment
  after : Store

/-- Cycles one after the other; between them updates are added that are more recent than all
attempts. -/
inductive Traffic (s₀ : Store) : List Round → Store → Prop where
  | start : Traffic s₀ [] s₀
  | cycle {rounds : List Round} {s after : Store} {t : List Moment} {policy : CallPolicy}
      {maxCreates : Nat} {department : String} {result : Except DomainError CycleReport}
      (past : Traffic s₀ rounds s)
      (run : Runs (Cycle.run policy maxCreates department) s t result after) :
      Traffic s₀ (rounds ++ [⟨s, t, after⟩]) after
  | insert {rounds : List Round} {s : Store} {u : Attempt} (past : Traffic s₀ rounds s)
      (pending : u.isPending = true) (update : u.operation = .update)
      (newer : ∀ a ∈ s.attempts, a.createdAt ≤ u.createdAt ∧ a.id < u.id) :
      Traffic s₀ rounds (s.insertAttempt u)

/-- What the cycles sent, in order. -/
def sentIn (rounds : List Round) : List Attempt :=
  rounds.flatMap fun r => r.trace.flatMap Moment.sent

/-- Of two updates of an event the first is no more recent. -/
def InOrder (v u : Attempt) : Prop :=
  v.operation = .update → u.operation = .update → u.event = v.event → v.NotAfter u

/-- What a cycle closed is no more recent than what it left waiting for the event. -/
def Round.LeavesNewer (r : Round) : Prop :=
  ∀ u ∈ r.after.attempts, u.operation = .update → u.isPending = false →
    (∃ b ∈ r.before.attempts, b.id = u.id ∧ b.isPending = true) →
    ∀ p ∈ r.after.attempts, p.WaitsFor u.event → u.NotAfter p

/-- Everything sent so far is covered. -/
structure Covered (rounds : List Round) (s : Store) : Prop where
  distinct : (s.attempts.map (·.id)).Nodup
  covers : ∀ v ∈ sentIn rounds, v.operation = .update → Covers s.attempts v
  ordered : (sentIn rounds).Pairwise InOrder
  leaves : ∀ r ∈ rounds, r.LeavesNewer

theorem Covered.insert {rounds : List Round} {u : Attempt} (covered : Covered rounds s)
    (newer : ∀ a ∈ s.attempts, a.createdAt ≤ u.createdAt ∧ a.id < u.id) :
    Covered rounds (s.insertAttempt u) := by
  obtain ⟨distinct, covers, ordered, leaves⟩ := covered
  refine ⟨?_, ?_, ordered, leaves⟩
  · exact Attempt.nodup_append_of_lt distinct fun a ha => (newer a ha).2
  · intro v sent update
    have covers := covers v sent update
    constructor
    · obtain ⟨⟨r, mem, key⟩, -⟩ := covers
      exact ⟨r, List.mem_append_left _ mem, key⟩
    · intro p mem waits
      rcases List.mem_append.1 mem with old | added
      · obtain ⟨w, hw, waits_w, le⟩ := covers.2 p old waits
        exact ⟨w, List.mem_append_left _ hw, waits_w, le⟩
      · obtain rfl := List.mem_singleton.1 added
        exact ⟨p, mem, waits, notAfter_of_covers covers newer⟩

theorem Covered.cycle {rounds : List Round} (covered : Covered rounds s)
    (run : Runs (Cycle.run policy maxCreates department) s t result after)
    (fair : ∀ m ∈ t, Fair False m) : Covered (rounds ++ [⟨s, t, after⟩]) after := by
  obtain ⟨distinct, covers, ordered, leaves⟩ := covered
  obtain ⟨answers, rows⟩ := rows_run distinct run fair
  have split : sentIn (rounds ++ [⟨s, t, after⟩]) = sentIn rounds ++ t.flatMap Moment.sent := by
    simp [sentIn]
  have winner : ∀ u ∈ t.flatMap Moment.sent, u.operation = .update →
      u ∈ (Batch.build (s.pending department) maxCreates).updates := by
    intro u mem update
    obtain ⟨m, hm, sent⟩ := List.mem_flatMap.1 mem
    exact mem_updates_of_sent run hm sent update
  have waits : ∀ u ∈ t.flatMap Moment.sent, u.operation = .update →
      u ∈ s.attempts ∧ u.WaitsFor u.event := by
    intro u mem update
    have waits := (Batch.selection_of _).mem u (Batch.mem_updates.1 (winner u mem update))
    obtain ⟨listed, pending, -⟩ := Batch.mem_waiting.1 waits
    exact ⟨(Store.mem_pending.1 listed).1, pending, update, rfl⟩
  have covers_all : ∀ v ∈ sentIn rounds ++ t.flatMap Moment.sent, v.operation = .update →
      Covers s.attempts v := by
    intro v mem update
    rcases List.mem_append.1 mem with past | now
    · exact covers v past update
    · exact covers_self (waits v now update).1 (waits v now update).2
  have moves : Moves True s.attempts after.attempts :=
    (moves_of_timely distinct run fun m mem => (fair m mem).1).1.1
  refine ⟨moves.nodup distinct, ?_, ?_, ?_⟩
  · rw [split]
    exact fun v mem update => rows.covers distinct (covers_all v mem update)
  · rw [split, List.pairwise_append]
    refine ⟨ordered, ?_, ?_⟩
    · apply List.pairwise_of_forall_mem_list
      intro v hv u hu update update' same
      exact notAfter_sent (covers_all v (List.mem_append_right _ hv) update) (winner u hu update') same
    · intro v hv u hu update update' same
      exact notAfter_sent (covers_all v (List.mem_append_left _ hv) update) (winner u hu update') same
  · refine List.forall_mem_append.2 ⟨leaves, List.forall_mem_singleton.2 ?_⟩
    rintro u hu update closed ⟨b, hb, same, pending⟩ p hp waits
    exact rows.notAfter_waiting distinct hb pending same hu update closed hp waits

/-- No window overtakes a newer one: the updates of an event are sent in the order of their recency,
and no cycle leaves an update waiting that is older than one of the event that it closed. -/
theorem sent_in_order {rounds : List Round} (distinct : (s₀.attempts.map (·.id)).Nodup)
    (traffic : Traffic s₀ rounds s)
    (fair : ∀ r ∈ rounds, ∀ m ∈ r.trace, m.Stored ∧ m.Timely) :
    (sentIn rounds).Pairwise InOrder ∧ ∀ r ∈ rounds, r.LeavesNewer := by
  have covered : Covered rounds s := by
    induction traffic with
    | start => exact ⟨distinct, by simp [sentIn], .nil, by simp⟩
    | cycle past run ih =>
      rw [List.forall_mem_append] at fair
      apply (ih fair.1).cycle run
      intro m mem
      obtain ⟨stored, timely⟩ := fair.2 _ (List.mem_singleton_self _) m mem
      exact ⟨timely, .inr stored⟩
    | insert past pending update newer ih => exact (ih fair).insert newer
  exact ⟨covered.ordered, covered.leaves⟩

/-- The sample after a cycle, when another update of its first event has been added. -/
def sampleLater : World :=
  let w := (World.run (Cycle.run World.samplePolicy 10 "rooms") World.sample).1
  let later := World.atSecond 3000
  { w with
    clock := later
    issued := 51
    store := w.store.insertAttempt
      (.pending (issuedId 50) (.ofNat 1) .update ⟨later, later⟩ later) }

/-- In the sample the first cycle sends an update that a second one repeats with its new window. -/
theorem sent_in_order_sample : ∃ rounds s, Traffic World.sample.store rounds s ∧
    ((sentIn rounds).filter fun a => a.operation == .update).length = 2 ∧
    (sentIn rounds).Pairwise InOrder := by
  obtain ⟨_, first, -⟩ := World.exists_runs World.sample
    (Cycle.run World.samplePolicy 10 "rooms") rfl (by decide +kernel)
  obtain ⟨_, second, -⟩ := World.exists_runs sampleLater
    (Cycle.run World.samplePolicy 10 "rooms") (by decide +kernel) (by decide +kernel)
  let later := World.atSecond 3000
  have added := (Traffic.start.cycle first).insert
    (u := .pending (issuedId 50) (.ofNat 1) .update ⟨later, later⟩ later) rfl rfl (by decide +kernel)
  have traffic := added.cycle second
  obtain ⟨ordered, -⟩ := sent_in_order (by decide +kernel) traffic (by decide +kernel)
  exact ⟨_, _, traffic, by decide +kernel, ordered⟩

end Cycle
end CalendarSync
