import CalendarSync.Proofs.Seniority
import CalendarSync.Proofs.Serving

/-!
# The backlog of creates

Creates beyond the cap of a cycle wait for the next one. Before each cycle of a series the backlog is
what is left of the first one, followed by creates that have been proposed again since then: a batch
takes the oldest creates, and what is proposed again is more recent than all that waits. So the
creates of the first backlog go out in their order, as many in each cycle as the cap allows.
-/

namespace CalendarSync.Cycle
set_option autoImplicit false
open Program Simulation

variable {policy : CallPolicy} {maxCreates k : Nat} {department : String} {s₀ s after : Store}
  {t : List Moment} {result : Except DomainError CycleReport} {accept : ItemResult → Bool}
  {outcome? : Attempt → Option Completion} {resends first : List Attempt} {a r : Attempt}

/-- The creates that wait in a department, from the oldest on. -/
def backlog (department : String) (s : Store) : List Attempt :=
  Attempt.oldestFirst (Batch.waiting (s.pending department) .create)

theorem mem_backlog :
    a ∈ backlog department s ↔ a ∈ s.pending department ∧ a.operation = .create := by
  rw [backlog, Attempt.mem_oldestFirst, Batch.mem_waiting]
  refine and_congr_right fun mem => and_iff_right (Store.mem_pending.1 mem).2.1

theorem nodup_backlog (distinct : (s.attempts.map (·.id)).Nodup) :
    ((backlog department s).map (·.id)).Nodup :=
  ((Attempt.oldestFirst_perm _).map _).nodup_iff.2
    (Attempt.nodup_filter (Attempt.nodup_filter distinct _) _)

/-! ## One cycle -/

/-- What a cycle proposes again is more recent than all that it found. -/
theorem Cleared.newer
    (cleared : Cleared accept maxCreates department s outcome? resends after)
    (distinct : (s.attempts.map (·.id)).Nodup)
    (succeeds : Attempt.Succeeds s.attempts after.attempts) (again : r ∈ resends) :
    ∀ a ∈ s.attempts, a.NotAfter r ∧ a.id ≠ r.id := by
  have distinct' := succeeds.distinct distinct
  rw [cleared.rows, List.map_append, List.nodup_append] at distinct'
  have other : ∀ a ∈ s.attempts, a.id ≠ r.id := fun a mem =>
    distinct'.2.2 _ (by simpa using ⟨a, mem, rfl⟩) _ (List.mem_map_of_mem again)
  have row : r ∈ after.attempts := cleared.rows ▸ List.mem_append_right _ again
  rcases succeeds.newer r row with ⟨a, mem, same⟩ | newer
  · exact absurd (congrArg Prod.fst same).symm (other a mem)
  · exact fun a mem => ⟨newer a mem, other a mem⟩

/-- The backlog after a cycle is what was left out, followed by what is proposed again. -/
theorem Cleared.exists_backlog_eq
    (cleared : Cleared accept maxCreates department s outcome? resends after)
    (distinct : (s.attempts.map (·.id)).Nodup)
    (succeeds : Attempt.Succeeds s.attempts after.attempts) :
    ∃ more, backlog department after = (backlog department s).drop maxCreates ++ more ∧
      ∀ r ∈ more, r ∈ resends := by
  let waiting := Batch.waiting (after.pending department) .create
  let left := (backlog department s).drop maxCreates
  let more := Attempt.oldestFirst (waiting.filter (· ∉ left))
  have new : ∀ r ∈ more, r ∈ waiting ∧ r ∉ left := fun r mem => by
    simpa using List.mem_filter.1 (Attempt.mem_oldestFirst.1 mem)
  have again : ∀ r ∈ more, r ∈ resends := by
    intro r mem
    obtain ⟨waits, out⟩ := new r mem
    exact (cleared.mem_of_mem_pending (Batch.mem_waiting.1 waits).1).resolve_left out
  have kept : ∀ a ∈ left, a ∈ waiting := by
    intro a mem
    obtain ⟨-, pending, create⟩ := Batch.mem_waiting.1 (Batch.mem_waiting_of_mem_deferred mem)
    exact Batch.mem_waiting.2 ⟨cleared.mem_pending_of_mem_deferred mem, pending, create⟩
  have distinct' : (waiting.map (·.id)).Nodup :=
    Attempt.nodup_filter (Attempt.nodup_filter (succeeds.distinct distinct) _) _
  have nodup : (left ++ more).Nodup := by
    refine List.nodup_append.2 ⟨?_, ?_, ?_⟩
    · exact (nodup_backlog distinct).of_map.sublist (List.drop_sublist _ _)
    · exact (Attempt.oldestFirst_perm _).nodup_iff.2 (distinct'.of_map.filter _)
    · rintro a mem r mem' rfl
      exact (new a mem').2 mem
  have perm : (left ++ more).Perm waiting := by
    refine (List.perm_ext_iff_of_nodup nodup distinct'.of_map).2 fun a => ?_
    simp only [List.mem_append]
    constructor
    · rintro (mem | mem)
      · exact kept a mem
      · exact (new a mem).1
    · intro waits
      by_cases mem : a ∈ left
      · exact .inl mem
      · exact .inr (Attempt.mem_oldestFirst.2 (List.mem_filter.2 ⟨waits, by simpa using mem⟩))
  have sorted : (left ++ more).Pairwise Attempt.NotAfter := by
    refine List.pairwise_append.2 ⟨?_, Attempt.pairwise_oldestFirst _, fun a mem r mem' => ?_⟩
    · exact (Attempt.pairwise_oldestFirst _).sublist (List.drop_sublist _ _)
    · obtain ⟨listed, -⟩ := mem_backlog.1 (List.mem_of_mem_drop mem)
      exact (cleared.newer distinct succeeds (again r mem') a (Store.mem_pending.1 listed).1).1
  exact ⟨more, Attempt.oldestFirst_eq_of_perm distinct' perm sorted, again⟩

/-! ## Cycles one after the other -/

/-- One cycle of a series, with the tables before it. -/
structure Lap where
  before : Store
  trace : List Moment
  result : Except DomainError CycleReport

/-- Cycles of a department one after the other. -/
inductive Laps (policy : CallPolicy) (maxCreates : Nat) (department : String) (s₀ : Store) :
    List Lap → Store → Prop where
  | start : Laps policy maxCreates department s₀ [] s₀
  | next {laps : List Lap} {s after : Store} {t : List Moment}
      {result : Except DomainError CycleReport}
      (past : Laps policy maxCreates department s₀ laps s)
      (run : Runs (Cycle.run policy maxCreates department) s t result after) :
      Laps policy maxCreates department s₀ (laps ++ [⟨s, t, result⟩]) after

/-- The cycles of a series date their new attempts. -/
theorem Laps.stamped {laps : List Lap} (series : Laps policy maxCreates department s₀ laps s) :
    ∀ lap ∈ laps, Stamped lap.trace := by
  induction series with
  | start => simp
  | next past run ih =>
    exact List.forall_mem_append.2 ⟨ih, List.forall_mem_singleton.2 (stamped_run run)⟩

/-- What the cycle number `k` of a series does about the creates that waited before the first one. -/
structure Lap.Drains (first : List Attempt) (maxCreates : Nat) (department : String) (k : Nat)
    (lap : Lap) : Prop where
  sent : ∀ rank a, first[rank]? = some a →
    (a.id ∈ (lap.trace.flatMap Moment.sent).map (·.id) ↔ k = rank / maxCreates)
  /-- They head the call of creates, in their order. -/
  ordered : ∀ group, (.create, group) ∈ posts lap.trace →
    ∃ others, group = (first.drop (k * maxCreates)).take maxCreates ++ others ∧
      ∀ other ∈ others, other.id ∉ first.map (·.id)
  deferred : ∃ report, lap.result = .ok report ∧ report.deferredCreates =
    (Batch.waiting (lap.before.pending department) .create).length - maxCreates

/-- Before the cycle number `k` of a series, the creates that waited at first have lost as many of
their number as the cycles before could send. -/
structure Draining (first : List Attempt) (maxCreates : Nat) (department : String) (k : Nat)
    (s : Store) : Prop where
  distinct : (s.attempts.map (·.id)).Nodup
  known : ∀ a ∈ first, ∃ row ∈ s.attempts, row.id = a.id ∧ row.operation = .create
  left : ∃ rest, backlog department s = first.drop (k * maxCreates) ++ rest ∧
    ∀ r ∈ rest, r.id ∉ first.map (·.id)

theorem Draining.start (distinct : (s.attempts.map (·.id)).Nodup) :
    Draining (Cycle.backlog department s) maxCreates department 0 s := by
  refine ⟨distinct, fun a mem => ?_, [], by simp, by simp⟩
  obtain ⟨listed, create⟩ := mem_backlog.1 mem
  exact ⟨a, (Store.mem_pending.1 listed).1, rfl, create⟩

theorem Draining.next (draining : Draining first maxCreates department k s)
    (cleared : Cleared accept maxCreates department s outcome? resends after)
    (succeeds : Attempt.Succeeds s.attempts after.attempts) :
    Draining first maxCreates department (k + 1) after := by
  obtain ⟨distinct, known, rest, backlog_eq, apart⟩ := draining
  obtain ⟨more, left, again⟩ := cleared.exists_backlog_eq distinct succeeds
  refine ⟨succeeds.distinct distinct, fun a mem => ?_, ?_⟩
  · obtain ⟨row, here, id, create⟩ := known a mem
    refine ⟨row.settle (outcome? row), ?_, by simpa using id, by simpa using create⟩
    rw [cleared.rows]
    exact List.mem_append_left _ (List.mem_map_of_mem here)
  · refine ⟨rest.drop (maxCreates - (first.drop (k * maxCreates)).length) ++ more, ?_,
      List.forall_mem_append.2 ⟨fun r mem => apart r (List.mem_of_mem_drop mem), fun r mem => ?_⟩⟩
    · rw [left, backlog_eq, List.drop_append, List.drop_drop, Nat.succ_mul, List.append_assoc]
    · intro old
      obtain ⟨a, here, same⟩ := List.mem_map.1 old
      obtain ⟨row, here, id, -⟩ := known a here
      exact (cleared.newer distinct succeeds (again r mem) row here).2 (id.trans same)

/-- The attempt at some place of a list is in one portion of it. -/
theorem mem_portion_iff {rank : Nat} (nodup : first.Nodup) (positive : 0 < maxCreates)
    (here : first[rank]? = some a) :
    a ∈ (first.drop (k * maxCreates)).take maxCreates ↔ k = rank / maxCreates := by
  rw [List.mem_iff_getElem?]
  constructor
  · rintro ⟨j, found⟩
    rw [List.getElem?_take] at found
    split at found
    case isFalse => cases found
    rename_i lt
    rw [List.getElem?_drop] at found
    have place : k * maxCreates + j = rank := by
      obtain ⟨bound, -⟩ := List.getElem?_eq_some_iff.1 found
      exact (List.getElem?_inj bound nodup).1 (found.trans here.symm)
    rw [← place, Nat.add_comm, Nat.add_mul_div_right _ _ positive, Nat.div_eq_of_lt lt,
      Nat.zero_add]
  · rintro rfl
    refine ⟨rank % maxCreates, ?_⟩
    rw [List.getElem?_take_of_lt (Nat.mod_lt _ positive), List.getElem?_drop, Nat.div_add_mod']
    exact here

theorem Draining.drains (draining : Draining first maxCreates department k s)
    (nodup : (first.map (·.id)).Nodup) (positive : 0 < maxCreates)
    (posts_eq : posts t = (Batch.build (s.pending department) maxCreates).groups)
    (reported : ∃ report, result = .ok report ∧ report.deferredCreates =
      (Batch.waiting (s.pending department) .create).length - maxCreates) :
    Lap.Drains first maxCreates department k ⟨s, t, result⟩ := by
  obtain ⟨distinct, known, rest, backlog_eq, apart⟩ := draining
  have creates : (Batch.build (s.pending department) maxCreates).group .create =
      (first.drop (k * maxCreates)).take maxCreates ++
        rest.take (maxCreates - (first.drop (k * maxCreates)).length) := by
    have taken : (Batch.build (s.pending department) maxCreates).group .create =
        (backlog department s).take maxCreates := rfl
    rw [taken, backlog_eq, List.take_append]
  have sent : t.flatMap Moment.sent = (Batch.build (s.pending department) maxCreates).attempts := by
    rw [flatMap_sent, posts_eq]
    simpa using (Batch.build (s.pending department) maxCreates).flatMap_groups fun _ => true
  refine ⟨fun rank a here => ?_, fun group posted => ?_, reported⟩
  · have mem : a ∈ first := List.mem_of_getElem? here
    rw [← mem_portion_iff (k := k) nodup.of_map positive here]
    show a.id ∈ (t.flatMap Moment.sent).map (·.id) ↔ _
    rw [sent]
    constructor
    · intro carried
      obtain ⟨b, carried, same⟩ := List.mem_map.1 carried
      obtain ⟨op, carried⟩ := Batch.mem_attempts.1 carried
      obtain ⟨listed, sorted⟩ := Batch.mem_of_mem_group carried
      obtain ⟨row, old, id, create⟩ := known a mem
      -- Its row tells that it is a create, and by its identifier it is none of the later ones.
      obtain rfl := Attempt.eq_of_id_eq distinct (Store.mem_pending.1 listed).1 old
        (same.trans id.symm)
      rw [← sorted, create, creates, List.mem_append] at carried
      rcases carried with portion | later
      · have own := List.mem_of_mem_drop (List.mem_of_mem_take portion)
        exact Attempt.eq_of_id_eq nodup own mem same ▸ portion
      · exact absurd (same ▸ List.mem_map_of_mem mem) (apart b (List.mem_of_mem_take later))
    · intro portion
      refine List.mem_map_of_mem (Batch.mem_attempts.2 ⟨.create, ?_⟩)
      rw [creates]
      exact List.mem_append_left _ portion
  · have posted : (Operation.create, group) ∈ posts t := posted
    rw [posts_eq, Batch.mem_groups] at posted
    refine ⟨_, posted.1.trans creates, fun other mem => apart other (List.mem_of_mem_take mem)⟩

section Series
variable {laps : List Lap}

/-- A series of cycles drains the backlog. -/
theorem draining_laps (distinct : (s₀.attempts.map (·.id)).Nodup)
    (tries : policy.backoff.maxAttempts ≠ 0) (positive : 0 < maxCreates)
    (series : Laps policy maxCreates department s₀ laps s)
    (served : ∀ lap ∈ laps, ∀ m ∈ lap.trace, m.Served accept ∧ m.Latest) :
    Draining (backlog department s₀) maxCreates department laps.length s ∧
      ∀ k (lap : Lap), laps[k]? = some lap →
        lap.Drains (backlog department s₀) maxCreates department k := by
  induction series with
  | start => exact ⟨.start distinct, by simp⟩
  | @next laps s after t result past run ih =>
    rw [List.forall_mem_append, List.forall_mem_singleton] at served
    obtain ⟨draining, drains⟩ := ih served.1
    obtain ⟨⟨outcome?, resends, cleared⟩, posts_eq, reported⟩ :=
      served_run draining.distinct tries run fun m mem => (served.2 m mem).1
    have succeeds := run.succeeds fun m mem => (served.2 m mem).2
    refine ⟨?_, fun k lap here => ?_⟩
    · rw [List.length_append]
      exact draining.next cleared succeeds
    · rw [List.getElem?_append] at here
      split at here
      · exact drains k lap here
      · rename_i late
        obtain ⟨last, rfl⟩ : k - laps.length = 0 ∧ lap = ⟨s, t, result⟩ := by
          simpa [List.getElem?_singleton, eq_comm] using here
        obtain rfl : k = laps.length := by omega
        exact draining.drains (nodup_backlog distinct) positive posts_eq reported

/-- A backlog without later creates is what is left of the first one. -/
theorem Draining.backlog_eq (draining : Draining first maxCreates department k s)
    (old : ∀ a ∈ backlog department s, a ∈ first) :
    backlog department s = first.drop (k * maxCreates) := by
  obtain ⟨rest, left, apart⟩ := draining.left
  have none : rest = [] := List.eq_nil_iff_forall_not_mem.2 fun r mem =>
    apart r mem (List.mem_map_of_mem (old r (left ▸ List.mem_append_right _ mem)))
  rw [left, none, List.append_nil]

/-- Where no failure is transient, only creates that were left out wait after a cycle. -/
theorem Cleared.mem_drop_of_lasting
    (cleared : Cleared accept maxCreates department s outcome? resends after)
    (lasting : ∀ r, accept r = true → r.isTransient = false) (mem : a ∈ after.pending department) :
    a ∈ (backlog department s).drop maxCreates := by
  obtain rfl := cleared.resends_eq_nil lasting
  exact (cleared.mem_of_mem_pending mem).resolve_right List.not_mem_nil

/-- Then nothing joins the backlog, and after the first cycle nothing else waits. -/
theorem lasting_laps (distinct : (s₀.attempts.map (·.id)).Nodup)
    (tries : policy.backoff.maxAttempts ≠ 0) (positive : 0 < maxCreates)
    (series : Laps policy maxCreates department s₀ laps s)
    (served : ∀ lap ∈ laps, ∀ m ∈ lap.trace, m.Served accept ∧ m.Latest)
    (lasting : ∀ r, accept r = true → r.isTransient = false) :
    backlog department s = (backlog department s₀).drop (laps.length * maxCreates) ∧
      (laps ≠ [] → ∀ a ∈ s.pending department, a ∈ backlog department s) := by
  have draining := (draining_laps distinct tries positive series served).1
  induction series with
  | start => exact ⟨by simp, fun none => absurd rfl none⟩
  | @next laps s after t result past run ih =>
    rw [List.forall_mem_append, List.forall_mem_singleton] at served
    rw [List.length_append, List.length_singleton] at draining ⊢
    have before := (draining_laps distinct tries positive past served.1).1
    obtain ⟨⟨outcome?, resends, cleared⟩, -, -⟩ :=
      served_run before.distinct tries run fun m mem => (served.2 m mem).1
    have left : ∀ a ∈ after.pending department,
        a ∈ (backlog department s₀).drop ((laps.length + 1) * maxCreates) := by
      intro a mem
      have left := cleared.mem_drop_of_lasting lasting mem
      rwa [(ih served.1 before).1, List.drop_drop, ← Nat.succ_mul] at left
    have same := draining.backlog_eq fun a mem =>
      List.mem_of_mem_drop (left a (mem_backlog.1 mem).1)
    exact ⟨same, fun _ a mem => same ▸ left a mem⟩

end Series

/-- What a series of cycles comes to. -/
structure Drained (maxCreates : Nat) (department : String) (s₀ : Store) (laps : List Lap)
    (s : Store) : Prop where
  drains : ∀ k (lap : Lap), laps[k]? = some lap →
    lap.Drains (backlog department s₀) maxCreates department k
  emptied : (∀ lap ∈ laps, ∀ m ∈ lap.trace, m.serves (fun r => !r.isTransient) = true) →
    1 ≤ laps.length → (backlog department s₀).length ≤ laps.length * maxCreates →
    s.pending department = []

/-- Cycles one after the other send the creates that waited at first in the order of their age, each
once and as many in each cycle as the cap allows, whatever becomes of those sent before; and without
transient failures nothing waits any more when the last of them has been sent. -/
theorem drained_laps {laps : List Lap} (distinct : (s₀.attempts.map (·.id)).Nodup)
    (tries : policy.backoff.maxAttempts ≠ 0) (positive : 1 ≤ maxCreates)
    (series : Laps policy maxCreates department s₀ laps s)
    (served : ∀ lap ∈ laps, ∀ m ∈ lap.trace, m.Served fun _ => true)
    (punctual : ∀ lap ∈ laps, ∀ m ∈ lap.trace, m.Punctual)
    (distinguished : ∀ lap ∈ laps, ∀ m ∈ lap.trace, m.Distinguished)
    (ranked : ∀ lap ∈ laps, ∀ m ∈ lap.trace, m.Ranked) :
    Drained maxCreates department s₀ laps s := by
  have latest : ∀ lap ∈ laps, ∀ m ∈ lap.trace, m.Latest := fun lap mem =>
    (series.stamped lap mem).latest (punctual lap mem) (distinguished lap mem) (ranked lap mem)
  refine ⟨?_, fun lasting some all => ?_⟩
  · exact (draining_laps distinct tries positive series fun lap mem m here =>
      ⟨served lap mem m here, latest lap mem m here⟩).2
  · have served' : ∀ lap ∈ laps, ∀ m ∈ lap.trace, (m.Served fun r => !r.isTransient) ∧ m.Latest :=
      fun lap mem m here => ⟨⟨(served lap mem m here).stored, (served lap mem m here).running,
        lasting lap mem m here⟩, latest lap mem m here⟩
    obtain ⟨left, only⟩ := lasting_laps distinct tries positive series served'
      fun r accepted => by simpa using accepted
    refine List.eq_nil_iff_forall_not_mem.2 fun a mem => ?_
    have waits := only (List.ne_nil_of_length_pos some) a mem
    rw [left, List.drop_eq_nil_of_le all] at waits
    cases waits

/-! ## A backlog in the world -/

/-- Creates that wait in a department, one for each event, besides an update. The Planner is at
first too busy for the oldest create. -/
def crowd (creates : List Uuid) (createdAt : Timestamp) : World :=
  let attempt (id event : Uuid) (op : Operation) : Attempt :=
    .pending id event op ⟨createdAt, createdAt⟩ createdAt
  let event (id : Uuid) (attempts : List Attempt) : Event :=
    ⟨id, "rooms", "item", false, createdAt, attempts⟩
  let busy : Reply := { Reply.standard with results := some [⟨.position 0, false, some 15⟩,
    ⟨.position 1, true, none⟩] }
  Session.world (World.atSecond 2000)
    (.ofEvents (event (.ofNat 7) [attempt (.ofNat 8) (.ofNat 7) .update] ::
      creates.map fun id => event id [attempt id id .create]) [])
    ⟨fun kind => if kind = .events .create then [busy] else [], [], []⟩ [] false

/-- Two cycles that finish in a world are a series with the moments that the world gave them. -/
theorem exists_laps {w : World} (tight : w.leaky = false)
    (first : World.isFinished (w.run (Cycle.run policy maxCreates department)) = true)
    (second : World.isFinished ((w.run (Cycle.run policy maxCreates department)).1.run
      (Cycle.run policy maxCreates department)) = true) :
    ∃ laps s, Laps policy maxCreates department w.store laps s ∧
      laps.map (·.trace) = [w.moments (Cycle.run policy maxCreates department),
        (w.run (Cycle.run policy maxCreates department)).1.moments
          (Cycle.run policy maxCreates department)] := by
  obtain ⟨_, run₁, tight₁⟩ := World.exists_runs w _ tight first
  obtain ⟨_, run₂, -⟩ := World.exists_runs _ _ tight₁ second
  exact ⟨_, _, (Laps.start.next run₁).next run₂, rfl⟩

/-- The second cycle for three creates sends the third one and repeats the first. -/
theorem drained_laps_crowd :
    let w := crowd [.ofNat 3, .ofNat 1, .ofNat 2] (World.atSecond 1000)
    ∃ laps s, Laps World.samplePolicy 2 "rooms" w.store laps s ∧
      laps.map (fun lap => (lap.trace.flatMap Moment.sent).map (·.id)) =
        [[.ofNat 1, .ofNat 2, .ofNat 8], [.ofNat 3, issuedId 2]] ∧
      Drained 2 "rooms" w.store laps s := by
  intro w
  let cycle := Cycle.run World.samplePolicy 2 "rooms"
  let traces := [w.moments cycle, (w.run cycle).1.moments cycle]
  -- The kernel can evaluate an order that is built by insertion.
  have known : World.isFinished (w.run cycle) = true ∧
      World.isFinished ((w.run cycle).1.run cycle) = true ∧
      traces.map (fun t => (t.flatMap Moment.sent).map (·.id)) =
        [[.ofNat 1, .ofNat 2, .ofNat 8], [.ofNat 3, issuedId 2]] ∧
      (∀ t ∈ traces, ∀ m ∈ t, m.Served fun _ => true) ∧ (∀ t ∈ traces, ∀ m ∈ t, m.Punctual) ∧
      (∀ t ∈ traces, ∀ m ∈ t, m.Distinguished) ∧ (∀ t ∈ traces, ∀ m ∈ t, m.Ranked) := by
    simp only [w, cycle, traces, Cycle.run, Batch.build, Attempt.oldestFirst_eq_foldr]
    decide +kernel
  obtain ⟨first, second, sent, served, punctual, distinguished, ranked⟩ := known
  obtain ⟨laps, s, series, here⟩ := exists_laps rfl first second
  change laps.map (·.trace) = traces at here
  simp only [← here, List.forall_mem_map, List.map_map] at sent served punctual distinguished ranked
  exact ⟨laps, s, series, sent, drained_laps (by decide +kernel) (by decide) (by decide) series
    served punctual distinguished ranked⟩

/-- Where the identifier of a repeated create is not greater than those of creates of the same
instant, the create that is proposed again goes out once more before one that still waits. -/
theorem overtaken_laps_crowd :
    let instant := World.atSecond 2000
    let older : Uuid := .ofNat 0xfffffffffffffffffffffffffffffffe
    let newer : Uuid := .ofNat 0xffffffffffffffffffffffffffffffff
    let w := crowd [older, newer] instant
    ∃ laps s, Laps World.samplePolicy 1 "rooms" w.store laps s ∧
      (w.store.attempts.map (·.id)).Nodup ∧
      (∀ lap ∈ laps, ∀ m ∈ lap.trace, m.Served fun _ => true) ∧
      (∀ lap ∈ laps, ∀ m ∈ lap.trace, m.Punctual) ∧
      (∀ lap ∈ laps, ∀ m ∈ lap.trace, m.Distinguished) ∧
      ¬ Drained 1 "rooms" w.store laps s := by
  intro instant older newer w
  let cycle := Cycle.run World.samplePolicy 1 "rooms"
  let traces := [w.moments cycle, (w.run cycle).1.moments cycle]
  have known : World.isFinished (w.run cycle) = true ∧
      World.isFinished ((w.run cycle).1.run cycle) = true ∧
      (∀ t ∈ traces, ∀ m ∈ t, m.Served fun _ => true) ∧ (∀ t ∈ traces, ∀ m ∈ t, m.Punctual) ∧
      (∀ t ∈ traces, ∀ m ∈ t, m.Distinguished) ∧
      (∀ t ∈ traces, newer ∉ (t.flatMap Moment.sent).map (·.id)) ∧
      (backlog "rooms" w.store)[1]?.map (·.id) = some newer := by
    simp only [w, instant, older, newer, cycle, traces, Cycle.run, Batch.build, backlog,
      Attempt.oldestFirst_eq_foldr]
    decide +kernel
  obtain ⟨first, second, served, punctual, distinguished, unsent, waits⟩ := known
  obtain ⟨laps, s, series, here⟩ := exists_laps rfl first second
  have both : laps.length = 2 := by simpa using congrArg List.length here
  change laps.map (·.trace) = traces at here
  simp only [← here, List.forall_mem_map] at served punctual distinguished unsent
  refine ⟨laps, s, series, by decide +kernel, served, punctual, distinguished, fun drained => ?_⟩
  obtain ⟨a, last, id⟩ := Option.map_eq_some_iff.1 waits
  have sent := ((drained.drains 1 laps[1] (by simp)).sent 1 a last).2 (by decide)
  exact unsent _ (List.getElem_mem _) (id ▸ sent)

end CalendarSync.Cycle
