import CalendarSync.Proofs.Batch
import CalendarSync.Proofs.Cycle
import Mathlib.Logic.Relation

/-!
# Cycles as moves

A cycle changes the table of attempts in small moves: a pending attempt is answered, and a transient
failure may be followed at once by a new attempt, which is the most recent of all. A storage that
fails can lose the new attempt. What every move preserves holds at every moment of a cycle, and every
attempt that is sent waits in the table.
-/

namespace CalendarSync
set_option autoImplicit false
open Program Simulation

/-- One change of a table of attempts; a lossy one may leave a transient failure without a new
attempt. -/
inductive Move (lossy : Prop) (rows : List Attempt) : List Attempt → Prop where
  | answer {a : Attempt} {c : Completion} (mem : a ∈ rows) (pending : a.isPending = true)
      (called : c.call.isSome = true) (lasting : lossy ∨ (a.complete c).isTransient = false) :
      Move lossy rows (Attempt.completeAt a.id c rows)
  | again {a : Attempt} {c : Completion} {id : Uuid} {createdAt : Timestamp} (mem : a ∈ rows)
      (pending : a.isPending = true) (called : c.call.isSome = true)
      (transient : (a.complete c).isTransient = true)
      (newer : ∀ b ∈ rows, b.createdAt ≤ createdAt ∧ b.id < id) :
      Move lossy rows (Attempt.completeAt a.id c rows ++ [a.again id a.operation createdAt])

/-- Any number of moves. -/
abbrev Moves (lossy : Prop) : List Attempt → List Attempt → Prop :=
  Relation.ReflTransGen (Move lossy)

theorem Move.loosen {lossy : Prop} {rows rows' : List Attempt} (move : Move lossy rows rows') :
    Move True rows rows' := by
  cases move with
  | answer mem pending called lasting => exact .answer mem pending called (.inl trivial)
  | again mem pending called transient newer => exact .again mem pending called transient newer

theorem Moves.loosen {lossy : Prop} {rows rows' : List Attempt} (moves : Moves lossy rows rows') :
    Moves True rows rows' :=
  Relation.ReflTransGen.mono (fun _ _ => Move.loosen) _ _ moves

/-- Moves keep the identifiers apart. -/
theorem Move.nodup {lossy : Prop} {rows rows' : List Attempt} (move : Move lossy rows rows')
    (distinct : (rows.map (·.id)).Nodup) : (rows'.map (·.id)).Nodup := by
  cases move with
  | answer mem pending called lasting => rwa [Attempt.map_id_completeAt]
  | @again a c fresh createdAt mem pending called transient newer =>
    have kept : ((Attempt.completeAt a.id c rows).map (·.id)).Nodup := by
      rwa [Attempt.map_id_completeAt]
    apply Attempt.nodup_append_of_lt kept
    intro b hb
    rcases (Attempt.mem_completeAt_iff distinct mem).1 hb with rfl | ⟨hb, -⟩
    · exact (newer a mem).2
    · exact (newer b hb).2

theorem Moves.nodup {lossy : Prop} {rows rows' : List Attempt} (moves : Moves lossy rows rows')
    (distinct : (rows.map (·.id)).Nodup) : (rows'.map (·.id)).Nodup := by
  induction moves with
  | refl => exact distinct
  | tail _ move ih => exact move.nodup ih

/-- Moves leave the old identifiers and creation times where they are, and what comes behind them is
more recent. -/
theorem Moves.grown {lossy : Prop} {rows rows' : List Attempt} (moves : Moves lossy rows rows') :
    ∃ new, (rows'.map fun a => (a.id, a.createdAt)) =
        (rows.map fun a => (a.id, a.createdAt)) ++ new ∧
      ∀ k ∈ new, ∀ a ∈ rows, a.createdAt ≤ k.2 ∧ a.id < k.1 := by
  have kept (id : Uuid) (c : Completion) (rows : List Attempt) :
      ((Attempt.completeAt id c rows).map fun a => (a.id, a.createdAt)) =
        rows.map fun a => (a.id, a.createdAt) := by
    rw [Attempt.completeAt, List.map_map]
    apply List.map_congr_left
    intro a _
    simp only [Function.comp_apply]
    split <;> rfl
  induction moves with
  | refl => exact ⟨[], by simp, by simp⟩
  | tail _ move ih =>
    obtain ⟨new, keys, newer⟩ := ih
    cases move with
    | answer mem pending called lasting => exact ⟨new, by rw [kept, keys], newer⟩
    | @again a c fresh createdAt mem pending called transient later =>
      refine ⟨new ++ [(fresh, createdAt)], ?_, ?_⟩
      · rw [List.map_append, kept, keys, List.append_assoc]
        rfl
      · intro k hk b hb
        rcases List.mem_append.1 hk with old | here
        · exact newer k old b hb
        · obtain rfl := List.mem_singleton.1 here
          have key : (b.id, b.createdAt) ∈ (rows.map fun a => (a.id, a.createdAt)) ++ new :=
            List.mem_append_left _ (List.mem_map.2 ⟨b, hb, rfl⟩)
          rw [← keys] at key
          obtain ⟨d, hd, same⟩ := List.mem_map.1 key
          obtain ⟨id, created⟩ := Prod.mk.inj same
          exact id ▸ created ▸ later d hd

namespace Cycle
variable {lossy : Prop} {s₀ s after : Store} {t : List Moment} {todo rest : List Attempt}
  {a : Attempt} {c : Completion}

/-- The tables have come from `s₀` by moves, and these attempts wait in them. -/
structure Under (lossy : Prop) (s₀ : Store) (todo : List Attempt) (s : Store) : Prop where
  moves : Moves lossy s₀.attempts s.attempts
  events : s.events = s₀.events
  distinct : (s.attempts.map (·.id)).Nodup
  once : (todo.map (·.id)).Nodup
  waits : ∀ a ∈ todo, a ∈ s.attempts ∧ a.isPending = true

/-- What every moment of a cycle shows: tables that have come from `s₀` by moves, attempts that are
sent or get an outcome only while they wait, outcomes that name a call, and new attempts that wait. -/
structure Shows (s₀ : Store) (m : Moment) : Prop where
  moves : Moves True s₀.attempts m.store.attempts
  events : m.store.events = s₀.events
  waits : ∀ a ∈ m.sent, a ∈ m.store.attempts ∧ a.isPending = true
  recorded : ∀ id c, m.recorded? = some (id, c) →
    c.call.isSome = true ∧ ∃ a ∈ m.store.attempts, a.id = id ∧ a.isPending = true
  added : ∀ a, m.added? = some a → a.isPending = true

theorem Under.alike (under : Under lossy s₀ todo s) (alike : s.Alike after) :
    Under lossy s₀ todo after := by
  obtain ⟨moves, events, distinct, once, waits⟩ := under
  rw [← alike.attempts] at moves distinct waits
  exact ⟨moves, alike.events.trans events, distinct, once, waits⟩

theorem Under.sublist (under : Under lossy s₀ todo s) (sub : rest.Sublist todo) :
    Under lossy s₀ rest s :=
  ⟨under.moves, under.events, under.distinct, under.once.sublist (sub.map _),
    fun a mem => under.waits a (sub.subset mem)⟩

/-- A moment that sends nothing and leaves the attempts alone shows the tables. -/
theorem Under.shows (under : Under lossy s₀ todo s) {m : Moment} (store : m.store = s)
    (quiet : m.sent = []) (leaves : m.LeavesAttempts) : Shows s₀ m := by
  subst store
  refine ⟨under.moves.loosen, under.events, ?_, ?_, ?_⟩
  · rw [quiet]
    exact fun a mem => by cases mem
  · rw [leaves.1]
    exact fun _ _ h => by cases h
  · rw [leaves.2]
    exact fun _ h => by cases h

/-- The first attempt that waits gets an outcome. -/
theorem Under.shows_recorded (under : Under lossy s₀ (a :: rest) s) (called : c.call.isSome = true) :
    Shows s₀ ⟨s, .completeAttempt a.id c, .ok ()⟩ := by
  obtain ⟨mem, pending⟩ := under.waits a List.mem_cons_self
  refine ⟨under.moves.loosen, under.events, by simp [Moment.sent], ?_, by simp [Moment.added?]⟩
  rintro id c' ⟨⟩
  exact ⟨called, a, mem, rfl, pending⟩

/-- An attempt that waits is added, or the storage fails. -/
theorem Under.shows_added (under : Under lossy s₀ todo s) (pending : a.isPending = true)
    (answer : Except DomainError Unit) : Shows s₀ ⟨s, .insertAttempt a, answer⟩ := by
  cases answer with
  | error e => exact under.shows rfl rfl ⟨rfl, rfl⟩
  | ok u =>
    refine ⟨under.moves.loosen, under.events, by simp [Moment.sent], by simp [Moment.recorded?], ?_⟩
    rintro b ⟨⟩
    exact pending

/-- The first attempt that waits is answered. -/
theorem Under.complete (under : Under lossy s₀ (a :: rest) s)
    (wrote : s.completeAttempt a.id c = .ok after) :
    after.attempts = Attempt.completeAt a.id c s.attempts ∧ after.events = s₀.events ∧
      (after.attempts.map (·.id)).Nodup ∧ (rest.map (·.id)).Nodup ∧
      ∀ b ∈ rest, b ∈ after.attempts ∧ b.isPending = true := by
  have mem : a ∈ s.attempts := (under.waits a List.mem_cons_self).1
  have changed := Store.completeAttempt_eq (c := c) under.distinct (List.mem_map_of_mem mem)
  rw [changed] at wrote
  obtain rfl := Except.ok.inj wrote
  have once := List.nodup_cons.1 under.once
  refine ⟨rfl, under.events, ?_, once.2, ?_⟩
  · show ((Attempt.completeAt a.id c s.attempts).map (·.id)).Nodup
    rw [Attempt.map_id_completeAt]
    exact under.distinct
  · intro b hb
    obtain ⟨here, pending⟩ := under.waits b (List.mem_cons_of_mem _ hb)
    refine ⟨(Attempt.mem_completeAt_iff under.distinct mem).2 (.inr ⟨here, ?_⟩), pending⟩
    intro same
    exact once.1 (List.mem_map.2 ⟨b, hb, same⟩)

/-- The first attempt that waits is answered for good. -/
theorem Under.answer (under : Under lossy s₀ (a :: rest) s)
    (wrote : s.completeAttempt a.id c = .ok after) (called : c.call.isSome = true)
    (lasting : lossy ∨ (a.complete c).isTransient = false) : Under lossy s₀ rest after := by
  obtain ⟨mem, pending⟩ := under.waits a List.mem_cons_self
  obtain ⟨rows, events, distinct, once, waits⟩ := under.complete wrote
  refine ⟨under.moves.tail ?_, events, distinct, once, waits⟩
  rw [rows]
  exact .answer mem pending called lasting

/-- The first attempt that waits fails, and is proposed again. -/
theorem Under.again (under : Under lossy s₀ (a :: rest) s) {middle : Store} {id : Uuid}
    {createdAt : Timestamp} (wrote : s.completeAttempt a.id c = .ok middle)
    (called : c.call.isSome = true) (transient : (a.complete c).isTransient = true)
    (later : ∀ b ∈ middle.attempts, b.createdAt ≤ createdAt)
    (greater : ∀ b ∈ middle.attempts, b.id < id) :
    Under lossy s₀ rest (middle.insertAttempt (a.again id a.operation createdAt)) := by
  obtain ⟨mem, pending⟩ := under.waits a List.mem_cons_self
  obtain ⟨rows, events, distinct, once, waits⟩ := under.complete wrote
  have newer : ∀ b ∈ s.attempts, b.createdAt ≤ createdAt ∧ b.id < id := by
    intro b hb
    rw [rows] at later greater
    have here : (if b.id = a.id then b.complete c else b) ∈ Attempt.completeAt a.id c s.attempts :=
      List.mem_map_of_mem hb
    have later := later _ here
    have greater := greater _ here
    split at later
    · exact ⟨later, by simpa [*] using greater⟩
    · exact ⟨later, by simpa [*] using greater⟩
  have move : Move lossy s.attempts
      (middle.insertAttempt (a.again id a.operation createdAt)).attempts := by
    rw [Store.attempts_insertAttempt, rows]
    exact .again mem pending called transient newer
  refine ⟨under.moves.tail move, events, move.nodup under.distinct, once, ?_⟩
  intro b hb
  obtain ⟨here, pending⟩ := waits b hb
  exact ⟨List.mem_append_left _ here, pending⟩

theorem Under.loosen (under : Under lossy s₀ todo s) : Under True s₀ todo s :=
  ⟨under.moves.loosen, under.events, under.distinct, under.once, under.waits⟩

/-- What is asked of the moments: a clock and identifiers that do not go back, and a storage that
fails only where failures are allowed for. -/
def Fair (lossy : Prop) (m : Moment) : Prop :=
  m.Timely ∧ (lossy ∨ m.Stored)

/-- Recording the answer for an attempt that waits. -/
theorem Under.record_one {call : Uuid} {results : List ItemResult} {syncedAt : Timestamp}
    {recorded recorded' : List (Uuid × Completion)} (under : Under lossy s₀ (a :: rest) s)
    (recording : Recording call results syncedAt recorded a s t recorded' after)
    (fair : ∀ m ∈ t, Fair lossy m) : Under lossy s₀ rest after ∧ ∀ m ∈ t, Shows s₀ m := by
  have named (r : ItemResult) := isSome_call_completion r syncedAt call
  cases recording with
  | unanswered unknown => exact ⟨under.sublist (List.sublist_cons_self _ _), by simp⟩
  | lost e found =>
    refine ⟨under.sublist (List.sublist_cons_self _ _), List.forall_mem_singleton.2 ?_⟩
    exact under.shows rfl rfl ⟨rfl, rfl⟩
  | closed found wrote lasting =>
    refine ⟨under.answer wrote (named _) (.inr lasting), List.forall_mem_singleton.2 ?_⟩
    exact under.shows_recorded (named _)
  | @again r middle after createdAt id answer found wrote transient proposed =>
    have between : Under True s₀ rest middle := under.loosen.answer wrote (named r) (.inl trivial)
    simp only [List.forall_mem_cons] at fair ⊢
    obtain ⟨-, ⟨later, -⟩, ⟨greater, -⟩, ⟨-, stored⟩, -⟩ := fair
    refine ⟨?_, under.shows_recorded (named r), between.shows rfl rfl ⟨rfl, rfl⟩,
      between.shows rfl rfl ⟨rfl, rfl⟩, between.shows_added rfl answer, by simp⟩
    cases answer with
    | ok u =>
      obtain rfl := Except.ok.inj proposed
      exact under.again wrote (named r) transient later greater
    | error e =>
      obtain rfl : after = middle := proposed
      have lost : lossy := stored.resolve_right (by simp [Moment.Stored, Moment.fault?])
      exact under.answer wrote (named r) (.inl lost)

/-- Recording the answer for a group that waits. -/
theorem Under.record_all {call : Uuid} {results : List ItemResult} {syncedAt : Timestamp}
    {group : List Attempt} {progress next : Progress} (under : Under lossy s₀ (group ++ rest) s)
    (called : Called progress.recorded)
    (run : Runs (group.foldlM (recordOne call results syncedAt) progress) s t next after)
    (fair : ∀ m ∈ t, Fair lossy m) :
    (Under lossy s₀ rest after ∧ Called next.recorded) ∧ ∀ m ∈ t, Shows s₀ m := by
  refine runs_foldlM (fun group progress s => Under lossy s₀ (group ++ rest) s ∧
    Called progress.recorded) ?_ ⟨under, called⟩ run fair
  rintro a group progress s t next after ⟨under, called⟩ run fair
  have recording := runs_recordOne run
  obtain ⟨under', shows_all⟩ := under.record_one recording fair
  exact ⟨⟨under', recording.called called⟩, shows_all⟩

/-- Closing updates that wait; with a storage that does not fail there are none. -/
theorem Under.close_all {b : Batch} {l : List Attempt} {progress next : Progress}
    (under : Under lossy s₀ (l ++ rest) s) (single : lossy ∨ l = [])
    (called : Called progress.recorded)
    (run : Runs (l.foldlM (closeOne b) progress) s t next after) (fair : ∀ m ∈ t, Fair lossy m) :
    (Under lossy s₀ rest after ∧ Called next.recorded) ∧ ∀ m ∈ t, Shows s₀ m := by
  rcases single with lost | rfl
  · refine runs_foldlM (fun l progress s => Under lossy s₀ (l ++ rest) s ∧
      Called progress.recorded) ?_ ⟨under, called⟩ run fair
    rintro a l progress s t next after ⟨under, called⟩ run -
    obtain ⟨closing, kept⟩ := runs_closeOne run
    rw [kept]
    cases closing with
    | kept unknown =>
      exact ⟨⟨under.sublist (List.sublist_cons_self _ _), called⟩, by simp⟩
    | lost e found =>
      refine ⟨⟨under.sublist (List.sublist_cons_self _ _), called⟩, List.forall_mem_singleton.2 ?_⟩
      exact under.shows rfl rfl ⟨rfl, rfl⟩
    | @closed c _ found wrote =>
      obtain ⟨w, -, lookup⟩ := Option.bind_eq_some_iff.1 found
      obtain ⟨before, behind, split, -⟩ := List.lookup_eq_some_iff.1 lookup
      have named : c.call.isSome = true := by
        refine called (w.id, c) ?_
        rw [split]
        exact List.mem_append_right _ List.mem_cons_self
      refine ⟨⟨under.answer wrote named (.inl lost), called⟩, List.forall_mem_singleton.2 ?_⟩
      exact under.shows_recorded named
  · obtain ⟨rfl, rfl, rfl⟩ := runs_pure_iff.1 run
    exact ⟨⟨under, called⟩, by simp⟩

/-- The attempts that the turns of groups may answer. -/
def toAnswer (queue : List Attempt) (b : Batch) (groups : List (Operation × List Attempt)) :
    List Attempt :=
  groups.flatMap fun g => g.2 ++ toClose queue b g.1

/-- A group is sent while it waits. -/
theorem Under.send {policy : CallPolicy} {op : Operation} {group : List Attempt}
    {answer : Except DomainError (Uuid × List ItemResult)}
    (under : Under lossy s₀ (group ++ rest) s)
    (run : Runs (sendGroup policy op group) s t answer after) :
    Under lossy s₀ (group ++ rest) after ∧ ∀ m ∈ t, Shows s₀ m := by
  obtain ⟨alike, sending, -⟩ := runs_sendGroup run
  refine ⟨under.alike alike, fun m mem => ?_⟩
  have under := under.alike (sending m mem).alike
  rcases (sending m mem).sent with quiet | group
  · exact under.shows rfl quiet (sending m mem).idle.leavesAttempts
  · obtain ⟨unrecorded, unadded⟩ := (sending m mem).idle.leavesAttempts
    refine ⟨under.moves.loosen, under.events, ?_, ?_, ?_⟩
    · rw [group]
      exact fun a sent => under.waits a (List.mem_append_left _ sent)
    · rw [unrecorded]
      exact fun _ _ h => by cases h
    · rw [unadded]
      exact fun _ h => by cases h

/-- Sending groups one after the other. -/
theorem Under.send_groups {policy : CallPolicy} {queue : List Attempt} {b : Batch}
    {groups : List (Operation × List Attempt)} {progress : Progress}
    {result : Except DomainError CycleReport} (under : Under lossy s₀ (toAnswer queue b groups) s)
    (single : lossy ∨ ∀ op, toClose queue b op = []) (called : Called progress.recorded)
    (run : Runs (sendGroups policy queue b groups progress) s t result after)
    (fair : ∀ m ∈ t, Fair lossy m) :
    (Moves lossy s₀.attempts after.attempts ∧ after.events = s₀.events) ∧ ∀ m ∈ t, Shows s₀ m := by
  induction groups generalizing s t progress with
  | nil =>
    obtain ⟨rfl, rfl⟩ := runs_sendGroups_nil run
    exact ⟨⟨under.moves, under.events⟩, by simp⟩
  | cons head groups ih =>
    obtain ⟨op, group⟩ := head
    have under : Under lossy s₀ (group ++ (toClose queue b op ++ toAnswer queue b groups)) s := by
      rw [← List.append_assoc]
      exact under
    cases runs_sendGroups_cons run with
    | shutdown sent =>
      obtain ⟨under₁, shows₁⟩ := under.send sent
      exact ⟨⟨under₁.moves, under₁.events⟩, shows₁⟩
    | failed sent kept more =>
      obtain ⟨under₁, shows₁⟩ := under.send sent
      rw [List.forall_mem_append] at fair
      have left : Under lossy s₀ (toAnswer queue b groups) _ :=
        under₁.sublist ((List.sublist_append_right _ _).trans (List.sublist_append_right _ _))
      obtain ⟨done, shows₂⟩ := ih left (kept ▸ called) more fair.2
      exact ⟨done, List.forall_mem_append.2 ⟨shows₁, shows₂⟩⟩
    | answered sent kept recording closing more =>
      simp only [List.forall_mem_append, List.forall_mem_cons] at fair ⊢
      obtain ⟨-, -, fair₂, fair₃, fair₄⟩ := fair
      obtain ⟨under₁, shows₁⟩ := under.send sent
      obtain ⟨⟨under₂, called₂⟩, shows₂⟩ := under₁.record_all (kept ▸ called) recording fair₂
      have single_op : lossy ∨ toClose queue b op = [] := single.imp_right fun none => none op
      obtain ⟨⟨under₃, called₃⟩, shows₃⟩ := under₂.close_all single_op called₂ closing fair₃
      obtain ⟨done, shows₄⟩ := ih under₃ called₃ more fair₄
      exact ⟨done, shows₁, under₁.shows rfl rfl ⟨rfl, rfl⟩, shows₂, shows₃, shows₄⟩

/-- The attempts that a cycle may answer wait in its queue, each of them once. -/
theorem under_toAnswer {queue : List Attempt} {maxCreates : Nat}
    (distinct : (s.attempts.map (·.id)).Nodup) (sub : queue.Sublist s.attempts) :
    Under lossy s (toAnswer queue (Batch.build queue maxCreates)
      (Batch.build queue maxCreates).groups) s := by
  have own : (queue.map (·.id)).Nodup := distinct.sublist (sub.map _)
  have waits : ∀ g ∈ (Batch.build queue maxCreates).groups,
      ∀ a ∈ g.2 ++ toClose queue (Batch.build queue maxCreates) g.1,
        a ∈ queue ∧ a.isPending = true ∧ a.operation = g.1 := by
    intro g hg a ha
    rcases List.mem_append.1 ha with sent | close
    · rw [(Batch.mem_groups.1 hg).1] at sent
      exact Batch.mem_waiting.1 (Batch.mem_waiting_of_mem_group sent)
    · obtain ⟨update, listed, superseded⟩ := mem_toClose.1 close
      obtain ⟨pending, op, -⟩ := (Batch.mem_superseded_iff own listed).1 superseded
      exact ⟨listed, pending, op.trans update.symm⟩
  have each : ∀ g ∈ (Batch.build queue maxCreates).groups,
      (g.2 ++ toClose queue (Batch.build queue maxCreates) g.1).Nodup := by
    intro g hg
    have group := (Batch.mem_groups.1 hg).1
    refine List.nodup_append.2 ⟨?_, ?_, ?_⟩
    · rw [group]
      exact (Batch.nodup_group own).of_map
    · unfold toClose
      split
      · exact own.of_map.filter _
      · exact .nil
    · rintro a sent b close rfl
      obtain ⟨update, listed, superseded⟩ := mem_toClose.1 close
      rw [group, update] at sent
      exact ((Batch.mem_superseded_iff own listed).1 superseded).2.2 sent
  have apart : (Batch.build queue maxCreates).groups.Pairwise fun g g' => g.1 ≠ g'.1 :=
    List.pairwise_map.1 (Batch.nodup_groups _)
  have nodup : (toAnswer queue (Batch.build queue maxCreates)
      (Batch.build queue maxCreates).groups).Nodup := by
    refine List.nodup_flatMap.2 ⟨each, apart.imp_of_mem fun {g g'} hg hg' ne => ?_⟩
    intro a ha ha'
    exact ne ((waits g hg a ha).2.2.symm.trans (waits g' hg' a ha').2.2)
  have listed : ∀ a ∈ toAnswer queue (Batch.build queue maxCreates)
      (Batch.build queue maxCreates).groups, a ∈ queue ∧ a.isPending = true := by
    intro a ha
    obtain ⟨g, hg, ha⟩ := List.mem_flatMap.1 ha
    obtain ⟨here, pending, -⟩ := waits g hg a ha
    exact ⟨here, pending⟩
  refine ⟨.refl, rfl, distinct, nodup.map_on fun a ha b hb same => ?_, fun a ha => ?_⟩
  · exact Attempt.eq_of_id_eq own (listed a ha).1 (listed b hb).1 same
  · exact ⟨sub.subset (listed a ha).1, (listed a ha).2⟩

/-- What a cycle does: moves on the table of attempts, which every moment shows in the making. -/
theorem moves_run {policy : CallPolicy} {maxCreates : Nat} {department : String}
    {result : Except DomainError CycleReport} (distinct : (s.attempts.map (·.id)).Nodup)
    (single : lossy ∨ ∀ op, toClose (s.pending department)
      (Batch.build (s.pending department) maxCreates) op = [])
    (run : Runs (Cycle.run policy maxCreates department) s t result after)
    (fair : ∀ m ∈ t, Fair lossy m) :
    (Moves lossy s.attempts after.attempts ∧ after.events = s.events) ∧ ∀ m ∈ t, Shows s m := by
  have under : Under lossy s (toAnswer (s.pending department)
      (Batch.build (s.pending department) maxCreates)
      (Batch.build (s.pending department) maxCreates).groups) s :=
    under_toAnswer distinct List.filter_sublist
  obtain ⟨e, rfl, rfl, -⟩ | ⟨rest, rfl, sent⟩ := runs_run run
  · refine ⟨⟨.refl, rfl⟩, fun m mem => ?_⟩
    obtain rfl := List.mem_singleton.1 mem
    exact under.shows rfl rfl ⟨rfl, rfl⟩
  · rw [List.forall_mem_cons] at fair ⊢
    have called : Called [] := fun _ h => by cases h
    obtain ⟨done, shows_all⟩ := under.send_groups single called sent fair.2
    exact ⟨done, under.shows rfl rfl ⟨rfl, rfl⟩, shows_all⟩

/-- The moves of a cycle, whatever requests to the storage fail. -/
theorem moves_of_timely {policy : CallPolicy} {maxCreates : Nat} {department : String}
    {result : Except DomainError CycleReport} (distinct : (s.attempts.map (·.id)).Nodup)
    (run : Runs (Cycle.run policy maxCreates department) s t result after)
    (timely : ∀ m ∈ t, m.Timely) :
    (Moves True s.attempts after.attempts ∧ after.events = s.events) ∧ ∀ m ∈ t, Shows s m :=
  moves_run distinct (.inl trivial) run fun m mem => ⟨timely m mem, .inl trivial⟩

end Cycle
end CalendarSync
