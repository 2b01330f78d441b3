import CalendarSync.Proofs.Clearing
import CalendarSync.Proofs.Deletion
import CalendarSync.Proofs.Footprint
import CalendarSync.Proofs.Growth
import CalendarSync.Proofs.Orderly

/-!
# What is left over when an event is deleted

Nothing is proposed any more for an event that has been flagged, but if the Planner holds its item
then an update that waits is not withdrawn. Such an update can outlive the delete, when its group
fails, when it is left unanswered, or when it fails for now and is proposed again. It is all that can
follow a delete.
-/

namespace CalendarSync
set_option autoImplicit false
open Program Simulation Attempt

/-! ## A table as a flagged event sees it -/

section Shifts
variable {event : Uuid} {old rows rows' : List Attempt} {a b d r u : Attempt} {c : Completion}

/-- One change of a table of attempts after the event has been flagged: a move of a cycle, an attempt
that is withdrawn, or a new attempt for another event. -/
inductive Shift (event : Uuid) (rows : List Attempt) : List Attempt → Prop where
  | move {rows' : List Attempt} (move : Move True rows rows') : Shift event rows rows'
  | withdrawn {a : Attempt} {c : Completion} (mem : a ∈ rows) (pending : a.isPending = true) :
      Shift event rows (completeAt a.id c rows)
  | proposed {r : Attempt} (elsewhere : r.event ≠ event) (newer : ∀ b ∈ rows, b.id < r.id) :
      Shift event rows (rows ++ [r])

/-- Any number of such changes. -/
abbrev Shifts (event : Uuid) : List Attempt → List Attempt → Prop :=
  Relation.ReflTransGen (Shift event)

theorem Moves.shifts (moves : Moves True rows rows') : Shifts event rows rows' :=
  Relation.ReflTransGen.mono (fun _ _ => Shift.move) _ _ moves

theorem Shift.nodup (shift : Shift event rows rows') (distinct : (rows.map (·.id)).Nodup) :
    (rows'.map (·.id)).Nodup := by
  cases shift with
  | move move => exact move.nodup distinct
  | withdrawn mem pending => rwa [map_id_completeAt]
  | proposed elsewhere newer => exact nodup_append_of_lt distinct newer

/-- The attempt stems from another one: it is this one itself, whatever has become of it, or it was
proposed again for one that stems from it. -/
inductive Attempt.Stems (rows : List Attempt) (u : Attempt) : Attempt → Prop where
  | root {a : Attempt} (mem : a ∈ rows) (same : a.proposal = u.proposal) : Stems rows u a
  | again {a b : Attempt} (stems : Stems rows u a) (closed : a.isPending = false) (mem : b ∈ rows)
      (repeated : a.RepeatedBy b) : Stems rows u b

namespace Attempt.Stems

theorem mem (stems : Stems rows u a) : a ∈ rows := by
  cases stems with
  | root mem same => exact mem
  | again stems closed mem repeated => exact mem

theorem about (stems : Stems rows u a) : a.event = u.event ∧ a.operation = u.operation := by
  induction stems with
  | root mem same =>
    simp only [proposal, Prod.mk.injEq] at same
    exact ⟨same.2.1, same.2.2.1⟩
  | again stems closed mem repeated ih =>
    exact ⟨repeated.event.symm.trans ih.1, repeated.operation.symm.trans ih.2⟩

theorem append (stems : Stems rows u a) (more : List Attempt) : Stems (rows ++ more) u a := by
  induction stems with
  | root mem same => exact .root (List.mem_append_left _ mem) same
  | again stems closed mem repeated ih =>
    exact .again ih closed (List.mem_append_left _ mem) repeated

/-- An outcome for an attempt that waits changes at most the last one of a chain. -/
theorem completeAt (stems : Stems rows u a) (distinct : (rows.map (·.id)).Nodup) (mem : d ∈ rows)
    (pending : d.isPending = true) :
    Stems (completeAt d.id c rows) u (if a.id = d.id then a.complete c else a) := by
  induction stems with
  | @root a here same =>
    refine .root (List.mem_map_of_mem here) ?_
    split
    · exact same
    · exact same
  | @again a b stems closed here repeated ih =>
    have other : a.id ≠ d.id := by
      intro own
      rw [eq_of_id_eq distinct stems.mem mem own, pending] at closed
      cases closed
    rw [if_neg other] at ih
    refine .again ih closed (List.mem_map_of_mem here) ?_
    split
    · exact repeated.complete c
    · exact repeated

end Attempt.Stems

/-- Whatever waits for the event and is no delete stems from what waited before. -/
def Heirs (event : Uuid) (old rows : List Attempt) : Prop :=
  ∀ a ∈ rows, a.event = event → a.operation ≠ .delete → a.isPending = true →
    ∃ u ∈ old, u.isPending = true ∧ Stems rows u a

namespace Heirs

theorem refl (event : Uuid) (rows : List Attempt) : Heirs event rows rows :=
  fun a mem _ _ pending => ⟨a, mem, pending, .root mem rfl⟩

theorem answer (heirs : Heirs event old rows) (distinct : (rows.map (·.id)).Nodup) (mem : d ∈ rows)
    (pending : d.isPending = true) : Heirs event old (completeAt d.id c rows) := by
  intro a here own other waits
  rcases (mem_completeAt_iff distinct mem).1 here with rfl | ⟨here, apart⟩
  · cases waits
  · obtain ⟨u, listed, open_u, stems⟩ := heirs a here own other waits
    have stems := stems.completeAt (c := c) distinct mem pending
    rw [if_neg apart] at stems
    exact ⟨u, listed, open_u, stems⟩

theorem append (heirs : Heirs event old rows)
    (new : r.event = event → r.operation ≠ .delete →
      ∃ u ∈ old, u.isPending = true ∧ Stems (rows ++ [r]) u r) : Heirs event old (rows ++ [r]) := by
  intro a mem own other pending
  rcases List.mem_append.1 mem with here | added
  · obtain ⟨u, listed, open_u, stems⟩ := heirs a here own other pending
    exact ⟨u, listed, open_u, stems.append _⟩
  · obtain rfl := List.mem_singleton.1 added
    exact new own other

theorem move (heirs : Heirs event old rows) (distinct : (rows.map (·.id)).Nodup)
    (move : Move True rows rows') : Heirs event old rows' := by
  cases move with
  | answer mem pending called lasting => exact heirs.answer distinct mem pending
  | @again a c id createdAt mem pending called transient newer =>
    refine (heirs.answer distinct mem pending).append fun own other => ?_
    obtain ⟨u, listed, open_u, stems⟩ := heirs a mem own other pending
    have stems := stems.completeAt (c := c) distinct mem pending
    rw [if_pos rfl] at stems
    refine ⟨u, listed, open_u, .again (stems.append _) rfl (by simp) ?_⟩
    exact ⟨transient, rfl, rfl, rfl, (newer a mem).1, (newer a mem).2⟩

theorem shift (heirs : Heirs event old rows) (distinct : (rows.map (·.id)).Nodup)
    (shift : Shift event rows rows') : Heirs event old rows' := by
  cases shift with
  | move move => exact heirs.move distinct move
  | withdrawn mem pending => exact heirs.answer distinct mem pending
  | proposed elsewhere newer => exact heirs.append fun own => absurd own elsewhere

theorem of_shifts (shifts : Shifts event rows rows') (distinct : (rows.map (·.id)).Nodup) :
    Heirs event rows rows' := by
  suffices (rows'.map (·.id)).Nodup ∧ Heirs event rows rows' from this.2
  induction shifts with
  | refl => exact ⟨distinct, .refl event rows⟩
  | tail _ shift ih => exact ⟨shift.nodup ih.1, ih.2.shift ih.1 shift⟩

end Heirs
end Shifts

/-! ## From one call to the next -/

namespace Cycle
variable {s s₀ after : Store} {t t' : List Moment} {policy : CallPolicy}

theorem Shows.of_alike {m : Moment} (shows_m : Shows s m) (alike : s.Alike after) :
    Shows after m := by
  obtain ⟨moves, events, waits, recorded, added⟩ := shows_m
  exact ⟨alike.attempts ▸ moves, events.trans alike.events.symm, waits, recorded, added⟩

/-- What follows a call has come by moves from the tables that the call shows. -/
structure Resumed (t : List Moment) (after : Store) : Prop where
  shown : t.Pairwise fun m m' => m.sent ≠ [] → Shows m.store m'
  left : ∀ m ∈ t, m.sent ≠ [] →
    Moves True m.store.attempts after.attempts ∧ after.events = m.store.events

namespace Resumed

theorem nil (after : Store) : Resumed [] after :=
  ⟨.nil, by simp⟩

/-- Moments that send nothing may come first. -/
theorem quiet (quiet : ∀ m ∈ t, m.sent = []) (rest : Resumed t' after) :
    Resumed (t ++ t') after := by
  refine ⟨List.pairwise_append.2 ⟨?_, rest.shown, ?_⟩, List.forall_mem_append.2 ⟨?_, rest.left⟩⟩
  · exact List.pairwise_of_forall_mem_list fun m mem _ _ sent => absurd (quiet m mem) sent
  · exact fun m mem _ _ sent => absurd (quiet m mem) sent
  · exact fun m mem sent => absurd (quiet m mem) sent

theorem cons {m : Moment} (silent : m.sent = []) (rest : Resumed t after) :
    Resumed (m :: t) after :=
  rest.quiet (t := [m]) (List.forall_mem_singleton.2 silent)

/-- Moments that show the tables as they are at first may come first. -/
theorem calls (alike : ∀ m ∈ t, s.Alike m.store) (shows_all : ∀ m ∈ t ++ t', Shows s m)
    (moves : Moves True s.attempts after.attempts) (events : after.events = s.events)
    (rest : Resumed t' after) : Resumed (t ++ t') after := by
  rw [List.forall_mem_append] at shows_all
  refine ⟨List.pairwise_append.2 ⟨?_, rest.shown, ?_⟩, List.forall_mem_append.2 ⟨?_, rest.left⟩⟩
  · exact List.pairwise_of_forall_mem_list fun m mem m' mem' _ =>
      (shows_all.1 m' mem').of_alike (alike m mem)
  · exact fun m mem m' mem' _ => (shows_all.2 m' mem').of_alike (alike m mem)
  · intro m mem _
    rw [(alike m mem).attempts, (alike m mem).events]
    exact ⟨moves, events⟩

end Resumed

/-- Sending groups one after the other. -/
theorem Under.resumed {queue : List Attempt} {b : Batch} {groups : List (Operation × List Attempt)}
    {progress : Progress} {result : Except DomainError CycleReport}
    (under : Under True s₀ (toAnswer queue b groups) s) (called : Called progress.recorded)
    (run : Runs (sendGroups policy queue b groups progress) s t result after)
    (fair : ∀ m ∈ t, Fair True m) : Resumed t after := by
  induction groups generalizing s₀ s t progress with
  | nil =>
    obtain ⟨rfl, rfl⟩ := runs_sendGroups_nil run
    exact .nil _
  | cons head groups ih =>
    obtain ⟨op, group⟩ := head
    -- The call of the first group shows the tables as they are now.
    have here : Under True s (toAnswer queue b ((op, group) :: groups)) s :=
      ⟨.refl, rfl, under.distinct, under.once, under.waits⟩
    obtain ⟨⟨moves, events⟩, shows_all⟩ := here.send_groups (.inl trivial) called run fair
    have here : Under True s (group ++ (toClose queue b op ++ toAnswer queue b groups)) s := by
      rw [← List.append_assoc]
      exact here
    cases runs_sendGroups_cons run with
    | shutdown sent =>
      obtain ⟨-, sending, -⟩ := runs_sendGroup sent
      rw [← List.append_nil t] at shows_all ⊢
      exact .calls (fun m mem => (sending m mem).alike) shows_all moves events (.nil _)
    | failed sent kept more =>
      obtain ⟨-, sending, -⟩ := runs_sendGroup sent
      rw [List.forall_mem_append] at fair
      have rest : Under True s (toAnswer queue b groups) _ := (here.send sent).1.sublist
        ((List.sublist_append_right _ _).trans (List.sublist_append_right _ _))
      exact .calls (fun m mem => (sending m mem).alike) shows_all moves events
        (ih rest (kept ▸ called) more fair.2)
    | answered sent kept recording closing more =>
      obtain ⟨-, sending, -⟩ := runs_sendGroup sent
      simp only [List.forall_mem_append, List.forall_mem_cons] at fair
      obtain ⟨-, -, fair₂, fair₃, fair₄⟩ := fair
      obtain ⟨⟨under₂, called₂⟩, -⟩ := (here.send sent).1.record_all (kept ▸ called) recording fair₂
      obtain ⟨⟨under₃, called₃⟩, -⟩ := under₂.close_all (.inl trivial) called₂ closing fair₃
      have later := ih under₃ called₃ more fair₄
      have later := later.quiet fun m mem => (quiet_close closing m mem).sent
      have later := later.quiet fun m mem => (quiet_record recording m mem).sent
      exact .calls (fun m mem => (sending m mem).alike) shows_all moves events (.cons rfl later)

/-- What follows a call of a cycle. -/
theorem resumed_run {maxCreates : Nat} {department : String}
    {result : Except DomainError CycleReport} (distinct : (s.attempts.map (·.id)).Nodup)
    (run : Runs (Cycle.run policy maxCreates department) s t result after)
    (timely : ∀ m ∈ t, m.Timely) : Resumed t after := by
  obtain ⟨e, rfl, -⟩ | ⟨rest, rfl, sent⟩ := runs_run run
  · exact .cons rfl (.nil after)
  · have under : Under True s (toAnswer (s.pending department)
        (Batch.build (s.pending department) maxCreates)
        (Batch.build (s.pending department) maxCreates).groups) s :=
      under_toAnswer distinct List.filter_sublist
    rw [List.forall_mem_cons] at timely
    have called : Called [] := fun _ h => by cases h
    exact .cons rfl (under.resumed called sent fun m mem => ⟨timely.2 m mem, .inl trivial⟩)

end Cycle

/-! ## Along a history -/

section History
variable {s after : Store} {t : List Moment} {event id : Uuid}

/-- What an operation does, as a flagged event sees it. -/
structure Shifted (event : Uuid) (s : Store) (t : List Moment) (after : Store) : Prop where
  flagged : after.Flagged event
  shifts : Shifts event s.attempts after.attempts
  calls : ∀ m ∈ t, m.sent ≠ [] → Shifts event s.attempts m.store.attempts

theorem Moment.sent_eq_nil {m : Moment} (uncalled : m.request.isCall = false) : m.sent = [] := by
  obtain ⟨store, request, answer⟩ := m
  cases request with
  | send op group correlation limit => cases uncalled
  | _ => rfl

namespace Disciplined

theorem shifts_propose {seen : Window} {result : Except DomainError (Option Attempt)}
    (flagged : s.Flagged event) (proposing : Queue.Proposing id seen s t result after)
    (timely : ∀ m ∈ t, m.Timely) :
    after.Flagged event ∧ Shifts event s.attempts after.attempts := by
  cases proposing with
  | kept still none => exact ⟨flagged, .refl⟩
  | @proposed row op createdAt fresh still found stale dated issued =>
    have stands := (Queue.nextOperation?_status stale).1
    have newer := newer_of_timely timely dated issued
    refine ⟨flagged, .single (.proposed (fun same => ?_) fun b mem => (newer b mem).2)⟩
    have same : id = event := same
    exact absurd (same ▸ flagged) (Store.not_flagged_of_event? found stands)

theorem shifts_delete {result : Except DomainError (Option Attempt)}
    (h : Disciplined s.Flagged s.attempts) (flagged : s.Flagged event)
    (deleting : Queue.Deleting id s t result after) (timely : ∀ m ∈ t, m.Timely) :
    after.Flagged event ∧ Shifts event s.attempts after.attempts := by
  have still {f : Store} (flags : Queue.Flags id s f) : f.Flagged event :=
    (flags.flagged event).2 (.inr flagged)
  cases deleting with
  | kept quiet none => exact ⟨flagged, .refl⟩
  | flagged unflagged flags quiet quiet' none reason =>
    exact ⟨still flags, flags.attempts ▸ .refl⟩
  | proposed unflagged flags quiet quiet' last held dated issued =>
    rw [List.forall_mem_append] at timely
    have newer := newer_of_timely timely.2 dated issued
    rw [flags.attempts] at newer
    have flagged' := still flags
    refine ⟨flagged', ?_⟩
    rw [Store.attempts_insertAttempt, flags.attempts]
    refine .single (.proposed (fun same => ?_) fun b mem => (newer b mem).2)
    have own : id = event := (Store.mem_history.1 (latest?_mem last)).2.symm.trans same
    exact unflagged (own ▸ flagged)
  | withdrawn unflagged flags quiet quiet' free run =>
    have flagged' := still flags
    obtain ⟨-, ⟨rfl, -⟩ | ⟨a, mem, -, waits, -, rfl⟩⟩ := h.withdraw unflagged flags run
    · exact ⟨flagged', flags.attempts ▸ .refl⟩
    · exact ⟨flagged', .single (.withdrawn mem waits)⟩

/-- Every operation is a few changes to a flagged event, and what it sends follows some of them. -/
theorem shifted (c : Command) {result : Except DomainError c.Result}
    (h : Disciplined s.Flagged s.attempts) (flagged : s.Flagged event)
    (run : Runs c.program s t result after) (timely : ∀ m ∈ t, m.Timely) :
    Shifted event s t after := by
  have silent (quiet : ∀ m ∈ t, m.request.isCall = false)
      (done : after.Flagged event ∧ Shifts event s.attempts after.attempts) :
      Shifted event s t after :=
    ⟨done.1, done.2, fun m mem sent => absurd (Moment.sent_eq_nil (quiet m mem)) sent⟩
  cases c with
  | propose id seen =>
    exact silent (Queue.only_proposeIfStale.uncalled run)
      (shifts_propose flagged (Queue.runs_proposeIfStale run) timely)
  | delete id =>
    exact silent (Queue.only_delete.uncalled run)
      (h.shifts_delete flagged (Queue.runs_delete run) timely)
  | cycle policy maxCreates department =>
    obtain ⟨⟨moves, events⟩, shows_all⟩ := Cycle.moves_of_timely h.distinct run timely
    refine ⟨?_, moves.shifts, fun m mem _ => (shows_all m mem).moves.shifts⟩
    rw [Store.flagged_congr events]
    exact flagged

/-- What follows a call of an operation. -/
theorem resumed (c : Command) {result : Except DomainError c.Result}
    (h : Disciplined s.Flagged s.attempts) (run : Runs c.program s t result after)
    (timely : ∀ m ∈ t, m.Timely) : Cycle.Resumed t after := by
  have silent (quiet : ∀ m ∈ t, m.request.isCall = false) : Cycle.Resumed t after := by
    rw [← List.append_nil t]
    exact (Cycle.Resumed.nil after).quiet fun m mem => Moment.sent_eq_nil (quiet m mem)
  cases c with
  | propose id seen => exact silent (Queue.only_proposeIfStale.uncalled run)
  | delete id => exact silent (Queue.only_delete.uncalled run)
  | cycle policy maxCreates department => exact Cycle.resumed_run h.distinct run timely

/-- From one call of a history to any later one, a flagged event sees a few changes. -/
theorem shifts_history {s₀ : Store} {episodes : List Episode} (history : History s₀ episodes s)
    (empty : s₀.attempts = []) (timely : ∀ m ∈ momentsOf episodes, m.Timely) :
    ((momentsOf episodes).Pairwise fun m m' => m.sent ≠ [] → m'.sent ≠ [] → ∀ event,
      m.store.Flagged event → Shifts event m.store.attempts m'.store.attempts) ∧
    ∀ m ∈ momentsOf episodes, m.sent ≠ [] → ∀ event, m.store.Flagged event →
      s.Flagged event ∧ Shifts event m.store.attempts s.attempts := by
  induction history with
  | start => simp [momentsOf]
  | @next episodes s after command t result past run ih =>
    rw [momentsOf_append, momentsOf_singleton, List.forall_mem_append] at timely ⊢
    obtain ⟨apart, before⟩ := ih timely.1
    obtain ⟨h, -⟩ := Disciplined.history past empty timely.1
    have resumed := h.resumed command run timely.2
    refine ⟨List.pairwise_append.2 ⟨apart, ?_, ?_⟩, ?_, ?_⟩
    · exact resumed.shown.imp fun later sent _ event _ => (later sent).moves.shifts
    · intro m mem m' mem' sent sent' event flagged
      obtain ⟨flagged, shifts⟩ := before m mem sent event flagged
      exact shifts.trans ((h.shifted command flagged run timely.2).calls m' mem' sent')
    · intro m mem sent event flagged
      obtain ⟨flagged, shifts⟩ := before m mem sent event flagged
      have shifted := h.shifted command flagged run timely.2
      exact ⟨shifted.flagged, shifts.trans shifted.shifts⟩
    · intro m mem sent event flagged
      obtain ⟨moves, events⟩ := resumed.left m mem sent
      exact ⟨Store.flagged_congr events ▸ flagged, moves.shifts⟩

end Disciplined
end History

/-! ## What follows a delete -/

/-- An update of the event waits, and nothing else of it but deletes does. -/
structure Simulation.Store.Leftover (s : Store) (event : Uuid) (u : Attempt) : Prop where
  mem : u ∈ s.attempts
  pending : u.isPending = true
  own : u.event = event
  operation : u.operation = .update
  alone : ∀ b ∈ s.attempts, b.event = event → b.operation ≠ .delete → b.isPending = true → b = u

/-- Once a delete has been sent, whatever comes of it, no create of its event is sent any more, and
an update only if it stems from the one that was left over when the delete was sent. -/
theorem sent_after_delete {s₀ s : Store} {episodes : List Episode}
    (history : History s₀ episodes s) (empty : s₀.attempts = [])
    (forward : Forward (momentsOf episodes)) :
    (momentsOf episodes).Pairwise fun m m' => ∀ d ∈ m.sent, d.operation = .delete →
      ∀ a ∈ m'.sent, a.event = d.event → a.operation ≠ .create ∧
        (a.operation = .update →
          ∃ u, m.store.Leftover d.event u ∧ Stems m'.store.attempts u a) := by
  obtain ⟨timely, -⟩ := history.timely empty forward
  obtain ⟨-, at_all⟩ := Disciplined.history history empty timely
  refine (Disciplined.shifts_history history empty timely).1.imp_of_mem ?_
  intro m m' mem mem' shifts d sent delete a sent' own
  obtain ⟨h, waits⟩ := at_all m mem
  obtain ⟨here, waits_d⟩ := waits d sent
  obtain ⟨there, pending⟩ := (at_all m' mem').waits a sent'
  have heirs : Heirs d.event m.store.attempts m'.store.attempts :=
    .of_shifts (shifts (List.ne_nil_of_mem sent) (List.ne_nil_of_mem sent') d.event
      (h.deletes d here delete)) h.distinct
  have origin (other : a.operation ≠ .delete) : ∃ u ∈ m.store.attempts, u.isPending = true ∧
      u.event = d.event ∧ u.operation = a.operation ∧ Stems m'.store.attempts u a := by
    obtain ⟨u, listed, open_u, stems⟩ := heirs a there own other pending
    exact ⟨u, listed, open_u, stems.about.1.symm.trans own, stems.about.2.symm, stems⟩
  refine ⟨fun create => ?_, fun update => ?_⟩
  · -- A create would have waited beside the delete.
    obtain ⟨u, listed, open_u, event, op, -⟩ := origin (by simp [create])
    rcases h.alone u listed open_u (op.trans create) d here event.symm with rfl | ⟨other, -⟩
    · exact absurd (delete.symm.trans (op.trans create)) (by decide)
    · exact absurd (delete.symm.trans other) (by decide)
  · obtain ⟨u, listed, open_u, event, op, stems⟩ := origin (by simp [update])
    have one : ∀ b ∈ m.store.attempts, b.event = d.event → b.operation ≠ .delete →
        b.isPending = true → b = u := by
      intro b mem_b event_b other open_b
      refine h.one b mem_b u listed open_b open_u (event_b.trans event.symm) (iff_of_false other ?_)
      simp [op, update]
    exact ⟨u, ⟨listed, open_u, event, op.trans update, one⟩, stems⟩

/-! ## An update that is sent after a delete -/

namespace Queue
variable {s : Store} {row : Event} {latest : Attempt}

/-- The moments of a delete that adds an attempt. -/
def adding (s : Store) (row : Event) (a : Attempt) : List Moment :=
  let f := s.saveEvent row.markDeleted
  [⟨s, .getEvent row.id, .ok (some row)⟩, ⟨s, .attemptsOf row.id, .ok (s.history row.id)⟩,
    ⟨s, .saveEvent ({ row with attempts := s.history row.id } : Event).markDeleted, .ok ()⟩,
    ⟨f, .now, a.createdAt⟩, ⟨f, .freshId, a.id⟩, ⟨f, .insertAttempt a, .ok ()⟩]

/-- The item of an event that stands can be deleted if the Planner holds it. -/
theorem runs_adding (fresh : Uuid) (instant : Timestamp) (found : s.event? row.id = some row)
    (stands : row.isDeleted = false)
    (last : latest? (s.history row.id) = some latest) (held : isHeld (s.history row.id) = true) :
    let a := latest.again fresh .delete instant
    Runs (delete row.id) s (adding s row a) (.ok (some a))
      ((s.saveEvent row.markDeleted).insertAttempt a) := by
  intro a
  let f := s.saveEvent row.markDeleted
  let event : Event := { row with attempts := s.history row.id }
  have read : s.Answers (.getEvent row.id) (.ok (some row)) s := ⟨rfl, by simp [found]⟩
  have listed : s.Answers (.attemptsOf row.id) (.ok (s.history row.id)) s := ⟨rfl, by simp⟩
  have saved : s.Answers (.saveEvent event.markDeleted) (.ok ()) f := rfl
  have clock : f.Answers .now instant f := rfl
  have issue : f.Answers .freshId fresh f := rfl
  have added : f.Answers (.insertAttempt a) (.ok ()) (f.insertAttempt a) := rfl
  have loads : Runs (load row.id) s [⟨s, .getEvent row.id, .ok (some row)⟩,
      ⟨s, .attemptsOf row.id, .ok (s.history row.id)⟩] (.ok event) s :=
    .ask read (.ask listed (.done _ _))
  unfold delete
  refine Service.runs_bind_iff.2 (.inr ⟨event, s, _, _, rfl, loads, ?_⟩)
  rw [if_neg (by simp [event, stands])]
  refine Service.runs_bind_iff.2 (.inr ⟨(), f, _, _, rfl, .ask saved (.done _ _), ?_⟩)
  simp only [event, last, held, if_true]
  exact .ask clock (.ask issue (.ask added (.done _ _)))

end Queue

namespace Simulation.World

/-- An event without attempts, and a Planner that is at first too busy to update. -/
def lagging : World :=
  let created := atSecond 1000
  let busy : Reply := { Reply.standard with results := some [⟨.position 0, false, some 15⟩] }
  Session.world (atSecond 2000) (.ofEvents [.observed (.ofNat 1) "rooms" "item" created] [])
    ⟨fun kind => if kind = .events .update then [busy] else [], [], []⟩ [] false

/-- The item is created in the Planner, and then the event moves. -/
def moving : List Command :=
  [.propose (.ofNat 1) ⟨atSecond 3000, atSecond 4000⟩, .cycle samplePolicy 10 "rooms",
    .propose (.ofNat 1) ⟨atSecond 3000, atSecond 5000⟩]

/-- The update that waits when the event has moved. -/
def late : Attempt :=
  .pending (issuedId 3) (.ofNat 1) .update ⟨atSecond 3000, atSecond 5000⟩ (atSecond 2000)

/-- The delete that is added beside it. -/
def last : Attempt :=
  late.again (issuedId 4) .delete (atSecond 2000)

/-- The world after the event has been deleted. -/
def parting : World :=
  let w := lagging.perform moving
  { w with
    issued := 5
    store := (w.store.saveEvent
      (Event.observed (.ofNat 1) "rooms" "item" (atSecond 1000)).markDeleted).insertAttempt last }

/-- The moments from the first proposal to the second cycle after the delete. -/
def parted : List Moment :=
  let cycle := Command.cycle samplePolicy 10 "rooms"
  lagging.performed moving ++
    (Queue.adding (lagging.perform moving).store
      (.observed (.ofNat 1) "rooms" "item" (atSecond 1000)) last ++
    parting.performed [cycle, cycle])

/-- The calls from the one with the delete on. -/
def lastCalls : List Moment :=
  (parted.filter fun m => !m.sent.isEmpty).drop 2

end Simulation.World

/-- The event is deleted while its update waits, and the Planner deletes the item in the cycle in
which it is too busy for the update. The next cycle sends the update again. -/
theorem exists_parted : ∃ episodes s, History World.lagging.store episodes s ∧
    momentsOf episodes = World.parted ∧ Forward World.parted ∧ ∀ m ∈ World.parted, m.Stored := by
  let row := Event.observed (.ofNat 1) "rooms" "item" (World.atSecond 1000)
  let s := (World.lagging.perform World.moving).store
  let cycle := Command.cycle World.samplePolicy 10 "rooms"
  obtain ⟨before, history, moments⟩ :=
    World.exists_history World.moving World.lagging rfl (by decide +kernel)
  obtain ⟨later, history', moments'⟩ :=
    World.exists_history [cycle, cycle] World.parting (by decide +kernel) (by decide +kernel)
  -- The kernel can evaluate an order that is built by insertion.
  have known : s.event? row.id = some row ∧ latest? (s.history row.id) = some World.late ∧
      Queue.isHeld (s.history row.id) = true := by
    rw [Store.history, oldestFirst_eq_foldr]
    decide +kernel
  have deletes : Runs (Command.delete row.id).program s (Queue.adding s row World.last)
      (.ok (some World.last)) World.parting.store :=
    Queue.runs_adding (issuedId 4) (World.atSecond 2000) known.1 rfl known.2.1 known.2.2
  refine ⟨_, _, (history.next deletes).trans history', ?_, ⟨by decide +kernel, by decide +kernel⟩,
    by decide +kernel⟩
  rw [momentsOf_append, momentsOf_append, momentsOf_singleton, moments, moments', List.append_assoc]
  rfl

/-- The last two calls carry a delete, which is answered with success, and then an update. -/
theorem exists_lastCalls : ∃ m m', [m, m'].Sublist World.parted ∧
    ∃ d, d.operation = .delete ∧ m.grants (·.success) d = true ∧
      ∃ a ∈ m'.sent, a.event = d.event ∧ a.operation = .update := by
  have sub : World.lastCalls.Sublist World.parted :=
    (List.drop_sublist 2 _).trans List.filter_sublist
  obtain ⟨m, m', two⟩ := List.length_eq_two.1 (by decide +kernel : World.lastCalls.length = 2)
  have known : ∃ d ∈ (World.lastCalls.head?.map Moment.sent).getD [], d.operation = .delete ∧
      (World.lastCalls.head?.any (Moment.grants (·.success) d)) = true ∧
      ∃ a ∈ (World.lastCalls.getLast?.map Moment.sent).getD [], a.event = d.event ∧
        a.operation = .update := by
    decide +kernel
  rw [two] at known sub
  obtain ⟨d, -, delete, granted, a, sent, own, update⟩ := known
  exact ⟨m, m', sub, d, delete, granted, a, sent, own, update⟩

/-- What is sent after the delete stems from the update that was left over. -/
theorem sent_after_delete_parted : ∃ m ∈ World.parted, ∃ m' ∈ World.parted, ∃ d ∈ m.sent,
    ∃ a ∈ m'.sent, a.operation = .update ∧
      ∃ u, m.store.Leftover d.event u ∧ Stems m'.store.attempts u a := by
  obtain ⟨episodes, s, history, moments, forward, -⟩ := exists_parted
  obtain ⟨m, m', sub, d, delete, granted, a, sent, own, update⟩ := exists_lastCalls
  have follows := sent_after_delete history rfl (moments ▸ forward)
  rw [moments] at follows
  have carried := (Moment.grants_iff.1 granted).1
  have stems := ((List.pairwise_cons.1 (follows.sublist sub)).1 m' (List.mem_singleton_self _)
    d carried delete a sent own).2 update
  exact ⟨m, sub.subset (by simp), m', sub.subset (by simp), d, carried, a, sent, update, stems⟩

/-- So updates can follow a delete that has been answered with success. -/
theorem exists_update_after_delete : ¬ ∀ (s₀ s : Store) (episodes : List Episode),
    History s₀ episodes s → s₀.attempts = [] → Forward (momentsOf episodes) →
      (∀ m ∈ momentsOf episodes, m.Stored) →
        (momentsOf episodes).Pairwise fun m m' => ∀ d, d.operation = .delete →
          m.grants (·.success) d = true → ∀ a ∈ m'.sent, a.event = d.event →
            a.operation ≠ .create ∧ a.operation ≠ .update := by
  intro claim
  obtain ⟨episodes, s, history, moments, forward, stored⟩ := exists_parted
  obtain ⟨m, m', sub, d, delete, granted, a, sent, own, update⟩ := exists_lastCalls
  have apart := claim _ _ episodes history rfl (moments ▸ forward) (moments ▸ stored)
  rw [moments] at apart
  exact ((List.pairwise_cons.1 (apart.sublist sub)).1 m' (List.mem_singleton_self _)
    d delete granted a sent own).2 update

end CalendarSync
