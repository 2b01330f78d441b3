import CalendarSync.Proofs.Clearing
import CalendarSync.Proofs.Orderly
import CalendarSync.Proofs.Seniority

/-!
# Catching up with the calendar

An event that stands is in step with the calendar after two rounds, each of which proposes it if it
is stale and runs a cycle of its department that the Planner grants. The first round answers whatever
waits, another window included, and the second one proposes what is seen now if it still has to.
Afterwards nothing is proposed any more, and no cycle touches the attempts of the event.
-/

namespace CalendarSync
set_option autoImplicit false
open Program Simulation

variable {s after : Store} {t : List Moment} {id : Uuid} {seen : Window} {row : Event}

namespace Queue

/-- With storage that does not fail, an event that exists is read with its history. -/
theorem load_of_stored {result : Except DomainError Event} (found : s.event? id = some row)
    (run : Runs (load id) s t result after) (stored : ∀ m ∈ t, m.Stored) :
    after = s ∧ result = .ok { row with attempts := s.history id } := by
  unfold load at run
  obtain ⟨e, -, read⟩ | ⟨found', _, _, _, rfl, read, run₁⟩ := Service.runs_bind_iff.1 run
  · obtain ⟨-, rfl⟩ := runs_request_iff.1 read
    cases stored _ (List.mem_singleton_self _)
  obtain ⟨⟨rfl, same⟩, rfl⟩ := runs_request_iff.1 read
  obtain rfl : found' = some row := (same found' rfl).trans found
  obtain ⟨e, -, read⟩ | ⟨history, _, _, _, rfl, read, run₂⟩ := Service.runs_bind_iff.1 run₁
  · obtain ⟨-, rfl⟩ := runs_request_iff.1 read
    cases stored _ (List.mem_append_right _ (List.mem_singleton_self _))
  obtain ⟨⟨rfl, same⟩, rfl⟩ := runs_request_iff.1 read
  obtain rfl := same history rfl
  obtain ⟨-, rfl, rfl⟩ := Service.runs_pure_iff.1 run₂
  exact ⟨rfl, rfl⟩

/-- Reading an event can succeed. -/
theorem exists_load (found : s.event? id = some row) :
    ∃ t, Runs (load id) s t (.ok { row with attempts := s.history id }) s ∧ ∀ m ∈ t, m.Stored := by
  have read : s.Answers (.getEvent id) (.ok (some row)) s := ⟨rfl, by simp [found]⟩
  have listed : s.Answers (.attemptsOf id) (.ok (s.history id)) s := ⟨rfl, by simp⟩
  exact ⟨_, .ask read (.ask listed (.done _ _)), by simp [Moment.Stored, Moment.fault?]⟩

/-- The status of an event can be asked for, and is this one unless the storage fails. -/
structure Reports (s : Store) (id : Uuid) (seen : Window) (value : Status) : Prop where
  possible : ∃ t, Runs (status id seen) s t (.ok value) s ∧ ∀ m ∈ t, m.Stored
  sole : ∀ t result after, Runs (status id seen) s t result after → (∀ m ∈ t, m.Stored) →
    result = .ok value ∧ after = s

theorem reports_status (found : s.event? id = some row) :
    Reports s id seen (({ row with attempts := s.history id } : Event).status seen) := by
  constructor
  · obtain ⟨t, run, stored⟩ := exists_load found
    refine ⟨t ++ [], Service.runs_bind_iff.2 (.inr ⟨_, s, t, [], rfl, run, ?_⟩), by simpa using stored⟩
    exact Service.runs_pure_iff.2 ⟨rfl, rfl, rfl⟩
  · intro t result after run stored
    obtain ⟨e, -, loaded⟩ | ⟨event, _, _, _, rfl, loaded, run₁⟩ := Service.runs_bind_iff.1 run
    · cases (load_of_stored found loaded stored).2
    · rw [List.forall_mem_append] at stored
      obtain ⟨rfl, same⟩ := load_of_stored found loaded stored.1
      obtain rfl := Except.ok.inj same
      obtain ⟨-, rfl, rfl⟩ := Service.runs_pure_iff.1 run₁
      exact ⟨rfl, rfl⟩

end Queue

/-! ## The latest attempt -/

namespace Simulation.Store
variable {a : Attempt}

end Simulation.Store

/-! ## An event at rest -/

/-- The attempts of an event, in the order of the table. -/
def Simulation.Store.rowsOf (s : Store) (event : Uuid) : List Attempt :=
  s.attempts.filter fun a => a.event = event

section Moves
variable {lossy : Prop} {rows rows' : List Attempt}

/-- Nothing happens to the attempts of an event if none of them waits. -/
theorem Move.filter_event (move : Move lossy rows rows') (distinct : (rows.map (·.id)).Nodup)
    (closed : ∀ a ∈ rows, a.event = id → a.isPending = false) :
    (rows'.filter fun a => a.event = id) = rows.filter fun a => a.event = id := by
  have other {a : Attempt} (mem : a ∈ rows) (pending : a.isPending = true) : a.event ≠ id := by
    intro same
    rw [closed a mem same] at pending
    cases pending
  have kept {a : Attempt} (c : Completion) (mem : a ∈ rows) (pending : a.isPending = true) :
      ((Attempt.completeAt a.id c rows).filter fun a => a.event = id) =
        rows.filter fun a => a.event = id := by
    rw [Attempt.filter_completeAt fun _ => rfl]
    refine Attempt.completeAt_eq_self fun b here same => ?_
    obtain ⟨here, own⟩ := List.mem_filter.1 here
    obtain rfl := Attempt.eq_of_id_eq distinct here mem same
    exact other mem pending (by simpa using own)
  cases move with
  | answer mem pending called lasting => exact kept _ mem pending
  | @again a c fresh createdAt mem pending called transient newer =>
    have new : ([a.again fresh a.operation createdAt].filter fun a => a.event = id) = [] :=
      List.filter_eq_nil_iff.2 (by simpa [Attempt.again, Attempt.pending] using other mem pending)
    rw [List.filter_append, kept c mem pending, new, List.append_nil]

theorem Moves.filter_event (moves : Moves lossy rows rows') (distinct : (rows.map (·.id)).Nodup)
    (closed : ∀ a ∈ rows, a.event = id → a.isPending = false) :
    (rows'.filter fun a => a.event = id) = rows.filter fun a => a.event = id := by
  induction moves with
  | refl => rfl
  | @tail middle _ moves move ih =>
    have closed' : ∀ a ∈ middle, a.event = id → a.isPending = false := by
      intro a mem own
      have here : a ∈ middle.filter fun a => a.event = id := List.mem_filter.2 ⟨mem, by simpa using own⟩
      rw [ih] at here
      exact closed a (List.mem_of_mem_filter here) own
    exact (move.filter_event (Moves.nodup moves distinct) closed').trans ih

end Moves

/-- The status of an event that stands, by its latest attempt. -/
theorem Event.status_eq {e : Event} {latest : Attempt} (stands : e.isDeleted = false)
    (last : Attempt.latest? e.attempts = some latest) :
    e.status seen = if latest.isPending then .pending
      else if latest.window = seen then .upToDate else .updated := by
  simp [Event.status, stands, last]

/-- An event that stands, whose attempts have all been answered, with the latest of them. -/
structure AtRest (s : Store) (row : Event) (latest : Attempt) : Prop where
  distinct : (s.attempts.map (·.id)).Nodup
  found : s.event? row.id = some row
  stands : row.isDeleted = false
  idle : ∀ a ∈ s.history row.id, a.isPending = false
  last : Attempt.latest? (s.history row.id) = some latest

namespace AtRest
variable {latest : Attempt}

theorem status_eq (rest : AtRest s row latest) :
    ({ row with attempts := s.history row.id } : Event).status seen =
      if latest.window = seen then .upToDate else .updated := by
  have closed := rest.idle latest (Attempt.latest?_mem rest.last)
  rw [Event.status_eq (e := { row with attempts := s.history row.id }) rest.stands rest.last, closed,
    if_neg Bool.false_ne_true]

theorem reports (rest : AtRest s row latest) (seen : Window) :
    Queue.Reports s row.id seen (if latest.window = seen then .upToDate else .updated) :=
  rest.status_eq ▸ Queue.reports_status rest.found

/-- An event at rest in step with what is seen is not proposed. -/
theorem propose (rest : AtRest s row latest) (inStep : latest.window = seen)
    {result : Except DomainError (Option Attempt)}
    (run : Runs (Queue.proposeIfStale row.id seen) s t result after) :
    after = s ∧ ∀ m ∈ t, m.store = s := by
  cases Queue.runs_proposeIfStale run with
  | kept still none => exact ⟨rfl, fun m mem => (still m mem).1⟩
  | proposed still found stale dated issued =>
    rw [rest.found] at found
    obtain rfl := Option.some.inj found
    rw [rest.status_eq, if_pos inStep] at stale
    cases stale

/-- A cycle leaves an event at rest alone, whatever becomes of other events. -/
theorem cycle (rest : AtRest s row latest) {policy : CallPolicy} {maxCreates : Nat}
    {department : String} {result : Except DomainError CycleReport}
    (run : Runs (Cycle.run policy maxCreates department) s t result after)
    (timely : ∀ m ∈ t, m.Timely) :
    AtRest after row latest ∧ after.rowsOf row.id = s.rowsOf row.id ∧
      ∀ m ∈ t, m.store.rowsOf row.id = s.rowsOf row.id := by
  obtain ⟨⟨moves, events⟩, shows_all⟩ := Cycle.moves_of_timely rest.distinct run timely
  have closed : ∀ a ∈ s.attempts, a.event = row.id → a.isPending = false :=
    fun a mem own => rest.idle a (Store.mem_history.2 ⟨mem, own⟩)
  have kept : after.rowsOf row.id = s.rowsOf row.id := moves.filter_event rest.distinct closed
  have history : after.history row.id = s.history row.id := congrArg Attempt.oldestFirst kept
  refine ⟨⟨moves.nodup rest.distinct, (Store.event?_congr events).trans rest.found, rest.stands, ?_, ?_⟩,
    kept, fun m mem => ?_⟩
  · rw [history]
    exact rest.idle
  · rw [history]
    exact rest.last
  · exact (shows_all m mem).moves.filter_event rest.distinct closed

end AtRest

/-! ## One round -/

/-- A round for an event: it is proposed if it is stale, and a cycle of its department runs. -/
structure Round where
  proposing : List Moment
  /-- The tables between the two. -/
  middle : Store
  maxCreates : Nat
  cycling : List Moment

/-- The moments of a round. -/
def Round.moments (r : Round) : List Moment :=
  r.proposing ++ r.cycling

/-- Rounds for an event one after the other, in which the same is seen. -/
inductive Rounds (event : Uuid) (seen : Window) (department : String) :
    Store → List Round → Store → Prop where
  | done (s : Store) : Rounds event seen department s [] s
  | next {policy : CallPolicy} {maxCreates : Nat} {s middle after last : Store}
      {t t' : List Moment} {proposal : Except DomainError (Option Attempt)}
      {result : Except DomainError CycleReport} {rounds : List Round}
      (proposing : Runs (Queue.proposeIfStale event seen) s t proposal middle)
      (cycling : Runs (Cycle.run policy maxCreates department) middle t' result after)
      (rest : Rounds event seen department after rounds last) :
      Rounds event seen department s (⟨t, middle, maxCreates, t'⟩ :: rounds) last

/-- Rounds continue a history. -/
theorem Rounds.history {s₀ : Store} {episodes : List Episode} {department : String}
    {rounds : List Round} (rounds_run : Rounds id seen department s rounds after)
    (past : History s₀ episodes s) : ∃ all, History s₀ all after ∧
      momentsOf all = momentsOf episodes ++ rounds.flatMap Round.moments := by
  induction rounds_run generalizing episodes with
  | done s => exact ⟨episodes, past, by simp⟩
  | @next policy maxCreates s middle after last t t' proposal result rounds proposing cycling rest
      ih =>
    have proposed : History s₀ (episodes ++ [⟨.propose id seen, t, proposal⟩]) middle :=
      .next past proposing
    have cycled : History s₀ (episodes ++ [⟨.propose id seen, t, proposal⟩] ++
        [⟨.cycle policy maxCreates department, t', result⟩]) after := .next proposed cycling
    obtain ⟨all, history, moments⟩ := ih cycled
    refine ⟨all, history, ?_⟩
    rw [moments, momentsOf_append, momentsOf_append, momentsOf_singleton, momentsOf_singleton]
    simp [Round.moments]

/-- The moments of rounds after a history are timely. -/
theorem Rounds.timely {s₀ : Store} {episodes : List Episode} {department : String}
    {rounds : List Round} (rounds_run : Rounds id seen department s rounds after)
    (past : History s₀ episodes s) (empty : s₀.attempts = [])
    (forward : Forward (momentsOf episodes ++ rounds.flatMap Round.moments)) :
    ∀ r ∈ rounds, ∀ m ∈ r.moments, m.Timely := by
  obtain ⟨all, history, moments⟩ := rounds_run.history past
  rw [← moments] at forward
  have timely := (history.timely empty forward).1
  rw [moments] at timely
  exact fun r mem m here =>
    timely m (List.mem_append_right _ (List.mem_flatMap.2 ⟨r, mem, here⟩))

/-- Rounds leave an event at rest alone that is in step with what is seen. -/
theorem AtRest.rounds {latest : Attempt} {department : String} {rounds : List Round}
    (rest : AtRest s row latest) (inStep : latest.window = seen)
    (rounds_run : Rounds row.id seen department s rounds after)
    (timely : ∀ r ∈ rounds, ∀ m ∈ r.moments, m.Timely) :
    after.rowsOf row.id = s.rowsOf row.id ∧
      ∀ r ∈ rounds, ∀ m ∈ r.moments, m.store.rowsOf row.id = s.rowsOf row.id := by
  induction rounds_run with
  | done s => exact ⟨rfl, by simp⟩
  | next proposing cycling others ih =>
    rw [List.forall_mem_cons, Round.moments, List.forall_mem_append] at timely
    obtain ⟨rfl, still⟩ := rest.propose inStep proposing
    obtain ⟨rest, kept, same⟩ := rest.cycle cycling timely.1.2
    obtain ⟨kept', same'⟩ := ih rest timely.2
    rw [kept] at kept' same'
    refine ⟨kept', List.forall_mem_cons.2 ⟨List.forall_mem_append.2 ⟨fun m mem => ?_, same⟩, same'⟩⟩
    rw [still m mem]

end CalendarSync
