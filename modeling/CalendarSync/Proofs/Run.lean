import CalendarSync.Program
import CalendarSync.Simulation.Store

/-!
# Runs

What programs do to tables in memory. The Planner, the clock, the source of identifiers and the
shutdown switch may answer anything at any time, and a request to the storage may fail without
effect; whatever a theorem needs of them it asks of the moments of a run. `runs_bind_iff` and its
variants take a run apart along the program that made it.
-/

namespace CalendarSync
set_option autoImplicit false
open Simulation (Store)

/-- One request of a run, with the tables as they stood and the answer. -/
structure Moment where
  store : Store
  request : Request
  answer : request.Answer

namespace Simulation.Store

/-- The storage answers with what is asked for, or fails. -/
def Reads {α : Type} (s : Store) (value : α) (answer : Except DomainError α) (after : Store) :
    Prop :=
  after = s ∧ ∀ found, answer = .ok found → found = value

/-- The storage does what is asked for, or fails without effect. -/
def Writes (s : Store) (result : Except DomainError Store) (answer : Except DomainError Unit)
    (after : Store) : Prop :=
  match answer with
  | .ok () => result = .ok after
  | .error _ => after = s

/-- The answers that a request may get, and what the tables are after it. -/
def Answers (s : Store) : (r : Request) → r.Answer → Store → Prop
  | .getEvent id, answer, after => s.Reads (s.event? id) answer after
  | .saveEvent event, answer, after => s.Writes (.ok (s.saveEvent event)) answer after
  | .pendingAttempts department, answer, after => s.Reads (s.pending department) answer after
  | .attemptsOf event, answer, after => s.Reads (s.history event) answer after
  | .insertAttempt a, answer, after => s.Writes (.ok (s.insertAttempt a)) answer after
  | .completeAttempt id c, answer, after => s.Writes (s.completeAttempt id c) answer after
  | .insertCall c, answer, after => s.Writes (.ok (s.insertCall c)) answer after
  | .updateCall c, answer, after => s.Writes (s.updateCall c) answer after
  | .resourcesOf department, answer, after => s.Reads (s.resourcesOf department) answer after
  | .insertResources added, answer, after => s.Writes (.ok (s.insertResources added)) answer after
  | .deleteResources ids deletedAt, answer, after =>
    s.Writes (.ok (s.deleteResources ids deletedAt)) answer after
  | .send _ _ _ _, _, after | .listResources _ _, _, after | .now, _, after | .freshId, _, after
  | .isCancelled _, _, after | .pause _ _ _, _, after => after = s

end Simulation.Store

/-- The program can run from some tables to others with these moments and this result. -/
inductive Program.Runs {α : Type} : Program α → Store → List Moment → α → Store → Prop where
  | done (value : α) (s : Store) : Runs (.done value) s [] value s
  | ask {r : Request} {next : r.Answer → Program α} {s middle after : Store} {answer : r.Answer}
      {t : List Moment} {value : α} (answered : s.Answers r answer middle)
      (rest : Runs (next answer) middle t value after) :
      Runs (.ask r next) s (⟨s, r, answer⟩ :: t) value after

namespace Program
variable {α β : Type} {s after : Store} {t : List Moment}

theorem runs_pure_iff {value result : α} :
    Runs (pure value) s t result after ↔ t = [] ∧ result = value ∧ after = s := by
  constructor
  · intro run
    cases run
    exact ⟨rfl, rfl, rfl⟩
  · rintro ⟨rfl, rfl, rfl⟩
    exact .done _ _

theorem runs_ask_iff {r : Request} {next : r.Answer → Program α} {result : α} :
    Runs (.ask r next) s t result after ↔
      ∃ answer middle rest, s.Answers r answer middle ∧ t = ⟨s, r, answer⟩ :: rest ∧
        Runs (next answer) middle rest result after := by
  constructor
  · intro run
    cases run with
    | ask answered rest => exact ⟨_, _, _, answered, rfl, rest⟩
  · rintro ⟨answer, middle, rest, answered, rfl, run⟩
    exact .ask answered run

theorem runs_bind_iff {p : Program α} {f : α → Program β} {result : β} :
    Runs (p >>= f) s t result after ↔
      ∃ value middle first rest, t = first ++ rest ∧ Runs p s first value middle ∧
        Runs (f value) middle rest result after := by
  induction p generalizing s t with
  | done value =>
    constructor
    · intro run
      exact ⟨value, s, [], t, rfl, .done value s, run⟩
    · rintro ⟨_, _, _, _, rfl, first, run⟩
      cases first
      exact run
  | ask r next ih =>
    change Runs (.ask r fun answer => next answer >>= f) s t result after ↔ _
    simp only [runs_ask_iff, ih]
    constructor
    · rintro ⟨answer, middle, _, answered, rfl, value, last, first, rest, rfl, run, run'⟩
      exact ⟨value, last, _ :: first, rest, rfl, ⟨answer, middle, first, answered, rfl, run⟩, run'⟩
    · rintro ⟨value, last, _, rest, rfl, ⟨answer, middle, first, answered, rfl, run⟩, run'⟩
      exact ⟨answer, middle, _, answered, rfl, value, last, first, rest, rfl, run, run'⟩

theorem runs_request_iff {r : Request} {result : r.Answer} :
    Runs (request r) s t result after ↔ s.Answers r result after ∧ t = [⟨s, r, result⟩] := by
  constructor
  · intro run
    obtain ⟨answer, middle, rest, answered, rfl, last⟩ := runs_ask_iff.1 run
    obtain ⟨rfl, rfl, rfl⟩ := runs_pure_iff.1 last
    exact ⟨answered, rfl⟩
  · rintro ⟨answered, rfl⟩
    exact .ask answered (.done _ _)

/-- A request at the head of a program. -/
theorem runs_request_bind_iff {r : Request} {f : r.Answer → Program β} {result : β} :
    Runs (request r >>= f) s t result after ↔
      ∃ answer middle rest, s.Answers r answer middle ∧ t = ⟨s, r, answer⟩ :: rest ∧
        Runs (f answer) middle rest result after :=
  runs_ask_iff

/-- What holds before a loop over a list, with all elements to come, and is kept by each iteration
holds after the loop. The moments are those of a run that meets `allowed`, and all meet `seen`. -/
theorem runs_foldlM {σ : Type} {f : σ → α → Program σ} {allowed seen : Moment → Prop}
    (Inv : List α → σ → Store → Prop)
    (step : ∀ a l value s t next after, Inv (a :: l) value s → Runs (f value a) s t next after →
      (∀ m ∈ t, allowed m) → Inv l next after ∧ ∀ m ∈ t, seen m) {l : List α} {value result : σ}
    (start : Inv l value s) (run : Runs (l.foldlM f value) s t result after)
    (ok : ∀ m ∈ t, allowed m) : Inv [] result after ∧ ∀ m ∈ t, seen m := by
  induction l generalizing value s t with
  | nil =>
    obtain ⟨rfl, rfl, rfl⟩ := runs_pure_iff.1 run
    exact ⟨start, by simp⟩
  | cons a l ih =>
    rw [List.foldlM_cons, runs_bind_iff] at run
    obtain ⟨next, middle, first, rest, rfl, run, run'⟩ := run
    obtain ⟨kept, seen₁⟩ := step a l value s first next middle start run
      fun m mem => ok m (List.mem_append_left _ mem)
    obtain ⟨done, seen₂⟩ := ih kept run' fun m mem => ok m (List.mem_append_right _ mem)
    exact ⟨done, fun m mem => (List.mem_append.1 mem).elim (seen₁ m) (seen₂ m)⟩

/-- What each iteration of a loop over a list keeps, with all elements to come. -/
theorem runs_foldlM_kept {σ : Type} {f : σ → α → Program σ} {allowed : Moment → Prop}
    (Inv : List α → σ → Store → Prop)
    (step : ∀ a l value s t next after, Inv (a :: l) value s → Runs (f value a) s t next after →
      (∀ m ∈ t, allowed m) → Inv l next after) {l : List α} {value result : σ}
    (start : Inv l value s) (run : Runs (l.foldlM f value) s t result after)
    (ok : ∀ m ∈ t, allowed m) : Inv [] result after := by
  have kept : Inv [] result after ∧ ∀ m ∈ t, True :=
    runs_foldlM Inv (fun a l value s t next after inv run ok =>
      ⟨step a l value s t next after inv run ok, fun _ _ => trivial⟩) start run ok
  exact kept.1

end Program

namespace Service
variable {α β : Type} {s after : Store} {t : List Moment}
open Program

theorem runs_pure_iff {value : α} {result : Except DomainError α} :
    Runs (pure value : Service α) s t result after ↔ t = [] ∧ result = .ok value ∧ after = s :=
  Program.runs_pure_iff

theorem runs_throw_iff {e : DomainError} {result : Except DomainError α} :
    Runs (throw e : Service α) s t result after ↔ t = [] ∧ result = .error e ∧ after = s :=
  Program.runs_pure_iff

theorem runs_lift_iff {p : Program α} {result : Except DomainError α} :
    Runs (ExceptT.lift p : Service α) s t result after ↔
      ∃ value, result = .ok value ∧ Runs p s t value after := by
  change Runs (Except.ok <$> p) s t result after ↔ _
  rw [map_eq_pure_bind, runs_bind_iff]
  constructor
  · rintro ⟨value, _, _, _, rfl, run, last⟩
    obtain ⟨rfl, rfl, rfl⟩ := Program.runs_pure_iff.1 last
    exact ⟨value, rfl, by simpa using run⟩
  · rintro ⟨value, rfl, run⟩
    exact ⟨value, after, t, [], by simp, run, Program.runs_pure_iff.2 ⟨rfl, rfl, rfl⟩⟩

/-- A service stops at the first error. -/
theorem runs_bind_iff {p : Service α} {f : α → Service β} {result : Except DomainError β} :
    Runs (p >>= f : Service β) s t result after ↔
      (∃ e, result = .error e ∧ Runs p s t (.error e) after) ∨
      ∃ value middle first rest, t = first ++ rest ∧ Runs p s first (.ok value) middle ∧
        Runs (f value) middle rest result after := by
  change Runs (Program.bind p (ExceptT.bindCont f)) s t result after ↔ _
  refine Program.runs_bind_iff.trans ?_
  constructor
  · rintro ⟨value, middle, first, rest, rfl, run, last⟩
    cases value with
    | error e =>
      obtain ⟨rfl, rfl, rfl⟩ := Program.runs_pure_iff.1 last
      exact .inl ⟨e, rfl, by simpa using run⟩
    | ok value => exact .inr ⟨value, middle, first, rest, rfl, run, last⟩
  · rintro (⟨e, rfl, run⟩ | ⟨value, middle, first, rest, rfl, run, last⟩)
    · exact ⟨.error e, after, t, [], by simp, run, Program.runs_pure_iff.2 ⟨rfl, rfl, rfl⟩⟩
    · exact ⟨.ok value, middle, first, rest, rfl, run, last⟩

/-- A program that cannot fail, at the head of a service. -/
theorem runs_lift_bind_iff {p : Program α} {f : α → Service β} {result : Except DomainError β} :
    Runs (ExceptT.lift p >>= f : Service β) s t result after ↔
      ∃ value middle first rest, t = first ++ rest ∧ Runs p s first value middle ∧
        Runs (f value) middle rest result after := by
  rw [runs_bind_iff]
  constructor
  · rintro (⟨e, -, run⟩ | ⟨value, middle, first, rest, rfl, run, last⟩)
    · obtain ⟨_, h, -⟩ := runs_lift_iff.1 run
      cases h
    · obtain ⟨_, h, run⟩ := runs_lift_iff.1 run
      cases h
      exact ⟨value, middle, first, rest, rfl, run, last⟩
  · rintro ⟨value, middle, first, rest, rfl, run, last⟩
    exact .inr ⟨value, middle, first, rest, rfl, runs_lift_iff.2 ⟨value, rfl, run⟩, last⟩

end Service

/-- The request neither records an outcome nor adds an attempt. -/
def Request.isIdle : Request → Bool
  | completeAttempt _ _ | insertAttempt _ => false
  | _ => true

/-! What theorems ask of the moments of a run. -/

namespace Moment

/-- The failure of a request to the storage. -/
def fault? : Moment → Option DomainError
  | ⟨_, .getEvent _, .error e⟩ | ⟨_, .saveEvent _, .error e⟩ | ⟨_, .pendingAttempts _, .error e⟩
  | ⟨_, .attemptsOf _, .error e⟩ | ⟨_, .insertAttempt _, .error e⟩
  | ⟨_, .completeAttempt _ _, .error e⟩ | ⟨_, .insertCall _, .error e⟩
  | ⟨_, .updateCall _, .error e⟩ | ⟨_, .resourcesOf _, .error e⟩
  | ⟨_, .insertResources _, .error e⟩ | ⟨_, .deleteResources _ _, .error e⟩ => some e
  | _ => none

/-- The storage does not fail. -/
def Stored (m : Moment) : Prop := m.fault? = none

instance (m : Moment) : Decidable m.Stored :=
  inferInstanceAs (Decidable (m.fault? = none))

/-- The clock is not behind the creation of any attempt, and a new identifier is greater than that
of any attempt. -/
def Timely : Moment → Prop
  | ⟨s, .now, instant⟩ => ∀ a ∈ s.attempts, a.createdAt ≤ instant
  | ⟨s, .freshId, id⟩ => ∀ a ∈ s.attempts, a.id < id
  | _ => True

instance : (m : Moment) → Decidable m.Timely
  | ⟨s, .now, instant⟩ => inferInstanceAs (Decidable (∀ a ∈ s.attempts, a.createdAt ≤ instant))
  | ⟨s, .freshId, id⟩ => inferInstanceAs (Decidable (∀ a ∈ s.attempts, a.id < id))
  | ⟨_, .getEvent _, _⟩ | ⟨_, .saveEvent _, _⟩ | ⟨_, .pendingAttempts _, _⟩
  | ⟨_, .attemptsOf _, _⟩ | ⟨_, .insertAttempt _, _⟩ | ⟨_, .completeAttempt _ _, _⟩
  | ⟨_, .insertCall _, _⟩ | ⟨_, .updateCall _, _⟩ | ⟨_, .resourcesOf _, _⟩
  | ⟨_, .insertResources _, _⟩ | ⟨_, .deleteResources _ _, _⟩ | ⟨_, .send _ _ _ _, _⟩
  | ⟨_, .listResources _ _, _⟩ | ⟨_, .isCancelled _, _⟩ | ⟨_, .pause _ _ _, _⟩ => isTrue trivial

/-- The attempts that a call carries to the Planner. -/
def sent : Moment → List Attempt
  | ⟨_, .send _ attempts _ _, _⟩ => attempts
  | _ => []

/-- The Planner's answer to a call of an operation. -/
def reply? (op : Operation) : Moment → Option (List ItemResult)
  | ⟨_, .send op' _ _ _, .ok results⟩ => if op' = op then some results else none
  | _ => none

@[simp] theorem reply?_send_ok {s : Store} {op op' : Operation} {group : List Attempt}
    {correlation : String} {limit : Duration} {results : List ItemResult} :
    reply? op ⟨s, .send op' group correlation limit, .ok results⟩ =
      if op' = op then some results else none := rfl

/-- The identifier of a call of an operation whose record is opened. -/
def call? (op : Operation) : Moment → Option Uuid
  | ⟨_, .insertCall c, .ok _⟩ => if c.operation = op then some c.id else none
  | _ => none

@[simp] theorem call?_insertCall_ok {s : Store} {op : Operation} {call : Call} {u : Unit} :
    call? op ⟨s, .insertCall call, .ok u⟩ = if call.operation = op then some call.id else none := rfl

@[simp] theorem call?_now {s : Store} {op : Operation} {instant : Timestamp} :
    call? op ⟨s, .now, instant⟩ = none := rfl

@[simp] theorem call?_freshId {s : Store} {op : Operation} {id : Uuid} :
    call? op ⟨s, .freshId, id⟩ = none := rfl

/-- What the clock shows. -/
def reading? : Moment → Option Timestamp
  | ⟨_, .now, instant⟩ => some instant
  | _ => none

/-- A new identifier. -/
def issued? : Moment → Option Uuid
  | ⟨_, .freshId, id⟩ => some id
  | _ => none

/-- The outcome that the storage takes. -/
def recorded? : Moment → Option (Uuid × Completion)
  | ⟨_, .completeAttempt id c, .ok _⟩ => some (id, c)
  | _ => none

/-- The new attempt that the storage takes. -/
def added? : Moment → Option Attempt
  | ⟨_, .insertAttempt a, .ok _⟩ => some a
  | _ => none

/-- No moment records an outcome and adds an attempt at once. -/
theorem added?_eq_none_of_recorded {m : Moment} {id : Uuid} {c : Completion}
    (recorded : m.recorded? = some (id, c)) : m.added? = none := by
  obtain ⟨store, request, answer⟩ := m
  cases request with
  | insertAttempt a => cases recorded
  | _ => rfl

/-- The attempts stay as they are. -/
def LeavesAttempts (m : Moment) : Prop :=
  m.recorded? = none ∧ m.added? = none

/-- The moment is not about the rows of attempts, so that even a failure loses nothing of them. -/
def Idle (m : Moment) : Prop :=
  m.request.isIdle = true

theorem Idle.leavesAttempts {m : Moment} (idle : m.Idle) : m.LeavesAttempts := by
  obtain ⟨store, request, answer⟩ := m
  cases request with
  | completeAttempt id c => cases idle
  | insertAttempt a => cases idle
  | _ => exact ⟨rfl, rfl⟩

end Moment
end CalendarSync
