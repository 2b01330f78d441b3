import CalendarSync.Proofs.Run
import CalendarSync.Simulation.Session

/-!
# Runs in the world

What the simulated world answers is what a run allows, so that a program which finishes in it has
the run that the world gave it.
-/

namespace CalendarSync.Simulation.World
set_option autoImplicit false
open Program

variable {w after : World}

/-- The moments of a program that runs up to its next wait. -/
def moments {α : Type} : Program α → World → List Moment
  | .done _, _ => []
  | .ask request next, w =>
    match w.begin request with
    | (after, .answered answer) => ⟨w.store, request, answer⟩ :: moments (next answer) after
    | (_, .waiting _ _) | (_, .crashed) => []

/-- Taking a planned failure and writing down a request change neither the tables nor what the
storage lists as pending. -/
theorem takeFault_frame (w : World) (access : Access) :
    (w.takeFault access).2.store = w.store ∧ (w.takeFault access).2.leaky = w.leaky := by
  unfold takeFault
  split <;> exact ⟨rfl, rfl⟩

theorem leaky_storage {α : Type} (access : Access) (r : Request)
    (act : Store → Except DomainError (α × Store)) :
    (w.storage access r act).1.leaky = w.leaky := by
  obtain ⟨-, leaky⟩ := takeFault_frame w access
  unfold storage
  cases taken : w.takeFault access with
  | mk fault middle =>
    rw [taken] at leaky
    cases fault with
    | some e => exact leaky
    | none =>
      simp only
      split <;> exact leaky

theorem reads_storage {α : Type} (access : Access) (r : Request) (f : Store → α) :
    w.store.Reads (f w.store) (w.storage access r (reading f)).2
      (w.storage access r (reading f)).1.store := by
  obtain ⟨store, -⟩ := takeFault_frame w access
  unfold storage
  cases taken : w.takeFault access with
  | mk fault middle =>
    rw [taken] at store
    cases fault with
    | some e => exact ⟨store, fun _ h => by cases h⟩
    | none =>
      refine ⟨store, fun found h => ?_⟩
      cases h
      exact congrArg f store

theorem writes_storage (access : Access) (r : Request) (f : Store → Except DomainError Store) :
    w.store.Writes (f w.store) (w.storage access r (writing f)).2
      (w.storage access r (writing f)).1.store := by
  obtain ⟨store, -⟩ := takeFault_frame w access
  unfold storage
  cases taken : w.takeFault access with
  | mk fault middle =>
    rw [taken] at store
    cases fault with
    | some e => exact store
    | none =>
      have recorded : (middle.record r none).store = w.store := store
      simp only [writing, recorded]
      cases f w.store with
      | ok s => exact rfl
      | error e => exact store

theorem answerCall_frame {α : Type} (w : World) (limit : Duration) (reply : Option Reply)
    (answer : World → Reply → α) :
    (w.answerCall limit reply answer).1.store = w.store ∧
      (w.answerCall limit reply answer).1.leaky = w.leaky := by
  unfold answerCall
  split
  · exact ⟨rfl, rfl⟩
  · rename_i reply
    cases moved : w.moveClock reply with
    | none => exact ⟨rfl, rfl⟩
    | some v =>
      have frame : v.store = w.store ∧ v.leaky = w.leaky := by
        unfold moveClock at moved
        obtain ⟨clock, -, rfl⟩ := Option.map_eq_some_iff.1 moved
        exact ⟨rfl, rfl⟩
      simp only
      split
      · exact frame
      · split <;> exact frame

theorem wait_frame {r : Request} {due : Nat} {wait : Wait r} {answer : r.Answer}
    (complete : ∀ v : World, (wait.complete v).1.store = v.store ∧
      (wait.complete v).1.leaky = v.leaky)
    (h : w.wait due wait = (after, .answered answer)) :
    after.store = w.store ∧ after.leaky = w.leaky := by
  have frame := complete w
  unfold World.wait at h
  split at h
  · cases h
  · cases done : wait.complete w with
    | mk v completed =>
      rw [done] at h frame
      cases completed with
      | none => cases h
      | some answer =>
        cases h
        exact frame

theorem cancel_frame (w : World) (token : Token) :
    (w.cancel token).store = w.store ∧ (w.cancel token).leaky = w.leaky := by
  unfold World.cancel
  split <;> exact ⟨rfl, rfl⟩

theorem beginCall_frame {kind : CallKind} {r : Request} {limit : Duration}
    {complete : Option Reply → World → World × Option r.Answer} {answer : r.Answer}
    (frame : ∀ reply v, (complete reply v).1.store = v.store ∧ (complete reply v).1.leaky = v.leaky)
    (h : w.beginCall kind r limit complete = (after, .answered answer)) :
    after.store = w.store ∧ after.leaky = w.leaky := by
  unfold beginCall at h
  cases played : (w.record r none).script.next kind with
  | mk reply script =>
    simp only [played] at h
    obtain ⟨store, leaky⟩ := wait_frame (fun v => frame _ v) h
    rw [store, leaky]
    split
    · exact cancel_frame _ _
    · exact ⟨rfl, rfl⟩

/-- A request that is answered at once gets an answer that a run allows. -/
theorem answers_of_begin {r : Request} {answer : r.Answer} (tight : w.leaky = false)
    (h : w.begin r = (after, .answered answer)) :
    w.store.Answers r answer after.store ∧ after.leaky = false := by
  have reads {α : Type} {access : Access} {r : Request} {f : Store → α} {value : α}
      {answer : Except DomainError α} (same : f w.store = value)
      (h : w.storage access r (reading f) = (after, answer)) :
      w.store.Reads value answer after.store ∧ after.leaky = false := by
    have read := reads_storage (w := w) access r f
    have leaky := leaky_storage (w := w) access r (reading f)
    rw [h] at read leaky
    exact ⟨same ▸ read, leaky.trans tight⟩
  have writes {access : Access} {r : Request} {f : Store → Except DomainError Store}
      {answer : Except DomainError Unit} (h : w.storage access r (writing f) = (after, answer)) :
      w.store.Writes (f w.store) answer after.store ∧ after.leaky = false := by
    have write := writes_storage (w := w) access r f
    have leaky := leaky_storage (w := w) access r (writing f)
    rw [h] at write leaky
    exact ⟨write, leaky.trans tight⟩
  have split {r : Request} {result : World × r.Answer} {answer : r.Answer}
      (h : begin.answered result = (after, .answered answer)) : result = (after, answer) := by
    obtain ⟨v, a⟩ := result
    cases h
    rfl
  unfold World.begin at h
  cases r with
  | getEvent id => exact reads rfl (split h)
  | pendingAttempts department =>
    refine reads ?_ (split h)
    rw [World.pendingAttempts, tight]
    rfl
  | attemptsOf event => exact reads rfl (split h)
  | resourcesOf department => exact reads rfl (split h)
  | send op attempts correlation limit =>
    obtain ⟨store, leaky⟩ := beginCall_frame (fun reply v => answerCall_frame v _ reply _) h
    exact ⟨store, leaky.trans tight⟩
  | listResources department limit =>
    obtain ⟨store, leaky⟩ := beginCall_frame (fun reply v => answerCall_frame v _ reply _) h
    exact ⟨store, leaky.trans tight⟩
  | now =>
    cases h
    exact ⟨rfl, tight⟩
  | freshId =>
    cases h
    exact ⟨rfl, tight⟩
  | isCancelled token =>
    cases h
    exact ⟨rfl, tight⟩
  | pause token policy retry =>
    simp only at h
    split at h
    · cases h
    · split at h
      · cases h
        exact ⟨rfl, tight⟩
      · obtain ⟨store, leaky⟩ := wait_frame (fun v => ⟨rfl, rfl⟩) h
        exact ⟨store, leaky.trans tight⟩
  | _ => exact writes (split h)

/-- The program needed no wait. -/
def isFinished {α : Type} : World × Simulation.Progress α → Bool
  | (_, .finished _) => true
  | _ => false

/-- The result of a program that needed no wait. -/
def result? {α : Type} : World × Simulation.Progress α → Option α
  | (_, .finished value) => some value
  | _ => none

/-- A program that finishes in the world has a run with the moments that the world gave it. -/
theorem runs_of_result? {α : Type} {value : α} (w : World) (p : Program α)
    (tight : w.leaky = false) (finished : result? (w.run p) = some value) :
    Runs p w.store (w.moments p) value (w.run p).1.store ∧
      (w.run p).1.leaky = false := by
  induction p generalizing w with
  | done result =>
    obtain rfl := Option.some.inj finished
    exact ⟨.done _ _, tight⟩
  | ask r next ih =>
    unfold World.run at finished ⊢
    unfold moments
    cases begun : w.begin r with
    | mk middle reaction =>
      rw [begun] at finished
      cases reaction with
      | answered answer =>
        obtain ⟨answers, tight'⟩ := answers_of_begin tight begun
        obtain ⟨rest, tight''⟩ := ih answer middle tight' finished
        exact ⟨.ask answers rest, tight''⟩
      | waiting due wait => cases finished
      | crashed => cases finished

theorem exists_runs {α : Type} (w : World) (p : Program α) (tight : w.leaky = false)
    (finished : isFinished (w.run p) = true) :
    ∃ value, Runs p w.store (w.moments p) value (w.run p).1.store ∧
      (w.run p).1.leaky = false := by
  cases ran : w.run p with
  | mk after progress =>
    rw [ran] at finished
    cases progress with
    | finished value =>
      have known : result? (w.run p) = some value := by rw [ran]; rfl
      exact ⟨value, ran ▸ runs_of_result? w p tight known⟩
    | suspended s => cases finished
    | crashed => cases finished

/-- An instant on the second. -/
def atSecond (second : Int) : Timestamp :=
  ⟨second, 0, by decide⟩

/-- A department with two updates of one event, a create and a delete, and a Planner that is too
busy for the updates. -/
def sample : World :=
  let created := atSecond 1000
  let attempt (id : Nat) (event : Nat) (op : Operation) : Attempt :=
    .pending (.ofNat id) (.ofNat event) op ⟨created, created⟩ created
  let event (id : Nat) (attempts : List Attempt) : Event :=
    ⟨.ofNat id, "rooms", "item", false, created, attempts⟩
  Session.world (atSecond 2000)
    (.ofEvents [event 1 [attempt 11 1 .update, attempt 12 1 .update], event 2 [attempt 21 2 .create],
      event 3 [attempt 31 3 .delete]] [])
    ⟨fun _ => [], [(.ofNat 1, .fails (some 15))], []⟩ [] false

/-- Calls are repeated up to three times, under a child of the token of the world. -/
def samplePolicy : CallPolicy :=
  ⟨⟨4, .ofMillis 200, 2.0, .ofSeconds 2⟩, .ofSeconds 30, .child (.root 0) 0⟩

/-- Services that are built for the token of the world. -/
def sampleServices : Services :=
  ⟨samplePolicy, 10, { samplePolicy with token := .child (.root 0) 1 }⟩

end CalendarSync.Simulation.World
