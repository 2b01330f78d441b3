import CalendarSync.Proofs.Dating
import CalendarSync.Proofs.World

/-!
# Histories

The operations of the library one after the other, on tables in memory: attempts are proposed, events
are deleted and cycles are run, in any order.
-/

namespace CalendarSync
set_option autoImplicit false
open Program Simulation

/-- An operation of the library that changes attempts. -/
inductive Command where
  /-- Proposes an attempt if the event is stale against the window now seen. -/
  | propose (event : Uuid) (seen : Window)
  | delete (event : Uuid)
  | cycle (policy : CallPolicy) (maxCreates : Nat) (department : String)

namespace Command

/-- What an operation answers. -/
@[reducible] def Result : Command → Type
  | propose _ _ | delete _ => Option Attempt
  | cycle _ _ _ => CycleReport

/-- The service behind an operation. -/
def program : (c : Command) → Service c.Result
  | propose event seen => Queue.proposeIfStale event seen
  | delete event => Queue.delete event
  | cycle policy maxCreates department => Cycle.run policy maxCreates department

theorem dated_program {times : List Timestamp} {ids : List Uuid} (c : Command) :
    Dated times ids c.program := by
  cases c with
  | propose event seen => exact dated_proposeIfStale
  | delete event => exact dated_delete
  | cycle policy maxCreates department => exact dated_run

end Command

/-- One operation of a history. -/
structure Episode where
  command : Command
  trace : List Moment
  result : Except DomainError command.Result

/-- The moments of a history. -/
def momentsOf (episodes : List Episode) : List Moment :=
  episodes.flatMap (·.trace)

/-- Operations one after the other lead from some tables to others. -/
inductive History (s₀ : Store) : List Episode → Store → Prop where
  | start : History s₀ [] s₀
  | next {episodes : List Episode} {s after : Store} {command : Command} {t : List Moment}
      {result : Except DomainError command.Result} (past : History s₀ episodes s)
      (run : Runs command.program s t result after) :
      History s₀ (episodes ++ [⟨command, t, result⟩]) after

/-- The clock never goes back and identifiers increase. -/
structure Forward (t : List Moment) : Prop where
  clock : (readings t).Pairwise (· ≤ ·)
  ids : (issued t).Pairwise (· < ·)

theorem Forward.left {t t' : List Moment} (forward : Forward (t ++ t')) : Forward t := by
  obtain ⟨clock, ids⟩ := forward
  rw [readings, List.filterMap_append] at clock
  rw [issued, List.filterMap_append] at ids
  exact ⟨(List.pairwise_append.1 clock).1, (List.pairwise_append.1 ids).1⟩

theorem Forward.nodup {t : List Moment} (forward : Forward t) : (issued t).Nodup :=
  forward.ids.imp fun {a b} (less : a.number < b.number) same => by
    rw [same] at less
    exact Nat.lt_irrefl _ less

theorem momentsOf_append (episodes more : List Episode) :
    momentsOf (episodes ++ more) = momentsOf episodes ++ momentsOf more :=
  List.flatMap_append

theorem momentsOf_singleton (e : Episode) : momentsOf [e] = e.trace := by
  simp [momentsOf]

namespace History
variable {s₀ s middle after : Store} {episodes more : List Episode}

theorem trans (past : History s₀ episodes s) (later : History s more after) :
    History s₀ (episodes ++ more) after := by
  induction later with
  | start => rwa [List.append_nil]
  | next _ run ih =>
    rw [← List.append_assoc]
    exact ih.next run

/-- In a history from a table without attempts, a clock that never goes back and identifiers that
increase are never behind the attempts. -/
theorem timely (history : History s₀ episodes s) (empty : s₀.attempts = [])
    (forward : Forward (momentsOf episodes)) :
    (∀ m ∈ momentsOf episodes, m.Timely) ∧
      ∀ a ∈ s.attempts, a.createdAt ∈ readings (momentsOf episodes) ∧
        a.id ∈ issued (momentsOf episodes) := by
  induction history with
  | start => simp [momentsOf, empty]
  | @next episodes s after command t result past run ih =>
    rw [momentsOf_append, momentsOf_singleton] at forward ⊢
    obtain ⟨timely, known⟩ := ih forward.left
    obtain ⟨clock, ids⟩ := forward
    rw [readings, List.filterMap_append, List.pairwise_append] at clock
    rw [issued, List.filterMap_append, List.pairwise_append] at ids
    obtain ⟨timely', known'⟩ :=
      command.dated_program.timely run known clock.2.2 clock.2.1 ids.2.2 ids.2.1
    refine ⟨List.forall_mem_append.2 ⟨timely, timely'⟩, ?_⟩
    rw [readings, issued, List.filterMap_append, List.filterMap_append]
    exact known'

end History

/-! ## Histories in the world -/

namespace Simulation.World

/-- The world after operations one after the other. -/
def perform : List Command → World → World
  | [], w => w
  | c :: commands, w => perform commands (w.run c.program).1

/-- The moments of operations one after the other. -/
def performed : List Command → World → List Moment
  | [], _ => []
  | c :: commands, w => w.moments c.program ++ performed commands (w.run c.program).1

/-- No operation needs a wait. -/
def finishes : List Command → World → Bool
  | [], _ => true
  | c :: commands, w =>
    isFinished (w.run c.program) && finishes commands (w.run c.program).1

/-- Operations that finish in the world have a history with the moments that the world gave them. -/
theorem exists_history (commands : List Command) (w : World) (tight : w.leaky = false)
    (finished : finishes commands w = true) :
    ∃ episodes, History w.store episodes (w.perform commands).store ∧
      momentsOf episodes = w.performed commands := by
  induction commands generalizing w with
  | nil => exact ⟨[], .start, rfl⟩
  | cons c commands ih =>
    obtain ⟨now, later⟩ := Bool.and_eq_true_iff.1 finished
    obtain ⟨result, run, tight'⟩ := exists_runs w c.program tight now
    obtain ⟨episodes, history, moments⟩ := ih (w.run c.program).1 tight' later
    refine ⟨_, (History.start.next run).trans history, ?_⟩
    rw [momentsOf_append, List.nil_append, momentsOf_singleton, moments]
    rfl

/-- Two events without attempts, and a Planner that is at first too busy to delete. -/
def standing : World :=
  let created := atSecond 1000
  let busy : Reply := { Reply.standard with results := some [⟨.position 0, false, some 15⟩] }
  let event (id : Nat) : Event := .observed (.ofNat id) "rooms" "item" created
  Session.world (atSecond 2000) (.ofEvents [event 1, event 2] [])
    ⟨fun kind => if kind = .events .delete then [busy] else [], [], []⟩ [] false

/-- One event is deleted before its create is sent. The other one is created and deleted, and its
delete is repeated. -/
def lifetimes : List Command :=
  let seen : Window := ⟨atSecond 3000, atSecond 4000⟩
  let cycle := Command.cycle samplePolicy 10 "rooms"
  [.propose (.ofNat 2) seen, .delete (.ofNat 2), .propose (.ofNat 1) seen, cycle,
    .delete (.ofNat 1), cycle, cycle]

end Simulation.World
end CalendarSync
