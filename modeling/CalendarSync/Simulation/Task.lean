import CalendarSync.Assembly
import CalendarSync.Simulation.World

/-!
# Tasks

Programs that run in a world up to their next wait, and the background task of a worker, which
waits, runs a tick for as long as it may take, and waits again until a shutdown.
-/

namespace CalendarSync.Simulation
set_option autoImplicit false

/-- A program at a wait. -/
structure Suspended (α : Type) where
  request : Request
  due : Nat
  wait : Wait request
  next : request.Answer → Program α

/-- How far a program has come. -/
inductive Progress (α : Type) where
  | finished (value : α)
  | suspended (s : Suspended α)
  | crashed

namespace World
variable {α : Type}

/-- Runs a program up to its next wait. -/
def run : Program α → World → World × Progress α
  | .done value, w => (w, .finished value)
  | .ask request next, w =>
    match w.begin request with
    | (w, .answered answer) => run (next answer) w
    | (w, .waiting due wait) => (w, .suspended ⟨request, due, wait, next⟩)
    | (w, .crashed) => (w, .crashed)

/-- Ends the wait of a program and runs it up to the next one. -/
def resume (s : Suspended α) (w : World) : World × Progress α :=
  match s.wait.complete w with
  | (w, some answer) => w.run (s.next answer)
  | (w, none) => (w, .crashed)

end World

/-- What a worker's task is doing. -/
inductive Activity where
  /-- Waiting for the next tick. -/
  | polling (due : Nat)
  /-- Running a tick, which is cut off at the deadline. -/
  | ticking (deadline : Nat) (tick : Suspended TickSummary)
  | ended
  | crashed

/-- The background task of a worker. -/
structure Task where
  token : Token
  services : Services
  settings : WorkerSettings
  activity : Activity

namespace Task

/-- When the task goes on by itself, if it does. -/
def due? (t : Task) : Option Nat :=
  match t.activity with
  | .polling due => some due
  | .ticking deadline tick => some (min deadline tick.due)
  | .ended | .crashed => none

/-- Goes back to waiting for a tick, unless a shutdown has come. -/
def poll (t : Task) (w : World) : Task :=
  if w.isCancelled t.token then { t with activity := .ended }
  else { t with activity := .polling (w.time + t.settings.poll.waitMillis) }

/-- Goes on from what a tick has come to. -/
def settle (t : Task) (deadline : Nat) : World × Progress TickSummary → World × Task
  | (w, .finished _) => (w, t.poll w)
  | (w, .crashed) => (w, { t with activity := .crashed })
  | (w, .suspended tick) =>
    if deadline ≤ w.time then (w, t.poll w)
    else (w, { t with activity := .ticking deadline tick })

/-- Lets the task go on if it can. -/
def react (t : Task) (w : World) : World × Task :=
  match t.activity with
  | .polling due =>
    if w.isCancelled t.token then (w, { t with activity := .ended })
    else if due ≤ w.time then
      let tick := t.services.tick t.token t.settings.reconcileResources t.settings.departments
      t.settle (w.time + t.settings.processingTimeout.waitMillis) (w.run tick)
    else (w, t)
  | .ticking deadline tick =>
    match w.cut? tick.wait with
    | some answer => t.settle deadline (w.run (tick.next answer))
    | none =>
      if tick.due ≤ w.time then t.settle deadline (w.resume tick)
      else if deadline ≤ w.time then (w, t.poll w)
      else (w, t)
  | .ended | .crashed => (w, t)

end Task
end CalendarSync.Simulation
