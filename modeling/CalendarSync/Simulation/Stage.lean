import CalendarSync.Simulation.Task

/-!
# The stage

A world together with the background tasks in it. The foreground runs programs and waits;
background tasks go on only while the foreground waits. What falls on the same millisecond is
ordered: a planned shutdown comes first, then the end of the foreground's wait, and a background
task goes on in the next wait.
-/

namespace CalendarSync.Simulation
set_option autoImplicit false

/-- A world and its background tasks. -/
structure Stage where
  world : World
  tasks : List Task

namespace Stage

/-- Lets every background task go on that can, one after the other. -/
def reactAll (world : World) : List Task → World × List Task
  | [] => (world, [])
  | task :: rest =>
    let (world, task) := task.react world
    let (world, rest) := reactAll world rest
    (world, task :: rest)

/-- Lets the background tasks go on; a second round reaches those that a later one has woken. -/
def settle (s : Stage) : Stage :=
  let (world, tasks) := reactAll s.world s.tasks
  let (world, tasks) := reactAll world tasks
  ⟨world, tasks⟩

/-- The earliest time after `now` at which something happens, but not after `due`. -/
def nextTime (s : Stage) (now due : Nat) (cancelAt : Option Nat) : Nat :=
  (cancelAt.toList ++ s.tasks.filterMap Task.due?).foldl
    (fun earliest t => if now < t then min earliest t else earliest) due

/-- Moves to a time, at which a planned shutdown may come. -/
def moveTo (s : Stage) (time : Nat) (cancelAt : Option Nat) : Stage :=
  let world := { s.world with time }
  { s with world := if cancelAt = some time then world.cancel world.token else world }

/-- Lets time pass from `now` until it is `due` or something stops the wait. -/
def passUntil (due : Nat) (cancelAt : Option Nat) (stop : Stage → Bool) (now : Nat)
    (s : Stage) : Stage :=
  if now < due then
    let s := s.settle
    if stop s then s
    else
      let next := max (now + 1) (s.nextTime now due cancelAt)
      let s := s.moveTo next cancelAt
      if stop s then s else passUntil due cancelAt stop next s
  else s
termination_by due - now
decreasing_by omega

/-- Waits until a time. -/
def waitUntil (s : Stage) (due : Nat) (cancelAt : Option Nat) (stop : Stage → Bool) : Stage :=
  s.passUntil due cancelAt stop s.world.time

/-- Runs a program in the foreground, with a shutdown at a given time; none if it breaks down. -/
def perform {α : Type} (cancelAt : Option Nat) :
    Program α → Stage → Stage × Option α
  | .done value, s => (s, some value)
  | .ask request next, s =>
    match s.world.begin request with
    | (world, .answered answer) => perform cancelAt (next answer) { s with world }
    | (world, .crashed) => ({ s with world }, none)
    | (world, .waiting due wait) =>
      let s := waitUntil { s with world } due cancelAt fun s => (s.world.cut? wait).isSome
      match s.world.cut? wait with
      | some answer => perform cancelAt (next answer) s
      | none =>
        match wait.complete s.world with
        | (world, some answer) => perform cancelAt (next answer) { s with world }
        | (world, none) => ({ s with world }, none)

end Stage
end CalendarSync.Simulation
