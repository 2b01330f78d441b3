import CalendarSync.Queue
import CalendarSync.Simulation.Stage

/-!
# Sessions

A simulation from the outside: services and a worker on a stage, driven step by step. Restarting
replaces the services, the worker and the shutdown token, and leaves the world as it is.
-/

namespace CalendarSync.Simulation
set_option autoImplicit false

/-- A simulation under way. -/
structure Session where
  stage : Stage
  /-- The services that are built for a shutdown token. -/
  assemble : Token → Services
  settings : WorkerSettings
  /-- The worker's task, while the worker runs. -/
  running : Option Nat

namespace Session

/-- A world at its beginning. -/
def world (clock : Timestamp) (store : Store) (script : Script)
    (faults : List (Access × Option DomainError)) (leaky : Bool) : World where
  time := 0
  clock
  store
  script
  faults
  leaky
  issued := 0
  generation := 0
  cancelled := []
  trace := []

/-- A session at its beginning; the worker has not been started. -/
def begin (world : World) (assemble : Token → Services) (settings : WorkerSettings) : Session :=
  ⟨⟨world, []⟩, assemble, settings, none⟩

/-- The shutdown token in use. -/
def token (s : Session) : Token :=
  s.stage.world.token

/-- The services in use. -/
def services (s : Session) : Services :=
  s.assemble s.token

/-- Changes the world. -/
def modifyWorld (s : Session) (f : World → World) : Session :=
  { s with stage := { s.stage with world := f s.stage.world } }

/-- Whether a shutdown has been requested. -/
def isCancelled (s : Session) : Bool :=
  s.stage.world.isCancelled s.token

/-- Requests a shutdown. -/
def cancel (s : Session) : Session :=
  s.modifyWorld fun w => w.cancel w.token

/-- Forgets the recorded requests. -/
def clearTrace (s : Session) : Session :=
  s.modifyWorld fun w => { w with trace := [] }

/-- The recorded requests, in order. -/
def trace (s : Session) : List Entry :=
  s.stage.world.trace.reverse

/-- Runs a program in the foreground; a shutdown may come after `cancelAfter` milliseconds. -/
def perform {α : Type} (s : Session) (cancelAfter : Option Nat) (program : Program α) :
    Session × Option α :=
  let s := if cancelAfter = some 0 then s.cancel else s
  let w := s.stage.world
  let (stage, result) := s.stage.perform (cancelAfter.map (w.time + ·)) program
  ({ s with stage }, result)

/-- Lets time pass. -/
def sleep (s : Session) (ms : Nat) : Session :=
  { s with stage := s.stage.waitUntil (s.stage.world.time + ms) none fun _ => false }

/-- Moves the clock; none if it cannot go there. -/
def advanceClock (s : Session) (ms : Int) : Option Session :=
  (s.stage.world.clock.addMillis? ms).map fun clock => s.modifyWorld ({ · with clock })

/-- Extends what the Planner does. -/
def instruct (s : Session) (more : Script) : Session :=
  s.modifyWorld fun w => { w with script := w.script.extend more }

/-- Plans further failures of the storage. -/
def planFaults (s : Session) (faults : List (Access × Option DomainError)) : Session :=
  s.modifyWorld fun w => { w with faults := w.faults ++ faults }

/-- Starts the worker. -/
def start (s : Session) : Except WorkerError Session :=
  if s.running.isSome then .error .alreadyRunning
  else if s.isCancelled then .error .shutDown
  else if !s.settings.enabled then .error .disabled
  else
    let w := s.stage.world
    let task : Task := Task.poll ⟨s.token, s.services, s.settings, .ended⟩ w
    let stage := { s.stage with tasks := s.stage.tasks ++ [task] }
    .ok { s with stage, running := some s.stage.tasks.length }

/-- What the worker's task has come to; none while it goes on. -/
def joined (index : Nat) (stage : Stage) : Option (Except WorkerError Unit) :=
  match stage.tasks[index]? with
  | none => some (.ok ())
  | some task =>
    match task.activity with
    | .polling _ | .ticking _ _ => none
    | .crashed => some (.error .taskPanicked)
    | .ended => some (.ok ())

/-- Requests a shutdown and waits for the worker's task to end. -/
def stop (s : Session) : Session × Except WorkerError Unit :=
  match s.running with
  | none => (s, .error .notRunning)
  | some index =>
    let s := { s.cancel with running := none }
    let limit := s.settings.joinTimeout
    let stage := s.stage.waitUntil (s.stage.world.time + limit.waitMillis) none
      fun stage => (joined index stage).isSome
    ({ s with stage }, (joined index stage).getD (.error (.joinTimeout limit)))

/-- Drops the worker; if it runs a shutdown is requested. -/
def dropWorker (s : Session) : Session :=
  if s.running.isSome then { s.cancel with running := none } else s

/-- Drops the worker and starts over in the same world, with a new shutdown token. -/
def restart (s : Session) : Session :=
  s.dropWorker.modifyWorld fun w => { w with generation := w.generation + 1 }

end Session
end CalendarSync.Simulation
