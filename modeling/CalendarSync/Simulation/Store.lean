import CalendarSync.Call
import CalendarSync.DomainError
import CalendarSync.Event
import CalendarSync.Resource

/-!
# The store

Tables in memory, in the order in which their rows were added: events, attempts, calls and
resources.
-/

namespace CalendarSync.Simulation
set_option autoImplicit false

/-- The tables; events are kept without their attempts. -/
structure Store where
  events : List Event
  attempts : List Attempt
  calls : List Call
  resources : List Resource
deriving DecidableEq

/-- Changes the first row that meets a condition; none if no row does. -/
def changeFirst? {α : Type} (p : α → Bool) (f : α → α) : List α → Option (List α)
  | [] => none
  | row :: rows => if p row then some (f row :: rows) else (changeFirst? p f rows).map (row :: ·)

namespace Store

/-- The tables of given events, whose attempts are moved to a table of their own. -/
def ofEvents (events : List Event) (resources : List Resource) : Store :=
  ⟨events.map Event.row, events.flatMap (·.attempts), [], resources⟩

/-- The row of an event. -/
def event? (s : Store) (id : Uuid) : Option Event :=
  s.events.find? fun e => e.id = id

/-- Replaces the row of an event, or adds it. -/
def saveEvent (s : Store) (event : Event) : Store :=
  match changeFirst? (fun e => e.id = event.id) (fun _ => event.row) s.events with
  | some events => { s with events }
  | none => { s with events := s.events ++ [event.row] }

/-- The attempt belongs to an event of the department. -/
def belongsTo (s : Store) (department : String) (a : Attempt) : Bool :=
  s.events.any fun e => e.id = a.event && e.department == department

/-- The pending attempts of a department. -/
def pending (s : Store) (department : String) : List Attempt :=
  s.attempts.filter fun a => a.isPending && s.belongsTo department a

/-- The history of an event, the oldest attempt first. -/
def history (s : Store) (event : Uuid) : List Attempt :=
  Attempt.oldestFirst (s.attempts.filter fun a => a.event = event)

/-- Adds an attempt. -/
def insertAttempt (s : Store) (a : Attempt) : Store :=
  { s with attempts := s.attempts ++ [a] }

/-- Records the outcome of the first attempt with an identifier. -/
def completeAttempt (s : Store) (id : Uuid) (c : Completion) : Except DomainError Store :=
  match changeFirst? (fun a => a.id = id) (·.complete c) s.attempts with
  | some attempts => .ok { s with attempts }
  | none => .error (.notFound s!"sync log {id.text}")

/-- Adds a call. -/
def insertCall (s : Store) (c : Call) : Store :=
  { s with calls := s.calls ++ [c] }

/-- Replaces the call with the same identifier. -/
def updateCall (s : Store) (c : Call) : Except DomainError Store :=
  match changeFirst? (fun d => d.id = c.id) (fun _ => c) s.calls with
  | some calls => .ok { s with calls }
  | none => .error (.notFound s!"service call {c.id.text}")

/-- The resources of a department, deleted ones too. -/
def resourcesOf (s : Store) (department : String) : List Resource :=
  s.resources.filter fun r => r.department == department

/-- Adds resources. -/
def insertResources (s : Store) (added : List Resource) : Store :=
  { s with resources := s.resources ++ added }

/-- Gives resources a deletion time. -/
def deleteResources (s : Store) (ids : List Uuid) (deletedAt : Timestamp) : Store :=
  { s with resources := s.resources.map fun r =>
      if ids.contains r.id then { r with deletedAt := some deletedAt } else r }

end Store
end CalendarSync.Simulation
