import CalendarSync.Attempt

/-!
# Calendar events

A calendar item observed in a department's mailbox, together with the history of its attempts.
-/

namespace CalendarSync
set_option autoImplicit false

/-- A calendar item with its attempts. -/
structure Event where
  id : Uuid
  department : String
  /-- The item's identifier in the mailbox. -/
  sourceItem : String
  isDeleted : Bool
  createdAt : Timestamp
  attempts : List Attempt
deriving DecidableEq

namespace Event

/-- An event that nothing has been proposed for. -/
def observed (id : Uuid) (department sourceItem : String) (createdAt : Timestamp) : Event :=
  ⟨id, department, sourceItem, false, createdAt, []⟩

/-- Adds an attempt to the end of the history. -/
def append (e : Event) (a : Attempt) : Event :=
  { e with attempts := e.attempts ++ [a] }

/-- Flags the event as deleted; its history stays. -/
def markDeleted (e : Event) : Event :=
  { e with isDeleted := true }

/-- The event without its history. -/
def row (e : Event) : Event :=
  { e with attempts := [] }

end Event
end CalendarSync
