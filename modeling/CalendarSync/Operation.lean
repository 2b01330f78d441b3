import CalendarSync.Text.Blank
import CalendarSync.Text.LowerCase

/-!
# Operations

What an attempt asks the Planner to do with a calendar item.
-/

namespace CalendarSync
set_option autoImplicit false

/-- The operations of the Planner on a calendar item. -/
inductive Operation where
  | create
  | update
  | delete
deriving DecidableEq, Repr

namespace Operation

/-- The stable name of an operation. -/
def name : Operation → String
  | create => "create"
  | update => "update"
  | delete => "delete"

/-- The operation with exactly this name. -/
def ofName? (s : String) : Option Operation :=
  if s = "create" then some create
  else if s = "update" then some update
  else if s = "delete" then some delete
  else none

/-- Reads an operation's name in any letter case, with blanks around it. -/
def read (s : String) : Except String Operation :=
  match ofName? (Text.lowerCase (Text.trim s)) with
  | some op => .ok op
  | none => .error s!"Invalid SyncOperation: {s}"

/-- The name under which the calls of an operation are logged. -/
def callLabel : Operation → String
  | create => "create_events"
  | update => "update_events"
  | delete => "delete_events"

theorem ofName?_name (op : Operation) : ofName? op.name = some op := by
  cases op <;> decide

end Operation
end CalendarSync
