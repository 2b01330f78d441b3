import CalendarSync.Data.Json.Token

/-!
# Reading JSON

The tokens are taken one after the other; lists and records that are still open wait on a stack. A
text is a value if it ends when exactly one value has been completed.
-/

namespace CalendarSync.Data.Json
set_option autoImplicit false

/-- The fields of a record, in reverse; a name that is no text spoils the record. -/
abbrev Fields := List (Option String × Value)

/-- A list or record that a value is missing from; items and fields are in reverse. -/
inductive Open where
  | list (items : List Value)
  | record (fields : Fields) (name : Option String)

/-- What is due next. -/
inductive State where
  | value (stack : List Open)
  /-- The first item of a list, or its end. -/
  | firstItem (stack : List Open)
  /-- A comma and another item, or the end of a list. -/
  | afterItem (items : List Value) (stack : List Open)
  /-- The first field of a record, or its end. -/
  | firstField (stack : List Open)
  /-- Another field of a record. -/
  | field (fields : Fields) (stack : List Open)
  | colon (fields : Fields) (name : Option String) (stack : List Open)
  /-- A comma and another field, or the end of a record. -/
  | afterField (fields : Fields) (stack : List Open)
  | finished (v : Value)

/-- A completed record. -/
def close (fields : Fields) : Value :=
  match fields.reverse.mapM fun (name, v) => name.map (·, v) with
  | some fields => .record fields
  | none => .unreadable

/-- Adds a completed value to what is open. -/
def State.give (v : Value) : List Open → State
  | [] => finished v
  | .list items :: stack => afterItem (v :: items) stack
  | .record fields name :: stack => afterField ((name, v) :: fields) stack

/-- A value starts; `stack` is what it stands in. -/
def State.start (stack : List Open) : Token → Option State
  | .word v => some (give v stack)
  | .text (some s) => some (give (.text s) stack)
  | .text none => some (give .unreadable stack)
  | .openList => some (firstItem stack)
  | .openRecord => some (firstField stack)
  | _ => none

/-- Takes one token. -/
def State.step : State → Token → Option State
  | value stack, t => start stack t
  | firstItem stack, .closeList => some (give (.list []) stack)
  | firstItem stack, t => start (.list [] :: stack) t
  | afterItem items stack, .comma => some (value (.list items :: stack))
  | afterItem items stack, .closeList => some (give (.list items.reverse) stack)
  | firstField stack, .closeRecord => some (give (.record []) stack)
  | firstField stack, .text name => some (colon [] name stack)
  | field fields stack, .text name => some (colon fields name stack)
  | colon fields name stack, .colon => some (value (.record fields name :: stack))
  | afterField fields stack, .comma => some (field fields stack)
  | afterField fields stack, .closeRecord => some (give (close fields) stack)
  | _, _ => none

/-- The value of a JSON text. -/
def read? (s : String) : Option Value := do
  match ← (← tokens s.toList).foldlM State.step (.value []) with
  | .finished v => some v
  | _ => none

end CalendarSync.Data.Json
