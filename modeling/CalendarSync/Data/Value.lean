/-!
# Data values

What a configuration file or a persisted record is made of, whatever its notation.
-/

namespace CalendarSync.Data
set_option autoImplicit false

/-- A value of a data notation. The fields of a record keep their order and may repeat. -/
inductive Value where
  | null
  | bool (b : Bool)
  | int (i : Int)
  | float (x : Float)
  | text (s : String)
  | list (items : List Value)
  | record (fields : List (String × Value))
  /-- Well-formed, but beyond what any reader can represent; it can only be skipped. -/
  | unreadable
  /-- A number that is too large even to be skipped. -/
  | tooLarge
deriving Inhabited

namespace Value

/-- A text, or null. -/
def ofText? : Option String → Value
  | some s => text s
  | none => null

mutual

/-- No number in the value is too large to be skipped. -/
def isSkippable : Value → Bool
  | tooLarge => false
  | list items => areSkippable items
  | record fields => haveSkippable fields
  | _ => true

/-- No number in the values is too large to be skipped. -/
def areSkippable : List Value → Bool
  | [] => true
  | v :: rest => v.isSkippable && areSkippable rest

/-- No number in the fields is too large to be skipped. -/
def haveSkippable : List (String × Value) → Bool
  | [] => true
  | (_, v) :: rest => v.isSkippable && haveSkippable rest

end

end Value
end CalendarSync.Data
