import CalendarSync.Data.Json.Text
import CalendarSync.Data.Value
import CalendarSync.Decimal.Layout

/-!
# Writing JSON

Values as JSON without blanks, with the fields of a record in their order.
-/

namespace CalendarSync.Data.Json
set_option autoImplicit false

/-- Doubles are written without an exponent from 10^-5 to below 10^16, and whole ones with a point.
Of two equally near decimals the one with the even last digit is taken. -/
def layout : Decimal.Layout where
  positional := fun order => -5 ≤ order && order ≤ 15
  wholePoint := true
  tieUp := fun digits => digits % 2 = 1

/-- A double; JSON has no numerals for infinities, nor for what is no number. -/
def renderFloat (x : Float) : List Char :=
  match Decimal.Binary.ofFloat? x with
  | some b => layout.digits b
  | none => ['n', 'u', 'l', 'l']

mutual

/-- The characters of a value. -/
def render : Value → List Char
  | .null | .unreadable | .tooLarge => ['n', 'u', 'l', 'l']
  | .bool true => ['t', 'r', 'u', 'e']
  | .bool false => ['f', 'a', 'l', 's', 'e']
  | .int i => Decimal.signedNumeral i
  | .float x => renderFloat x
  | .text s => quote s.toList
  | .list items => '[' :: renderItems items
  | .record fields => '{' :: renderFields fields

/-- The items of a list, and its end. -/
def renderItems : List Value → List Char
  | [] => [']']
  | [v] => render v ++ [']']
  | v :: rest => render v ++ ',' :: renderItems rest

/-- The fields of a record, and its end. -/
def renderFields : List (String × Value) → List Char
  | [] => ['}']
  | [(name, v)] => quote name.toList ++ ':' :: render v ++ ['}']
  | (name, v) :: rest => quote name.toList ++ ':' :: render v ++ ',' :: renderFields rest

end

/-- The text of a value. -/
def print (v : Value) : String :=
  String.ofList (render v)

end CalendarSync.Data.Json
