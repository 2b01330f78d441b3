import CalendarSync.Data.Value
import CalendarSync.Timestamp.Text
import CalendarSync.Uuid

/-!
# Decoding

How values become numbers, texts and the parts of a structure. A structure is a record whose known
fields stand at most once, in any order and among unknown ones, or a list of its fields in order.
-/

namespace CalendarSync.Data
set_option autoImplicit false

/-- What a structure's value holds for one of its fields. -/
inductive Slot where
  | given (v : Value)
  /-- The record has no such field. -/
  | absent
  /-- The list is too short. -/
  | beyond

namespace Slot
variable {α : Type}

/-- A field that must be there. -/
def required (decode : Value → Option α) : Slot → Option α
  | given v => decode v
  | absent | beyond => none

/-- A field that may be null; a record may leave it out, but not a list. -/
def optional (decode : Value → Option α) : Slot → Option (Option α)
  | given .null => some none
  | given v => (decode v).map some
  | absent => some none
  | beyond => none

/-- A field that may be left out, but not be null. -/
def withDefault (default : α) (decode : Value → Option α) : Slot → Option α
  | given v => decode v
  | absent | beyond => some default

end Slot

namespace Value

/-- What the fields of a record hold for one name; a field must not stand twice. -/
def slot? (fields : List (String × Value)) (name : String) : Option Slot :=
  match fields.filter fun f => f.1 = name with
  | [] => some .absent
  | [(_, v)] => some (.given v)
  | _ => none

/-- The items of a list as the fields of a structure, which must not be fewer. -/
def slotsOfItems : List Value → List String → Option (List Slot)
  | [], names => some (names.map fun _ => .beyond)
  | _ :: _, [] => none
  | v :: items, _ :: names => (slotsOfItems items names).map (.given v :: ·)

/-- What a value holds for the fields of a structure. -/
def slots? (names : List String) : Value → Option (List Slot)
  | record fields => names.mapM (slot? fields)
  | list items => slotsOfItems items names
  | _ => none

/-- A truth value. -/
def toBool? : Value → Option Bool
  | bool b => some b
  | _ => none

/-- A whole number. -/
def toInt? : Value → Option Int
  | int i => some i
  | _ => none

/-- A whole number of at most 32 bits without a sign. -/
def toUInt32? (v : Value) : Option UInt32 := do
  let i ← v.toInt?
  if 0 ≤ i ∧ i < UInt32.size then some (UInt32.ofNat i.toNat) else none

/-- A whole number of at most 64 bits without a sign. -/
def toUInt64? (v : Value) : Option UInt64 := do
  let i ← v.toInt?
  if 0 ≤ i ∧ i < UInt64.size then some (UInt64.ofNat i.toNat) else none

/-- A whole number of 32 bits with a sign. -/
def toInt32? (v : Value) : Option Int32 := do
  let i ← v.toInt?
  if Int32.minValue.toInt ≤ i ∧ i ≤ Int32.maxValue.toInt then some (Int32.ofInt i) else none

/-- A double; a whole number of at most 64 bits stands for the nearest one. -/
def toFloat? : Value → Option Float
  | float x => some x
  | int i =>
    if Int64.minValue.toInt ≤ i ∧ i < UInt64.size then
      some (if i < 0 then -(i.natAbs.toUInt64.toFloat) else i.toNat.toUInt64.toFloat)
    else none
  | _ => none

/-- A text. -/
def toText? : Value → Option String
  | text s => some s
  | _ => none

/-- An identifier, as a text. -/
def toUuid? (v : Value) : Option Uuid :=
  v.toText?.bind Uuid.read?

/-- An instant, as a text. -/
def toTimestamp? (v : Value) : Option Timestamp :=
  v.toText?.bind Timestamp.read?

/-- A list whose items all decode. -/
def toList? {α : Type} (decode : Value → Option α) : Value → Option (List α)
  | list items => items.mapM decode
  | _ => none

/-- A choice among names: its name, or a record whose only field has this name and is null. -/
def toChoice? {α : Type} (ofName? : String → Option α) : Value → Option α
  | text s => ofName? s
  | record [(s, null)] => ofName? s
  | _ => none

/-- An optional part of a structure, written as null when it is missing. -/
def ofOption {α : Type} (encode : α → Value) : Option α → Value
  | some x => encode x
  | none => null

/-- An identifier as a value. -/
def ofUuid (id : Uuid) : Value := text id.text

/-- An instant as a value. -/
def ofTimestamp (t : Timestamp) : Value := text t.text

/-- A code as a value. -/
def ofInt32 (code : Int32) : Value := int code.toInt

end Value
end CalendarSync.Data
