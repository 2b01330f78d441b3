/-!
# Identifiers

128-bit identifiers, ordered as numbers, with their text: groups of 8, 4, 4, 4 and 12 hexadecimal
digits. Reading also takes the digits alone, braces and the `urn:uuid:` form, in any letter case.
-/

namespace CalendarSync
set_option autoImplicit false

/-- An identifier. -/
structure Uuid where
  number : Nat
  number_lt : number < Nat.pow 2 128
deriving DecidableEq

namespace Uuid

instance : LE Uuid := ⟨fun a b => a.number ≤ b.number⟩
instance : LT Uuid := ⟨fun a b => a.number < b.number⟩
instance (a b : Uuid) : Decidable (a ≤ b) := inferInstanceAs (Decidable (a.number ≤ b.number))
instance (a b : Uuid) : Decidable (a < b) := inferInstanceAs (Decidable (a.number < b.number))

/-- The identifier of a number, whose higher bits do not count. -/
def ofNat (n : Nat) : Uuid :=
  ⟨n % Nat.pow 2 128, Nat.mod_lt n (by decide)⟩

/-- The last `width` hexadecimal digits of a number, in lower case. -/
def hexDigits : Nat → Nat → List Char
  | 0, _ => []
  | width + 1, n => hexDigits width (n / 16) ++ [Nat.digitChar (n % 16)]

/-- The value of a hexadecimal digit in either case. -/
def hexValue? (c : Char) : Option Nat :=
  if c.isDigit then some (c.toNat - '0'.toNat)
  else if 'a' ≤ c ∧ c ≤ 'f' then some (c.toNat - 'a'.toNat + 10)
  else if 'A' ≤ c ∧ c ≤ 'F' then some (c.toNat - 'A'.toNat + 10)
  else none

/-- Continues a hexadecimal number with more digits. -/
def readHex (value : Nat) : List Char → Option Nat
  | [] => some value
  | c :: rest =>
    match hexValue? c with
    | some d => readHex (16 * value + d) rest
    | none => none

/-- The digits in five groups divided by hyphens. -/
def hyphenated (digits : List Char) : List Char :=
  digits.take 8 ++ '-' :: (digits.drop 8).take 4 ++ '-' :: (digits.drop 12).take 4 ++
    '-' :: (digits.drop 16).take 4 ++ '-' :: digits.drop 20

/-- The text of an identifier. -/
def text (id : Uuid) : String :=
  String.ofList (hyphenated (hexDigits 32 id.number))

/-- Removes the hyphens of 36 characters whose groups are divided in the right places. -/
def unhyphenated? (cs : List Char) : Option (List Char) :=
  let digits := cs.filter (· ≠ '-')
  if cs.length = 36 ∧ digits.length = 32 ∧ hyphenated digits = cs then some digits else none

/-- The digits of an identifier in any of its forms. -/
def digits? (cs : List Char) : Option (List Char) :=
  if cs.length = 32 then some cs
  else if cs.length = 36 then unhyphenated? cs
  else if cs.length = 38 then
    if cs.head? = some '{' ∧ cs.getLast? = some '}' then unhyphenated? (cs.drop 1).dropLast
    else none
  else if cs.length = 45 then
    if (cs.take 9).map Char.toLower = "urn:uuid:".toList then unhyphenated? (cs.drop 9) else none
  else none

/-- Reads an identifier. -/
def read? (s : String) : Option Uuid := do
  let digits ← digits? s.toList
  let n ← readHex 0 digits
  if h : n < Nat.pow 2 128 then some ⟨n, h⟩ else none

theorem length_hexDigits (width n : Nat) : (hexDigits width n).length = width := by
  induction width generalizing n with
  | zero => rfl
  | succ w ih => simp [hexDigits, ih]

end Uuid
end CalendarSync
