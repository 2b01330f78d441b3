import CalendarSync.Data.Value
import CalendarSync.Decimal.Reader
import CalendarSync.Timestamp.Text
import CalendarSync.Uuid

/-!
# TOML words

Truth values, numbers and dates. Digits may be divided by single underscores. A date stands for a
record of one field, since no other value holds one.
-/

namespace CalendarSync.Data.Toml
set_option autoImplicit false

open CalendarSync.Decimal (valueOf)

/-- Removes single underscores between digits of a class; there must be at least one digit. -/
def joinDigits? (isDigit : Char → Bool) : List Char → Option (List Char)
  | [] => none
  | [c] => if isDigit c then some [c] else none
  | c :: '_' :: rest =>
    if isDigit c then (joinDigits? isDigit rest).map (c :: ·) else none
  | c :: rest => if isDigit c then (joinDigits? isDigit rest).map (c :: ·) else none

/-- Digits without a superfluous leading zero. -/
def wholeDigits? (cs : List Char) : Option (List Char) := do
  let digits ← joinDigits? Char.isDigit cs
  if digits.head? = some '0' ∧ digits.length ≠ 1 then none else some digits

/-- A whole number as a value, which has at most 128 bits. -/
def wholeValue (i : Int) : Value :=
  if -(Nat.pow 2 127 : Int) ≤ i ∧ i < Nat.pow 2 128 then .int i else .tooLarge

/-- A whole number in base 16, 8 or 2. -/
def basedWhole? : List Char → Option Nat
  | '0' :: 'x' :: rest => do
    Uuid.readHex 0 (← joinDigits? (fun c => (Uuid.hexValue? c).isSome) rest)
  | '0' :: 'o' :: rest => do
    let digits ← joinDigits? (fun c => '0' ≤ c && c ≤ '7') rest
    some (Nat.ofDigitChars 8 digits 0)
  | '0' :: 'b' :: rest => do
    let digits ← joinDigits? (fun c => c = '0' || c = '1') rest
    some (Nat.ofDigitChars 2 digits 0)
  | _ => none

/-- The fraction and exponent of a number: digits of the fraction and the exponent's value. At least
one of them must be there. -/
def fractionAndExponent? (cs : List Char) : Option (List Char × Int) := do
  let (fraction, rest) ← match cs with
    | '.' :: more =>
      let digits := more.takeWhile fun c => c.isDigit || c = '_'
      some (← joinDigits? Char.isDigit digits, more.drop digits.length)
    | _ => some ([], cs)
  match rest with
  | [] => if fraction.isEmpty then none else some (fraction, 0)
  | c :: more =>
    if c = 'e' ∨ c = 'E' then
      let (negative, digits) := Decimal.splitSign more
      let n : Int := valueOf (← joinDigits? Char.isDigit digits)
      some (fraction, if negative then -n else n)
    else none

/-- A double as a value, which is finite. -/
def floatValue (negative : Bool) (digits : Nat) (exponent : Int) : Value :=
  let x := Decimal.clampedDecimal negative digits exponent
  if x.isFinite then .float x else .tooLarge

/-- A number without its sign. -/
def unsignedNumber? (negative : Bool) (cs : List Char) : Option Value :=
  if cs = ['i', 'n', 'f'] then some (.float (Decimal.infinite negative))
  else if cs = ['n', 'a', 'n'] then some (.float (0.0 / 0.0))
  else do
    let whole := cs.takeWhile fun c => c.isDigit || c = '_'
    let digits ← wholeDigits? whole
    let rest := cs.drop whole.length
    if rest.isEmpty then
      let n : Int := valueOf digits
      some (wholeValue (if negative then -n else n))
    else
      let (fraction, exponent) ← fractionAndExponent? rest
      some (floatValue negative (valueOf (digits ++ fraction)) (exponent - fraction.length))

/-- A number. -/
def number? (cs : List Char) : Option Value :=
  match basedWhole? cs with
  | some n => some (wholeValue n)
  | none =>
    let (negative, rest) := Decimal.splitSign cs
    unsignedNumber? negative rest

/-- Reads a date: four, two and two digits. -/
def readDate : List Char → Option (List Char)
  | a :: b :: c :: d :: '-' :: e :: f :: '-' :: g :: h :: rest =>
    let digits := [a, b, c, d, e, f, g, h]
    let date : Date := ⟨valueOf [a, b, c, d], valueOf [e, f], valueOf [g, h]⟩
    if digits.all Char.isDigit && date.isValid then some rest else none
  | _ => none

/-- Reads a time of day: two digits each, and any fraction of the second. -/
def readTime : List Char → Option (List Char)
  | a :: b :: ':' :: c :: d :: ':' :: e :: f :: rest =>
    let digits := [a, b, c, d, e, f]
    if digits.all Char.isDigit && valueOf [a, b] < 24 && valueOf [c, d] < 60 &&
        valueOf [e, f] ≤ 60 then
      (Timestamp.readFraction rest).map (·.2)
    else none
  | _ => none

/-- Nothing, or an offset from universal time. -/
def isOffset : List Char → Bool
  | [] => true
  | [c] => c = 'Z' || c = 'z'
  | [c, a, b, ':', d, e] =>
    (c = '+' || c = '-') && [a, b, d, e].all Char.isDigit && valueOf [a, b] < 24 &&
      valueOf [d, e] < 60
  | _ => false

/-- A date, a time, or both. -/
def isDateTime (cs : List Char) : Bool :=
  match readDate cs with
  | some [] => true
  | some (c :: rest) => (c = 'T' || c = 't' || c = ' ') && (readTime rest).any isOffset
  | none => readTime cs == some []

/-- The value of a word. -/
def word? (cs : List Char) : Option Value :=
  if cs = ['t', 'r', 'u', 'e'] then some (.bool true)
  else if cs = ['f', 'a', 'l', 's', 'e'] then some (.bool false)
  else if isDateTime cs then some (.record [("date-time", .text (String.ofList cs))])
  else number? cs

end CalendarSync.Data.Toml
