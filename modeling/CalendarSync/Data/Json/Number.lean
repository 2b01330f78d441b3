import CalendarSync.Data.Value
import CalendarSync.Decimal.Reader

/-!
# JSON numbers

A numeral without point and exponent that fits 64 bits is a whole number; any other is a double. A
double is read from at most 64 bits of its digits and scaled by powers of ten in doubles, so it may
miss the nearest double by a little.
-/

namespace CalendarSync.Data.Json
set_option autoImplicit false

open CalendarSync.Decimal (spanDigits splitSign valueOf numeral nearest)

/-- The parts of a numeral: sign, whole digits, fraction digits and exponent. -/
structure Numeral where
  negative : Bool
  whole : List Char
  fraction : List Char
  exponent : Option Int

/-- The digits after a point, if there is one; at least one is needed. -/
def splitFraction : List Char → Option (List Char × List Char)
  | '.' :: rest =>
    let (digits, rest) := spanDigits rest
    if digits.isEmpty then none else some (digits, rest)
  | cs => some ([], cs)

/-- The exponent, if there is one, which must end the numeral. -/
def splitExponent : List Char → Option (Option Int)
  | [] => some none
  | c :: rest =>
    if c = 'e' ∨ c = 'E' then
      let (negative, digits) := splitSign rest
      if digits.isEmpty || !digits.all Char.isDigit then none
      else
        let n : Int := valueOf digits
        some (some (if negative then -n else n))
    else none

/-- Takes a numeral apart; its whole digits do not start with a superfluous zero. -/
def Numeral.ofChars? (cs : List Char) : Option Numeral := do
  let (negative, cs) := match cs with
    | '-' :: rest => (true, rest)
    | _ => (false, cs)
  let (whole, cs) := spanDigits cs
  if whole.isEmpty || (whole.head? = some '0' && whole.length != 1) then none
  else
    let (fraction, cs) ← splitFraction cs
    let exponent ← splitExponent cs
    some ⟨negative, whole, fraction, exponent⟩

/-- Collects whole digits while they fit 64 bits; each digit after that counts as a factor of ten.
Answers the collected number and the number of uncollected digits. -/
def collectWhole (collected : Nat) : List Char → Nat × Nat
  | [] => (collected, 0)
  | c :: rest =>
    let next := 10 * collected + valueOf [c]
    if next < UInt64.size then collectWhole next rest else (collected, rest.length + 1)

/-- Collects fraction digits while they fit 64 bits; further digits do not count. Answers the
collected number and the number of collected digits. -/
def collectFraction (collected count : Nat) : List Char → Nat × Nat
  | [] => (collected, count)
  | c :: rest =>
    let next := 10 * collected + valueOf [c]
    if next < UInt64.size then collectFraction next (count + 1) rest else (collected, count)

/-- The largest power of ten that is scaled by at once. -/
def scaleStep : Nat := 308

/-- Divides by a power of ten, step by step; zero stays as it is. -/
def scaleDown (x : Float) (places : Nat) : Float :=
  if places ≤ scaleStep then x / nearest false (Nat.pow 10 places) 1
  else if x == 0.0 then x
  else scaleDown (x / nearest false (Nat.pow 10 scaleStep) 1) (places - scaleStep)
termination_by places
decreasing_by simp only [scaleStep] at *; omega

/-- The double of a whole number and a decimal exponent; none beyond every finite double. -/
def scale? (significand : Nat) (exponent : Int) : Option Float :=
  let x := (significand.toUInt64).toFloat
  if exponent < 0 then some (scaleDown x (min exponent.natAbs 4000))
  else if exponent.toNat ≤ scaleStep then
    let scaled := x * nearest false (Nat.pow 10 exponent.toNat) 1
    if scaled.isFinite then some scaled else none
  else if significand = 0 then some 0.0 else none

/-- The double of a numeral; none beyond every finite double. -/
def Numeral.float? (n : Numeral) : Option Float := do
  let (collected, uncollected) := collectWhole 0 n.whole
  let (significand, places) := collectFraction collected 0 n.fraction
  let x ← scale? significand (n.exponent.getD 0 + uncollected - places)
  some (if n.negative then -x else x)

/-- The value of a numeral. -/
def Numeral.value (n : Numeral) : Value :=
  let whole := valueOf n.whole
  let isWhole := n.fraction.isEmpty && n.exponent.isNone
  if isWhole && !n.negative && whole < UInt64.size then .int whole
  else if isWhole && n.negative && 0 < whole && Int64.minValue.toInt ≤ -(whole : Int) then
    .int (-(whole : Int))
  else
    match n.float? with
    | some x => .float x
    | none => .unreadable

end CalendarSync.Data.Json
