import CalendarSync.Decimal.Binary
import CalendarSync.Decimal.Numeral

/-!
# Reading decimals

The double nearest to a decimal text, and whole numbers up to a limit.
-/

namespace CalendarSync.Decimal
set_option autoImplicit false

/-- Why a text is no number. -/
inductive ReadError where
  | emptyInteger
  | emptyFloat
  | invalidDigit
  | invalidFloat
  | tooLarge
deriving DecidableEq, Repr

/-- The wording of a reading error. -/
def ReadError.message : ReadError → String
  | .emptyInteger => "cannot parse integer from empty string"
  | .emptyFloat => "cannot parse float from empty string"
  | .invalidDigit => "invalid digit found in string"
  | .invalidFloat => "invalid float literal"
  | .tooLarge => "number too large to fit in target type"

/-- Reads a whole number of at most `limit`: an optional plus sign and digits. The first character
that is no digit counts before the limit. -/
def readNat (limit : Nat) (s : String) : Except ReadError Nat :=
  match s.toList with
  | [] => .error .emptyInteger
  | cs =>
    let digits := if cs.head? = some '+' then cs.tail else cs
    if digits.isEmpty then .error .invalidDigit
    else go 0 digits
where
  /-- Reads the digits one after the other. -/
  go (value : Nat) : List Char → Except ReadError Nat
    | [] => .ok value
    | c :: rest =>
      if c.isDigit then
        let next := 10 * value + (c.toNat - '0'.toNat)
        if limit < next then .error .tooLarge else go next rest
      else .error .invalidDigit

/-- The sign in front of a number, if any, and what follows it. -/
def splitSign : List Char → Bool × List Char
  | '-' :: rest => (true, rest)
  | '+' :: rest => (false, rest)
  | cs => (false, cs)

/-- Reads the exponent after a decimal's digits; nothing left means zero. -/
def readExponent : List Char → Option Int
  | [] => some 0
  | c :: rest =>
    if c = 'e' ∨ c = 'E' then
      let (negative, digits) := splitSign rest
      if digits.isEmpty || !digits.all Char.isDigit then none
      else
        let n : Int := valueOf digits
        some (if negative then -n else n)
    else none

/-- Reads an unsigned decimal: digits with an optional point, on either side of which they may be
missing but not on both, and an optional exponent. -/
def readScaled (cs : List Char) : Option (Nat × Int) :=
  let (whole, rest) := spanDigits cs
  let (fraction, rest) :=
    match rest with
    | '.' :: more => spanDigits more
    | _ => ([], rest)
  if whole.isEmpty && fraction.isEmpty then none
  else do
    let e ← readExponent rest
    pure (valueOf (whole ++ fraction), e - fraction.length)

/-- The double nearest to `digits · 10^exponent`, which is zero or infinite far outside the range
of doubles. -/
def clampedDecimal (negative : Bool) (digits : Nat) (exponent : Int) : Float :=
  let order := exponent + (numeral digits).length
  if digits = 0 ∨ order < -400 then nearest negative 0 1
  else if 400 < order then infinite negative
  else nearestDecimal negative digits exponent

/-- Reads a double, correctly rounded; `inf`, `infinity` and `nan` count in any letter case. -/
def readFloat (s : String) : Except ReadError Float :=
  if s.isEmpty then .error .emptyFloat
  else
    let (negative, cs) := splitSign s.toList
    match readScaled cs with
    | some (digits, exponent) => .ok (clampedDecimal negative digits exponent)
    | none =>
      let word := String.ofList (cs.map Char.toLower)
      if word = "inf" ∨ word = "infinity" then .ok (infinite negative)
      else if word = "nan" then .ok (Float.ofBits (if negative then 0xFFF8000000000000 else
        0x7FF8000000000000))
      else .error .invalidFloat

end CalendarSync.Decimal
