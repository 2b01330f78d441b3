/-!
# Binary fractions

Finite doubles as exact numbers `m · 2^q`, and the double nearest to a quotient of whole numbers.
-/

namespace CalendarSync.Decimal
set_option autoImplicit false

/-- A number `± significand · 2^exponent`. -/
structure Binary where
  negative : Bool
  significand : Nat
  exponent : Int
deriving DecidableEq, Repr

/-- The exact value of a double; none for infinities and for values that are no number. -/
def Binary.ofFloat? (x : Float) : Option Binary :=
  let bits : Nat := x.toBits.toNat
  let negative := decide (Nat.pow 2 63 ≤ bits)
  let biased : Nat := bits / Nat.pow 2 52 % Nat.pow 2 11
  let fraction : Nat := bits % Nat.pow 2 52
  if biased = Nat.pow 2 11 - 1 then none
  else if biased = 0 then some ⟨negative, fraction, -1074⟩
  else some ⟨negative, fraction + Nat.pow 2 52, (biased : Int) - 1075⟩

/-- Numerator and denominator of `m · 2^q`. -/
def quotient (m : Nat) (q : Int) : Nat × Nat :=
  (m * Nat.pow 2 q.toNat, Nat.pow 2 (-q).toNat)

/-- The whole number nearest to a quotient; a half goes to the even neighbour. -/
def roundHalfEven (num den : Nat) : Nat :=
  let down := num / den
  let twice := 2 * (num % den)
  if twice < den then down
  else if den < twice then down + 1
  else if down % 2 = 0 then down else down + 1

/-- The exponent `k` with `2^k ≤ num / den < 2^(k+1)`, for positive operands. -/
def binaryOrder (num den : Nat) : Int :=
  let guess : Int := (num.log2 : Int) - den.log2
  if den * Nat.pow 2 guess.toNat ≤ num * Nat.pow 2 (-guess).toNat then guess else guess - 1

/-- The bits of the double nearest to a quotient, ties to the even significand; from the largest
double's upper neighbour on the bits of infinity. -/
def nearestBits (num den : Nat) : Nat :=
  if num = 0 then 0
  else
    let q := max (binaryOrder num den - 52) (-1074)
    let m := roundHalfEven (num * Nat.pow 2 (-q).toNat) (den * Nat.pow 2 q.toNat)
    min ((q + 1074).toNat * Nat.pow 2 52 + m) (2047 * Nat.pow 2 52)

/-- The double nearest to a quotient, with ties to even; infinity beyond every finite double. -/
def nearest (negative : Bool) (num den : Nat) : Float :=
  Float.ofBits (UInt64.ofNat (nearestBits num den + if negative then Nat.pow 2 63 else 0))

/-- An infinite double. -/
def infinite (negative : Bool) : Float :=
  nearest negative (Nat.pow 2 1024) 1

/-- The double nearest to `digits · 10^exponent`. -/
def nearestDecimal (negative : Bool) (digits : Nat) (exponent : Int) : Float :=
  nearest negative (digits * Nat.pow 10 exponent.toNat) (Nat.pow 10 (-exponent).toNat)

end CalendarSync.Decimal
