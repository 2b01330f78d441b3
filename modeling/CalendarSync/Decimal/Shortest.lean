import CalendarSync.Decimal.Binary
import CalendarSync.Decimal.Numeral

/-!
# Shortest decimals

The decimal with the fewest digits among those that read back as a given double, and of several
such the one nearest to it.
-/

namespace CalendarSync.Decimal
set_option autoImplicit false

/-- A number `digits · 10^exponent`. -/
structure Scaled where
  digits : Nat
  exponent : Int
deriving DecidableEq, Repr

/-- The interval of numbers that round to `m · 2^q`, over the common denominator `den`: its lower
end, its value and its upper end. The ends belong to it when `closed`. -/
structure Interval where
  low : Nat
  value : Nat
  high : Nat
  den : Nat
  closed : Bool

/-- The numbers that round to a double; below a power of two its neighbour is half as far away. -/
def Interval.ofBinary (b : Binary) : Interval :=
  let m := b.significand
  let narrow := m = Nat.pow 2 52 ∧ -1074 < b.exponent
  let (num, den) := quotient 1 b.exponent
  ⟨(4 * m - if narrow then 1 else 2) * num, 4 * m * num, (4 * m + 2) * num, 4 * den,
    m % 2 == 0⟩

/-- The quotient `num / den` lies in the interval. -/
def Interval.holds (i : Interval) (num den : Nat) : Bool :=
  if i.closed then i.low * den ≤ num * i.den && num * i.den ≤ i.high * den
  else i.low * den < num * i.den && num * i.den < i.high * den

/-- The exponent `k` with `10^k ≤ num / den < 10^(k+1)`, for positive operands. -/
def decimalOrder (num den : Nat) : Int :=
  if den ≤ num then ((numeral (num / den)).length : Int) - 1
  else
    let d := (numeral (den / num)).length
    if den = num * Nat.pow 10 (d - 1) then 1 - (d : Int) else -(d : Int)

/-- The neighbours of the interval's value among the multiples of `10^k`, as far as they lie in
the interval: the nearer one, and on a tie the one that `tieUp` chooses. -/
def Interval.pick (i : Interval) (tieUp : Nat → Bool) (k : Int) : Option Nat :=
  let up := Nat.pow 10 (-k).toNat
  let unit := Nat.pow 10 k.toNat
  let down := i.value * up / (i.den * unit)
  let inside (d : Nat) := i.holds (d * unit) up
  let twice := 2 * (i.value * up % (i.den * unit))
  match inside down, inside (down + 1) with
  | false, false => none
  | true, false => some down
  | false, true => some (down + 1)
  | true, true =>
    if twice < i.den * unit then some down
    else if i.den * unit < twice then some (down + 1)
    else if tieUp down then some (down + 1) else some down

/-- The digits of the first grid, from the coarsest on, that has a point in the interval. -/
def Interval.search (i : Interval) (tieUp : Nat → Bool) (order : Int) : Nat → Nat → Scaled
  | 0, count => ⟨(i.pick tieUp (order + 1 - count)).getD 0, order + 1 - count⟩
  | more + 1, count =>
    match i.pick tieUp (order + 1 - count) with
    | some digits => ⟨digits, order + 1 - count⟩
    | none => i.search tieUp order more (count + 1)

/-- Drops the zeros at the end of the digits, at most `count` of them. -/
def Scaled.strip (s : Scaled) : Nat → Scaled
  | 0 => s
  | count + 1 =>
    if s.digits ≠ 0 ∧ s.digits % 10 = 0 then
      Scaled.strip ⟨s.digits / 10, s.exponent + 1⟩ count
    else s

/-- The shortest decimal that reads back as a positive double of the given exact value. -/
def shortest (tieUp : Nat → Bool) (b : Binary) : Scaled :=
  let i := Interval.ofBinary b
  (i.search tieUp (decimalOrder i.value i.den) 17 1).strip 20

end CalendarSync.Decimal
