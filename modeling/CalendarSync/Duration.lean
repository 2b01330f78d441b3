import CalendarSync.Decimal.Binary
import CalendarSync.Decimal.Numeral

/-!
# Durations

Lengths of time in whole nanoseconds, below `2^64` seconds, with their arithmetic, their value in
seconds as a double and their text in messages.
-/

namespace CalendarSync
set_option autoImplicit false

/-- Nanoseconds in a second. -/
def nanosPerSecond : Nat := 1000000000

/-- The number of nanoseconds that no duration reaches. -/
def Duration.bound : Nat := UInt64.size * nanosPerSecond

/-- A length of time. -/
structure Duration where
  nanos : Nat
  nanos_lt : nanos < Duration.bound
deriving DecidableEq

namespace Duration

/-- No time at all. -/
def zero : Duration := ⟨0, by decide⟩

/-- The longest duration. -/
def longest : Duration := ⟨bound - 1, by decide⟩

/-- The duration of a number of nanoseconds, if it is short enough for one. -/
def ofNanos? (n : Nat) : Option Duration :=
  if h : n < bound then some ⟨n, h⟩ else none

/-- The duration of a number of nanoseconds, or the longest one. -/
def ofNanos (n : Nat) : Duration :=
  (ofNanos? n).getD longest

/-- A duration of whole seconds. -/
def ofSeconds (s : UInt64) : Duration :=
  ⟨s.toNat * nanosPerSecond, by
    have := s.toNat_lt
    simp only [bound, nanosPerSecond, UInt64.size]; omega⟩

/-- A duration of whole milliseconds. -/
def ofMillis (ms : UInt64) : Duration :=
  ⟨ms.toNat * 1000000, by
    have := ms.toNat_lt
    simp only [bound, nanosPerSecond, UInt64.size]; omega⟩

instance : LE Duration := ⟨fun a b => a.nanos ≤ b.nanos⟩
instance : LT Duration := ⟨fun a b => a.nanos < b.nanos⟩
instance (a b : Duration) : Decidable (a ≤ b) := inferInstanceAs (Decidable (a.nanos ≤ b.nanos))
instance (a b : Duration) : Decidable (a < b) := inferInstanceAs (Decidable (a.nanos < b.nanos))

/-- The sum of two durations, if it is a duration. -/
def add? (a b : Duration) : Option Duration :=
  ofNanos? (a.nanos + b.nanos)

/-- A multiple of a duration, or the longest one. -/
def scale (d : Duration) (factor : Nat) : Duration :=
  ofNanos (d.nanos * factor)

/-- The milliseconds that stand in for a wait that is too long to be scheduled: thirty years of 365
days. -/
def farMillis : Nat := 30 * 365 * 86400 * 1000

/-- The milliseconds that a wait of the duration takes: the fewest that are not shorter. A wait
whose end lies beyond the last second of a 64-bit clock cannot be scheduled. -/
def waitMillis (d : Duration) : Nat :=
  if d.nanos / nanosPerSecond < Int64.maxValue.toInt.toNat then (d.nanos + 999999) / 1000000
  else farMillis

/-- The duration in seconds: whole seconds plus nanoseconds over a billion, in doubles. -/
def toSeconds (d : Duration) : Float :=
  (d.nanos / nanosPerSecond).toUInt64.toFloat +
    (d.nanos % nanosPerSecond).toUInt64.toFloat / 1000000000.0

/-- The duration nearest to a number of seconds, halves to the even nanosecond; none for a negative
number, for one that is not finite, and from `2^64` seconds on. -/
def ofSeconds? (x : Float) : Option Duration := do
  let b ← Decimal.Binary.ofFloat? x
  if b.negative ∧ b.significand ≠ 0 then none
  else
    let (num, den) := Decimal.quotient (b.significand * nanosPerSecond) b.exponent
    ofNanos? (Decimal.roundHalfEven num den)

/-- Drops the zeros at the end. -/
def dropZerosAtEnd (digits : List Char) : List Char :=
  (digits.reverse.dropWhile (· = '0')).reverse

/-- `n` over `10^places` as a decimal without zeros at its end. -/
def fractionDigits (n places : Nat) : List Char :=
  let fraction := dropZerosAtEnd (Decimal.padded places (n % Nat.pow 10 places))
  Decimal.numeral (n / Nat.pow 10 places) ++ if fraction.isEmpty then [] else '.' :: fraction

/-- The text of a duration in messages, in the largest of the units s, ms, µs and ns of which it
holds at least one. -/
def text (d : Duration) : String :=
  String.ofList <|
    if nanosPerSecond ≤ d.nanos then fractionDigits d.nanos 9 ++ ['s']
    else if 1000000 ≤ d.nanos then fractionDigits d.nanos 6 ++ ['m', 's']
    else if 1000 ≤ d.nanos then fractionDigits d.nanos 3 ++ ['µ', 's']
    else Decimal.numeral d.nanos ++ ['n', 's']

theorem ofNanos?_eq_some_iff {n : Nat} {d : Duration} : ofNanos? n = some d ↔ d.nanos = n := by
  unfold ofNanos?
  constructor
  · intro h
    split at h
    · rw [← Option.some.inj h]
    · cases h
  · rintro rfl
    simp [d.nanos_lt]

end Duration
end CalendarSync
