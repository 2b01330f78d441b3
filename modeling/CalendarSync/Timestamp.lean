import CalendarSync.Timestamp.Calendar

/-!
# Timestamps

Instants in universal time with nanoseconds. A leap second is the second before it with a billion
nanoseconds or more, so timestamps are ordered by second and then by nanosecond.
-/

namespace CalendarSync
set_option autoImplicit false

/-- An instant: seconds since 1970-01-01T00:00:00Z and nanoseconds. -/
structure Timestamp where
  second : Int
  nano : Nat
  nano_lt : nano < 2000000000
deriving DecidableEq

namespace Timestamp

instance : LE Timestamp :=
  ⟨fun a b => a.second < b.second ∨ (a.second = b.second ∧ a.nano ≤ b.nano)⟩

instance : LT Timestamp :=
  ⟨fun a b => a.second < b.second ∨ (a.second = b.second ∧ a.nano < b.nano)⟩

instance (a b : Timestamp) : Decidable (a ≤ b) :=
  inferInstanceAs (Decidable (a.second < b.second ∨ (a.second = b.second ∧ a.nano ≤ b.nano)))

instance (a b : Timestamp) : Decidable (a < b) :=
  inferInstanceAs (Decidable (a.second < b.second ∨ (a.second = b.second ∧ a.nano < b.nano)))

/-- The first second that a timestamp can hold. -/
def firstSecond : Int := (⟨-262143, 1, 1⟩ : Date).toDays * 86400

/-- The last second that a timestamp can hold. -/
def lastSecond : Int := (⟨262142, 12, 31⟩ : Date).toDays * 86400 + 86399

/-- The instant lies in the years that timestamps cover. -/
def inRange (t : Timestamp) : Bool :=
  firstSecond ≤ t.second && t.second ≤ lastSecond

/-- An instant from a second and nanoseconds, if both lie in their range. -/
def of? (second : Int) (nano : Nat) : Option Timestamp :=
  if h : nano < 2000000000 then
    let t : Timestamp := ⟨second, nano, h⟩
    if t.inRange then some t else none
  else none

/-- The instant a number of milliseconds later, or earlier below zero; none outside the covered
years. Inside a leap second time passes within it; whoever leaves it forward lands one second
short, for the leap second counts as its predecessor. -/
def addMillis? (t : Timestamp) (ms : Int) : Option Timestamp :=
  let seconds := ms.tdiv 1000
  let nanos := ms.tmod 1000 * 1000000
  let leap := 1000000000 ≤ t.nano
  let forward := 0 < seconds ∨ (0 < nanos ∧ 2000000000 - nanos ≤ t.nano)
  if leap ∧ ¬ forward ∧ 0 ≤ seconds then of? t.second (t.nano + nanos).toNat
  else
    let start : Int := if leap ∧ ¬ forward then t.second + 1 else t.second
    let total : Int := (if leap then t.nano - 1000000000 else t.nano) + nanos
    of? (start + seconds + total / 1000000000) (total % 1000000000).toNat

/-- Seconds are compared first, then nanoseconds. -/
theorem le_def {a b : Timestamp} :
    a ≤ b ↔ a.second < b.second ∨ (a.second = b.second ∧ a.nano ≤ b.nano) :=
  Iff.rfl

theorem lt_def {a b : Timestamp} :
    a < b ↔ a.second < b.second ∨ (a.second = b.second ∧ a.nano < b.nano) :=
  Iff.rfl

theorem lt_or_eq_or_gt (a b : Timestamp) : a < b ∨ a = b ∨ b < a := by
  obtain ⟨s, n, _⟩ := a
  obtain ⟨s', n', _⟩ := b
  simp only [lt_def, mk.injEq]
  omega

end Timestamp
end CalendarSync
