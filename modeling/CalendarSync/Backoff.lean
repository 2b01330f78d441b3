import CalendarSync.Duration
import CalendarSync.Decimal.Layout

/-!
# Backoff policies

How often a busy Planner is asked, and how long to wait in between: each wait is the one before
times a factor, up to a cap. The arithmetic is that of doubles.
-/

namespace CalendarSync
set_option autoImplicit false

/-- A bound on the number of attempts and the growth of the waits between them. -/
structure Backoff where
  maxAttempts : UInt32
  base : Duration
  multiplier : Float
  cap : Duration

namespace Backoff

/-- Four attempts, with waits of 200, 400 and 800 milliseconds. -/
def standard : Backoff where
  maxAttempts := 4
  base := .ofMillis 200
  multiplier := 2.0
  cap := .ofSeconds 2

/-- What can be wrong with a policy. -/
inductive Flaw where
  | noAttempts
  | badMultiplier (multiplier : Float)
  | baseAboveCap (base cap : Duration)

/-- The wording of a flaw. -/
def Flaw.message : Flaw → String
  | noAttempts => "max_attempts must be greater than 0"
  | badMultiplier m => "multiplier must be a finite value >= 1.0, got " ++ Decimal.plainText m
  | baseAboveCap base cap =>
    "base_delay (" ++ base.text ++ ") cannot be greater than max_delay (" ++ cap.text ++ ")"

/-- The first flaw of a policy, if any. -/
def flaw? (b : Backoff) : Option Flaw :=
  if b.maxAttempts = 0 then some .noAttempts
  else if !b.multiplier.isFinite || b.multiplier < 1.0 then some (.badMultiplier b.multiplier)
  else if b.cap < b.base then some (.baseAboveCap b.base b.cap)
  else none

/-- Powers of the multiplier stop growing here. -/
def largestExponent : Nat := 30

/-- A power of a double by repeated squaring, times `product`. -/
def power (product x : Float) (exponent : Nat) : Float :=
  let product := if exponent % 2 = 1 then product * x else product
  if exponent / 2 = 0 then product else power product (x * x) (exponent / 2)
termination_by exponent
decreasing_by omega

/-- The smaller of two doubles; one that is no number does not count. -/
def smaller (x y : Float) : Float :=
  if x.isNaN then y else if y.isNaN then x else if y < x then y else x

/-- The wait before a retry, counted from zero: the base times a power of the multiplier, up to the
cap, which also stands in where that product is no number. None if no duration is that long. -/
def delay? (b : Backoff) (retry : Nat) : Option Duration :=
  let seconds := b.base.toSeconds * power 1.0 b.multiplier (min retry largestExponent)
  let capped := smaller seconds b.cap.toSeconds
  if capped.isFinite && 0.0 ≤ capped then Duration.ofSeconds? capped else some b.cap

/-- Adds the waits before `count` retries in a row to a sum, beginning with retry `first`. -/
def addWaits? (b : Backoff) (sum : Duration) (first : Nat) : Nat → Option Duration
  | 0 => some sum
  | count + 1 => do
    let delay ← b.delay? first
    let sum ← sum.add? delay
    b.addWaits? sum (first + 1) count

/-- The sum of all waits of a call that makes `attempts` attempts. -/
def worstWait? (b : Backoff) (attempts : Nat) : Option Duration :=
  b.addWaits? .zero 0 (attempts - 1)

end Backoff
end CalendarSync
