import CalendarSync.Timestamp
import Std.Time.DateTime.Timestamp

/-!
# The system clock

Reading the time of the machine.
-/

namespace CalendarSync.SystemClock
set_option autoImplicit false

/-- The instant a number of nanoseconds after 1970-01-01T00:00:00Z. -/
def ofNanos (n : Int) : Timestamp :=
  ⟨n / 1000000000, (n % 1000000000).toNat, by omega⟩

/-- The present instant. -/
def now : IO Timestamp := do
  let t ← Std.Time.Timestamp.now
  return ofNanos t.toNanosecondsSinceUnixEpoch.val

end CalendarSync.SystemClock
