/-!
# Code points

Characters by their numbers, of which the halves of UTF-16 pairs stand for none.
-/

namespace CalendarSync.Text
set_option autoImplicit false

/-- The character of a code point, unless it is half of a UTF-16 pair. -/
def charOfCode? (n : Nat) : Option Char :=
  if h : n.isValidChar then some (Char.ofNatAux n h) else none

end CalendarSync.Text
