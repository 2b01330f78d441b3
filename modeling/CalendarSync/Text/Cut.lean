/-!
# Cutting text by bytes

Texts take one to four bytes a character in UTF-8. A text can be cut where a character starts or
ends, but not within one.
-/

namespace CalendarSync.Text
set_option autoImplicit false

/-- The number of bytes of the characters. -/
def byteLength : List Char → Nat
  | [] => 0
  | c :: rest => c.utf8Size + byteLength rest

/-- What follows the first `n` bytes; none if the `n`-th byte does not end a character. -/
def dropBytes? : Nat → List Char → Option (List Char)
  | 0, cs => some cs
  | _ + 1, [] => none
  | n + 1, c :: rest => if c.utf8Size ≤ n + 1 then dropBytes? (n + 1 - c.utf8Size) rest else none

/-- The characters of the first `n` bytes; none if the `n`-th byte does not end a character. -/
def takeBytes? : Nat → List Char → Option (List Char)
  | 0, _ => some []
  | _ + 1, [] => none
  | n + 1, c :: rest =>
    if c.utf8Size ≤ n + 1 then (takeBytes? (n + 1 - c.utf8Size) rest).map (c :: ·) else none

/-- The characters from one byte up to another. -/
def cut? (first last : Nat) (cs : List Char) : Option (List Char) :=
  (dropBytes? first cs).bind (takeBytes? (last - first))

end CalendarSync.Text
