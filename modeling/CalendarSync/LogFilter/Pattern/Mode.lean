import CalendarSync.Text.Blank
import CalendarSync.Text.Tail

/-!
# Modes of a pattern

Flags change how the rest of a pattern or of a group is read: whether letter case counts, whether
characters or bytes are matched, and whether blanks and comments may stand between its parts.
-/

namespace CalendarSync.LogFilter.Pattern
set_option autoImplicit false

/-- How a pattern is read from some point on. -/
structure Mode where
  ignoresCase : Bool := false
  /-- Characters are matched, and not bytes. -/
  unicode : Bool := true
  /-- Blanks and comments do not count. -/
  spaced : Bool := false
deriving DecidableEq

/-- Drops blanks and comments at the start; a comment ends with its line. -/
def dropSpace (inComment : Bool) : List Char → List Char
  | [] => []
  | c :: rest =>
    if inComment then dropSpace (c != '\n') rest
    else if Text.isBlank c then dropSpace false rest
    else if c = '#' then dropSpace true rest
    else c :: rest

theorem length_dropSpace_le (inComment : Bool) (cs : List Char) :
    (dropSpace inComment cs).length ≤ cs.length := by
  fun_induction dropSpace inComment cs <;> simp <;> omega

/-- The letters that stand for flags. -/
def flagLetters : List Char := ['i', 'm', 's', 'U', 'u', 'R', 'x']

/-- Flags to turn on, and flags to turn off. -/
structure Flags where
  on : List Char
  off : List Char

namespace Flags

/-- Reads flags: those before a hyphen are turned on, and those after it off. None of them stands
twice, and the hyphen is not the last one. -/
def ofChars? (cs : List Char) : Option Flags :=
  if cs.all (fun c => c = '-' || flagLetters.contains c) && cs.eraseDups.length = cs.length &&
      cs.getLast? != some '-' then
    some ⟨cs.takeWhile (· ≠ '-'), cs.dropWhile (· ≠ '-')⟩
  else none

/-- What a flag is set to. -/
def value (f : Flags) (letter : Char) (current : Bool) : Bool :=
  if f.on.contains letter then true else if f.off.contains letter then false else current

end Flags

namespace Mode

/-- The mode after flags have been set. -/
def set (m : Mode) (f : Flags) : Mode where
  ignoresCase := f.value 'i' m.ignoresCase
  unicode := f.value 'u' m.unicode
  spaced := f.value 'x' m.spaced

/-- What is left after the blanks and comments that do not count. -/
def skip (m : Mode) (cs : List Char) : Text.Tail cs :=
  if m.spaced then ⟨dropSpace false cs, length_dropSpace_le false cs⟩ else .whole cs

/-- The next character, as it is looked up after a hyphen: of a comment only the sign is skipped. -/
def next? (m : Mode) (cs : List Char) : Option Char :=
  if m.spaced then
    match cs.dropWhile Text.isBlank with
    | '#' :: comment => (comment.dropWhile Text.isBlank).head?
    | rest => rest.head?
  else cs.head?

end Mode
end CalendarSync.LogFilter.Pattern
