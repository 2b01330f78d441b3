import CalendarSync.LogFilter.Pattern.Mode
import CalendarSync.Text.CodePoint
import CalendarSync.Uuid

/-!
# Symbols of a pattern

What single characters and escapes stand for. Letter case and the kinds of characters are known for
bytes only, and a pattern must not match a part of a character; a symbol that would need more than
this cannot be used.
-/

namespace CalendarSync.LogFilter.Pattern
set_option autoImplicit false

/-- What a character or an escape stands for. -/
inductive Symbol where
  /-- A character, which may be written as the number of a byte. -/
  | literal (c : Char) (byte : Bool)
  /-- Any character. -/
  | any
  /-- An end of a line or of the text. -/
  | edge
  /-- An end of a word, or a place that is none. -/
  | wordEdge
  /-- The digits, blanks or word characters, or all characters but these. -/
  | kind (negated : Bool)
deriving DecidableEq

namespace Symbol

/-- The symbol of a character that is not escaped. -/
def ofChar (c : Char) : Symbol :=
  if c = '.' then any else if c = '^' ∨ c = '$' then edge else literal c false

/-- The symbol of a letter after a backslash, but for those with digits. -/
def ofLetter? (c : Char) : Option Symbol :=
  if c ∈ ['a', 'f', 't', 'n', 'r', 'v'] then some (literal c false)
  else if c ∈ ['A', 'z'] then some edge
  else if c ∈ ['b', 'B', '<', '>'] then some wordEdge
  else if c ∈ ['d', 's', 'w'] then some (kind false)
  else if c ∈ ['D', 'S', 'W'] then some (kind true)
  else none

/-- The symbol can stand in a pattern. -/
def isUsable (m : Mode) : Symbol → Bool
  | literal c byte => if m.unicode then !m.ignoresCase else !byte || c.toNat < 0x80
  | any => m.unicode
  | edge => true
  | wordEdge => !m.unicode
  | kind negated => !m.unicode && !negated

/-- The symbol can stand in a set. -/
def isMember (m : Mode) : Symbol → Bool
  | literal c _ => if m.unicode then !m.ignoresCase else c.toNat < 0x80
  | kind negated => !m.unicode && !negated
  | any | edge | wordEdge => false

/-- Two symbols can be the ends of a range in a set. -/
def isRange (m : Mode) : Symbol → Symbol → Bool
  | literal c x, literal d y =>
    c.toNat ≤ d.toNat && (literal c x).isMember m && (literal d y).isMember m
  | _, _ => false

end Symbol

/-- Reads hexadecimal digits, with space before each of them if it does not count. -/
def readCode (m : Mode) (value : Nat) : Nat → (cs : List Char) → Option (Nat × Text.Tail cs)
  | 0, cs => some (value, .whole cs)
  | width + 1, cs =>
    match m.skip cs with
    | ⟨[], _⟩ => none
    | ⟨c :: rest, shorter⟩ =>
      match Uuid.hexValue? c with
      | none => none
      | some digit =>
        (readCode m (16 * value + digit) width rest).map fun (n, after) =>
          (n, Text.Tail.trans ⟨c :: rest, shorter⟩ (after.later c))

/-- The character may be escaped although it is nothing but itself. -/
def isPunctuation (c : Char) : Bool :=
  c.toNat < 0x80 && !c.isAlphanum && c != '<' && c != '>'

/-- Reads what follows a backslash. -/
def readEscape (m : Mode) : (cs : List Char) → Option (Symbol × Text.Tail cs)
  | [] => none
  | c :: rest =>
    let code (byte : Bool) (width : Nat) : Option (Symbol × Text.Tail (c :: rest)) := do
      let (n, after) ← readCode m 0 width rest
      let d ← Text.charOfCode? n
      some (.literal d byte, after.later c)
    if c = 'x' then code true 2
    else if c = 'u' then code false 4
    else if c = 'U' then code false 8
    else if isPunctuation c then some (.literal c false, (Text.Tail.whole rest).later c)
    else (Symbol.ofLetter? c).map fun s => (s, (Text.Tail.whole rest).later c)

end CalendarSync.LogFilter.Pattern
