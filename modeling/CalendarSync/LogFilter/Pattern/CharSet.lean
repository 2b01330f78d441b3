import CalendarSync.LogFilter.Pattern.Nesting
import CalendarSync.LogFilter.Pattern.Symbol

/-!
# Sets of a pattern

Sets of characters in brackets. They hold single characters, ranges, kinds of characters and other
sets, may be negated, and are combined by `&&`, `--` and `~~`.
-/

namespace CalendarSync.LogFilter.Pattern
set_option autoImplicit false

/-- How much of a set has been read. -/
inductive Place where
  /-- The bracket, after which the set may be negated. -/
  | bracket
  /-- At most hyphens, which count as characters; so does a closing bracket, if it comes first. -/
  | start
  | inside
deriving DecidableEq

/-- A set that is being read. -/
structure OpenSet where
  place : Place := .bracket
  /-- The depth of what stands before the last operator. -/
  before : Option Nat := none
  items : Row := {}

namespace OpenSet

/-- Adds an item, which may be another set. -/
def add (s : OpenSet) (depth : Nat) : OpenSet :=
  { s with items := s.items.add depth }

/-- The depth of the items and of what they are combined with. -/
def depth (s : OpenSet) : Nat :=
  match s.before with
  | none => s.items.depth
  | some d => max d s.items.depth + 1

/-- Starts the items after an operator. -/
def combine (s : OpenSet) : OpenSet :=
  { s with before := some s.depth, items := {} }

end OpenSet

/-- The names of sets of ASCII characters. -/
def setNames : List String :=
  ["alnum", "alpha", "ascii", "blank", "cntrl", "digit", "graph", "lower", "print", "punct",
    "space", "upper", "word", "xdigit"]

/-- Reads the name of a set after an opening bracket, as in `[:alpha:]` or `[:^alpha:]`: whether
the set is negated, and what follows. -/
def readSetName : (cs : List Char) → Option (Bool × Text.Tail cs)
  | ':' :: rest =>
    let negated := rest.head? = some '^'
    let body := Text.Tail.drop (if negated then 1 else 0) rest
    let after := body.trans (.dropWhile (· ≠ ':') body.chars)
    if setNames.contains (String.ofList (body.chars.takeWhile (· ≠ ':'))) &&
        after.chars.take 2 = [':', ']'] then
      some (negated, (after.trans (.drop 2 after.chars)).later ':')
    else none
  | _ => none

/-- Reads a symbol of a set, of which the first character is given. -/
def readMember (m : Mode) (c : Char) (rest : List Char) : Option (Symbol × Text.Tail rest) :=
  if c = '\\' then readEscape m rest else some (.literal c false, .whole rest)

/-- What follows the hyphen of a range, if there is one. A closing bracket or another hyphen does
not make a range. -/
def afterHyphen? (m : Mode) (cs : List Char) : Option (Text.Tail cs) :=
  let gap := m.skip cs
  let rest := gap.trans (.drop 1 gap.chars)
  if gap.chars.head? = some '-' ∧ m.next? rest.chars ≠ some ']' ∧ m.next? rest.chars ≠ some '-' then
    some (rest.trans (m.skip rest.chars))
  else none

/-- Reads a symbol of a set or a range. -/
def readItem (m : Mode) (c : Char) (rest : List Char) : Option (Text.Tail rest) := do
  let (first, after) ← readMember m c rest
  match afterHyphen? m after.chars with
  | none => if first.isMember m then some after else none
  | some ⟨[], _⟩ => none
  | some ⟨d :: others, shorter⟩ =>
    let (last, tail) ← readMember m d others
    if first.isRange m last then
      some (after.trans (Text.Tail.trans ⟨d :: others, shorter⟩ (tail.later d)))
    else none

/-- What is left to be read of sets. -/
inductive SetState where
  /-- A set, and the sets around it, the innermost first. -/
  | unclosed (inner : OpenSet) (outer : List OpenSet)
  /-- Nothing, but a set of some depth has been read. -/
  | closed (depth : Nat)

namespace SetState

/-- Closes a set. -/
def close (s : OpenSet) : List OpenSet → SetState
  | [] => closed (s.depth + 1)
  | outer :: others => unclosed (outer.add (s.depth + 1)) others

/-- Takes the next part inside of a set. -/
def stepInside (m : Mode) (s : OpenSet) (outer : List OpenSet) (c : Char) (rest : List Char) :
    Option (SetState × Text.Tail rest) :=
  if c = '[' then
    match readSetName rest with
    | some (negated, after) =>
      if if m.unicode then !m.ignoresCase else !negated then
        some (unclosed (s.add 0) outer, after)
      else none
    | none => some (unclosed {} (s :: outer), .whole rest)
  else if c = ']' then some (close s outer, .whole rest)
  else if c ∈ ['&', '-', '~'] ∧ rest.head? = some c then
    some (unclosed s.combine outer, .drop 1 rest)
  else
    (readItem m c rest).map fun after => (unclosed (s.add 0) outer, after)

/-- Takes the next part of a set. A set of bytes cannot be negated. -/
def step (m : Mode) (s : OpenSet) (outer : List OpenSet) (c : Char) (rest : List Char) :
    Option (SetState × Text.Tail rest) :=
  if s.place = .bracket ∧ c = '^' then
    if m.unicode then some (unclosed { s with place := .start } outer, .whole rest) else none
  else if s.place ≠ .inside ∧ (c = '-' ∨ c = ']' ∧ s.items.size = 0) then
    if (Symbol.literal c false).isMember m then
      let place : Place := if c = '-' then .start else .inside
      some (unclosed { s.add 0 with place } outer, .whole rest)
    else none
  else stepInside m { s with place := .inside } outer c rest

end SetState
end CalendarSync.LogFilter.Pattern
