import CalendarSync.LogFilter.Pattern.CharSet
import CalendarSync.Text.Letter

/-!
# Patterns

The regular expressions that a field's value may be given by. Groups, alternatives, repetitions,
sets and escapes have their usual form; counted repetitions, look-around, references to groups and
named properties of characters do not occur.
-/

namespace CalendarSync.LogFilter.Pattern
set_option autoImplicit false

/-- Alternatives that are being read. -/
structure Alternatives where
  finished : Row := {}
  /-- The parts of the last alternative. -/
  parts : Row := {}
  /-- The depth of the last part, if it can be repeated. -/
  last : Option Nat := none

namespace Alternatives

/-- Adds a part to the last alternative. -/
def add (a : Alternatives) (depth : Nat) : Alternatives :=
  { a with parts := a.parts.add depth, last := some depth }

/-- Adds a change of flags, which is a part that cannot be repeated. -/
def addFlags (a : Alternatives) : Alternatives :=
  { a with parts := a.parts.add 0, last := none }

/-- Repeats the last part. -/
def repeat? (a : Alternatives) : Option Alternatives :=
  a.last.map fun depth =>
    { a with parts := a.parts.deepen (depth + 1), last := some (depth + 1) }

/-- Starts another alternative. -/
def next (a : Alternatives) : Alternatives :=
  { finished := a.finished.add a.parts.depth }

/-- The depth of the alternatives as one part. -/
def depth (a : Alternatives) : Nat :=
  (a.finished.add a.parts.depth).depth

end Alternatives

/-- What starts with an opening parenthesis. -/
inductive Opening where
  | group
  | namedGroup (name : List Char)
  /-- A group with flags of its own. -/
  | flagGroup (flags : Flags)
  /-- Flags for the rest of the group around them. -/
  | flags (flags : Flags)

/-- The characters can name a group. -/
def isGroupName : List Char → Bool
  | [] => false
  | c :: rest =>
    (c = '_' || Text.isAlphabetic c) &&
      rest.all fun d => ['_', '.', '[', ']'].contains d || Text.isAlphanumeric d

/-- Reads the name of a group up to the closing angle bracket. -/
def readGroupName (cs : List Char) : Option (Opening × Text.Tail cs) :=
  let name := cs.takeWhile (· ≠ '>')
  let after := Text.Tail.dropWhile (· ≠ '>') cs
  if isGroupName name && after.chars.head? = some '>' then
    some (.namedGroup name, after.trans (.drop 1 after.chars))
  else none

/-- Reads flags, and the colon or the parenthesis that ends them. -/
def readFlags (cs : List Char) : Option (Opening × Text.Tail cs) := do
  let ends (c : Char) : Bool := c = ':' || c = ')'
  let letters := cs.takeWhile (!ends ·)
  let flags ← Flags.ofChars? letters
  let after := Text.Tail.dropWhile (!ends ·) cs
  let rest := after.trans (.drop 1 after.chars)
  match after.chars.head? with
  | none => none
  | some c =>
    if c = ':' then some (.flagGroup flags, rest)
    else if letters.isEmpty then none
    else some (.flags flags, rest)

/-- Reads what follows an opening parenthesis. -/
def readOpening : (cs : List Char) → Option (Opening × Text.Tail cs)
  | '?' :: 'P' :: '<' :: rest =>
    (readGroupName rest).map fun (o, after) => (o, ((after.later '<').later 'P').later '?')
  | '?' :: '<' :: rest =>
    (readGroupName rest).map fun (o, after) => (o, (after.later '<').later '?')
  | '?' :: rest => (readFlags rest).map fun (o, after) => (o, after.later '?')
  | cs => some (.group, .whole cs)

/-- A pattern that is being read. -/
structure State where
  mode : Mode := {}
  current : Alternatives := {}
  /-- What the groups that are still open interrupt, the innermost first. -/
  outer : List (Mode × Alternatives) := []
  /-- The sets that are still open. -/
  sets : Option (OpenSet × List OpenSet) := none
  /-- The names of groups. -/
  names : List (List Char) := []

namespace State

/-- Adds a part. -/
def add (s : State) (depth : Nat) : State :=
  { s with current := s.current.add depth }

/-- Opens a group, in which another mode may hold. -/
def enter (s : State) (mode : Mode) : State :=
  { s with mode, current := {}, outer := (s.mode, s.current) :: s.outer }

/-- Closes a group. -/
def leave? (s : State) : Option State :=
  match s.outer with
  | [] => none
  | (mode, around) :: outer =>
    some { s with mode, current := around.add (s.current.depth + 1), outer }

/-- Takes what starts with an opening parenthesis. No two groups have one name. -/
def start? (s : State) : Opening → Option State
  | .group => some (s.enter s.mode)
  | .namedGroup name =>
    if s.names.contains name then none
    else some { s.enter s.mode with names := name :: s.names }
  | .flagGroup flags => some (s.enter (s.mode.set flags))
  | .flags flags => some { s with mode := s.mode.set flags, current := s.current.addFlags }

/-- Takes the next part outside of sets. A question mark after a repetition belongs to it. -/
def stepOutside (s : State) (c : Char) (rest : List Char) : Option (State × Text.Tail rest) :=
  if c = '(' then do
    let body := s.mode.skip rest
    let (opening, after) ← readOpening body.chars
    some (← s.start? opening, body.trans after)
  else if c = ')' then s.leave?.map fun s => (s, .whole rest)
  else if c = '|' then some ({ s with current := s.current.next }, .whole rest)
  else if c = '[' then some ({ s with sets := some ({}, []) }, .whole rest)
  else if c ∈ ['?', '*', '+'] then
    s.current.repeat?.map fun current =>
      ({ s with current }, .drop (if rest.head? = some '?' then 1 else 0) rest)
  else if c = '{' then none
  else do
    let (symbol, after) ←
      if c = '\\' then readEscape s.mode rest else some (.ofChar c, .whole rest)
    if symbol.isUsable s.mode then some (s.add 0, after) else none

/-- Takes the next part. -/
def step (s : State) (c : Char) (rest : List Char) : Option (State × Text.Tail rest) :=
  match s.sets with
  | none => s.stepOutside c rest
  | some (inner, outer) =>
    (SetState.step s.mode inner outer c rest).map fun
      | (.unclosed inner outer, after) => ({ s with sets := some (inner, outer) }, after)
      | (.closed depth, after) => ({ s with sets := none }.add depth, after)

/-- Takes all parts. -/
def run (s : State) (cs : List Char) : Option State :=
  match s.mode.skip cs with
  | ⟨[], _⟩ => some s
  | ⟨c :: rest, _⟩ =>
    match s.step c rest with
    | some (next, ⟨after, _⟩) => run next after
    | none => none
termination_by cs.length
decreasing_by simp only [List.length_cons] at *; omega

/-- The pattern may end here. -/
def isComplete (s : State) : Bool :=
  s.outer.isEmpty && s.sets.isNone && s.current.depth ≤ maxDepth

end State

/-- The characters are a pattern. -/
def isValid (cs : List Char) : Bool :=
  (State.run {} cs).any State.isComplete

end CalendarSync.LogFilter.Pattern
