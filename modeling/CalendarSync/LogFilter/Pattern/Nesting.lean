/-!
# Nesting of a pattern

How deeply the parts of a pattern are nested. Groups, repetitions, sets and operators in sets count
one level each, and so does a row of parts unless it is only one part.
-/

namespace CalendarSync.LogFilter.Pattern
set_option autoImplicit false

/-- How deeply a pattern may be nested. -/
def maxDepth : Nat := 250

/-- A row of parts: their number, and the depth of the deepest one. -/
structure Row where
  size : Nat := 0
  deepest : Nat := 0

namespace Row

/-- Adds a part. -/
def add (r : Row) (depth : Nat) : Row :=
  ⟨r.size + 1, max r.deepest depth⟩

/-- Makes a part deeper. -/
def deepen (r : Row) (depth : Nat) : Row :=
  { r with deepest := max r.deepest depth }

/-- The depth of the row as one part. -/
def depth (r : Row) : Nat :=
  if r.size ≤ 1 then r.deepest else r.deepest + 1

end Row
end CalendarSync.LogFilter.Pattern
