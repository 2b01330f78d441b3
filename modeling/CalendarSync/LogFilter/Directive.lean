import CalendarSync.Decimal.Reader
import CalendarSync.LogFilter.Pattern
import CalendarSync.Text.Cut

/-!
# Directives of a log filter

A directive names a target, a span and a field of it, and may end with a level:
`target[span{field=value}]=level`. A name alone may be a level or a target. The parts are found in
the directive without the blanks around it, but cut out of the directive with them, so blanks in
front shift every part.
-/

namespace CalendarSync.LogFilter
set_option autoImplicit false

/-- Why a directive is refused. -/
inductive Flaw where
  | malformed
  /-- A part would start or end within a character. -/
  | torn
deriving DecidableEq, Repr

/-- The names of the levels. -/
def levelNames : List String := ["off", "error", "warn", "info", "debug", "trace"]

/-- The text is a level: a name in any letter case, a number up to 5, or nothing. -/
def isLevel (s : String) : Bool :=
  s.isEmpty || levelNames.contains (String.ofList (s.toList.map Char.toLower)) ||
    match Decimal.readNat (UInt64.size - 1) s with
    | .ok n => n ≤ 5
    | .error _ => false

/-- The text can be the value of a field: a number or a pattern. -/
def isFieldValue (s : String) : Bool :=
  (Decimal.readFloat s).isOk || Pattern.isValid s.toList

/-- The text is a field: a name, after which there may be an equals sign and a value. What follows
another equals sign does not count. -/
def isField (s : String) : Bool :=
  match s.splitOn "=" with
  | [name] => !name.isEmpty
  | _ :: value :: _ => isFieldValue value
  | [] => false

/-- The part of a directive that is being read, and the byte at which it starts. -/
inductive Part where
  | start
  /-- A target or a level, which starts at the first byte. -/
  | name
  | span (first : Nat)
  | field (first : Nat)
  | afterField
  | afterSpan
  | level (first : Nat)
deriving DecidableEq

/-- The text of a part of a directive. -/
def part (directive : List Char) (first last : Nat) : Except Flaw String :=
  match Text.cut? first last directive with
  | some cs => .ok (String.ofList cs)
  | none => .error .torn

namespace Part

/-- The character can start a name. -/
def startsName (c : Char) : Bool :=
  c = '-' || c = ':' || c = '_' || Text.isAlphanumeric c

/-- Takes the character that starts at a byte. -/
def step (directive : List Char) (position : Nat) : Part → Char → Except Flaw Part
  | start, c =>
    if c = '[' then .ok (span (position + 1))
    else if startsName c then .ok name else .error .malformed
  | name, c => do
    if c = '=' then
      let _ ← part directive 0 position
      return level (position + 1)
    else if c = '[' then
      let _ ← part directive 0 position
      return span (position + 1)
    else return name
  | span first, c => do
    if c = ']' then
      let _ ← part directive first position
      return afterSpan
    else if c = '{' then
      let _ ← part directive first position
      return field (position + 1)
    else return span first
  | field first, c => do
    if c = '}' then
      if isField (← part directive first position) then return afterField
      else throw .malformed
    else return field first
  | afterField, c => if c = ']' then .ok afterSpan else .error .malformed
  | afterSpan, c => if c = '=' then .ok (level (position + 1)) else .error .malformed
  | level first, _ => .ok (level first)

/-- The directive ends in the part. -/
def finish (directive : List Char) : Part → Except Flaw Unit
  | name | afterSpan => .ok ()
  | level first => do
    if isLevel (← part directive first (Text.byteLength directive)) then return
    else throw .malformed
  | start | span _ | field _ | afterField => .error .malformed

/-- Takes characters, the first of which starts at a byte, up to the end of the directive. -/
def run (directive : List Char) (position : Nat) : Part → List Char → Except Flaw Unit
  | p, [] => p.finish directive
  | p, c :: rest => do
    (← p.step directive position c).run directive (position + c.utf8Size) rest

end Part

/-- Checks that the characters are a directive. -/
def checkDirective (cs : List Char) : Except Flaw Unit :=
  Part.start.run cs 0 (Text.trimChars cs)

end CalendarSync.LogFilter
