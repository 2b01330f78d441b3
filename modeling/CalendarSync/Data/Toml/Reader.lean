import CalendarSync.Data.Toml.Table
import CalendarSync.Data.Toml.Token

/-!
# Reading TOML

The tokens of a document are taken one after the other. Arrays and inline tables that are still open
wait on a stack, at whose bottom stands the name that the value is for.
-/

namespace CalendarSync.Data.Toml
set_option autoImplicit false

/-- How deeply arrays and inline tables may be nested, and how many parts a name may have. -/
def maxDepth : Nat := 80

/-- The parts of a dotted name read so far, in reverse; `dotted` after a dot. -/
structure Name where
  parts : List String
  dotted : Bool

namespace Name

/-- Nothing read yet, so a part is due. -/
def empty : Name := ⟨[], true⟩

/-- Adds a part, which is due at the start and after a dot. -/
def part (n : Name) (s : String) : Option Name :=
  if n.dotted then some ⟨s :: n.parts, false⟩ else none

/-- Adds a dot, which is due after a part. -/
def dot (n : Name) : Option Name :=
  if n.dotted then none else some { n with dotted := true }

/-- The character can occur in a name without quotes. -/
def isBareChar (c : Char) : Bool :=
  c.isAlphanum || c = '_' || c = '-'

/-- Adds the parts and dots of a word; `pending` holds the part being read, in reverse. -/
def word (n : Name) (pending : List Char) : List Char → Option Name
  | [] => if pending.isEmpty then some n else n.part (String.ofList pending.reverse)
  | c :: rest =>
    if c = '.' then do
      let n ← if pending.isEmpty then some n else n.part (String.ofList pending.reverse)
      (← n.dot).word [] rest
    else if isBareChar c then n.word (c :: pending) rest
    else none

/-- Takes a token of a name. -/
def take (n : Name) : Token → Option Name
  | .word cs => n.word [] cs
  | .text s false => n.part s
  | _ => none

/-- The parts of a complete name. -/
def path? (n : Name) : Option (List String) :=
  if n.dotted ∨ maxDepth < n.parts.length then none else some n.parts.reverse

end Name

/-- An array or inline table that a value is missing from; items are in reverse. -/
inductive Open where
  | array (items : List Value)
  | inline (entries : Entries) (name : List String)

/-- What is being read. -/
inductive State where
  /-- A line starts. -/
  | line
  /-- A line has started with a bracket. -/
  | bracket
  | header (double : Bool) (name : Name)
  /-- The second closing bracket of a header is due. -/
  | closing (name : List String)
  /-- The name of an assignment. -/
  | key (name : Name)
  | value (target : List String) (stack : List Open)
  /-- An item of an array, or its end. -/
  | item (target : List String) (items : List Value) (stack : List Open)
  /-- A comma, or the end of an array. -/
  | afterItem (target : List String) (items : List Value) (stack : List Open)
  /-- The first name of an inline table, or its end. -/
  | firstName (target : List String) (stack : List Open)
  /-- A name of an inline table. -/
  | name (target : List String) (entries : Entries) (name : Name) (stack : List Open)
  /-- A comma, or the end of an inline table. -/
  | afterEntry (target : List String) (entries : Entries) (stack : List Open)
  /-- The line must end. -/
  | lineEnd

/-- The document read so far: its tables and the section that assignments belong to. -/
structure Document where
  root : Entries
  current : List String
  state : State

namespace Document

/-- Nothing read yet. -/
def empty : Document := ⟨[], [], .line⟩

/-- Goes on in another state. -/
def goTo (d : Document) (s : State) : Document := { d with state := s }

/-- Completes a value. -/
def give (d : Document) (target : List String) (v : Value) : List Open → Option Document
  | [] => do
    let root ← Entries.within (Entries.assign v target) d.current d.root
    some { d with root, state := .lineEnd }
  | .array items :: stack => some (d.goTo (.afterItem target (v :: items) stack))
  | .inline entries path :: stack => do
    some (d.goTo (.afterEntry target (← Entries.assign v path entries) stack))

/-- Starts a value. -/
def start (d : Document) (target : List String) (stack : List Open) : Token → Option Document
  | .word cs => do d.give target (← word? cs) stack
  | .text s _ => d.give target (.text s) stack
  | .openList =>
    if stack.length < maxDepth then some (d.goTo (.item target [] stack)) else none
  | .openRecord =>
    if stack.length < maxDepth then some (d.goTo (.firstName target stack)) else none
  | _ => none

/-- Defines the table of a header, which becomes the current section. -/
def open? (d : Document) (double : Bool) (path : List String) : Option Document := do
  let root ← if double then Entries.extend path d.root else Entries.define path d.root
  some { root, current := path, state := .lineEnd }

/-- Takes one token. -/
def step (d : Document) (l : Lexeme) : Option Document :=
  match d.state, l.token with
  | .line, .newline => some d
  | .line, .openList => some (d.goTo .bracket)
  | .line, t => do some (d.goTo (.key (← Name.empty.take t)))
  | .bracket, .openList => if l.spaced then none else some (d.goTo (.header true .empty))
  | .bracket, t => do some (d.goTo (.header false (← Name.empty.take t)))
  | .header false n, .closeList => do d.open? false (← n.path?)
  | .header true n, .closeList => do some (d.goTo (.closing (← n.path?)))
  | .header double n, t => do some (d.goTo (.header double (← n.take t)))
  | .closing path, .closeList => if l.spaced then none else d.open? true path
  | .key n, .equals => do some (d.goTo (.value (← n.path?) []))
  | .key n, t => do some (d.goTo (.key (← n.take t)))
  | .value target stack, t => d.start target stack t
  | .item _ _ _, .newline => some d
  | .item target items stack, .closeList => d.give target (.list items.reverse) stack
  | .item target items stack, t => d.start target (.array items :: stack) t
  | .afterItem _ _ _, .newline => some d
  | .afterItem target items stack, .comma => some (d.goTo (.item target items stack))
  | .afterItem target items stack, .closeList => d.give target (.list items.reverse) stack
  | .firstName target stack, .closeRecord => d.give target (.record []) stack
  | .firstName target stack, t => do
    some (d.goTo (.name target [] (← Name.empty.take t) stack))
  | .name target entries n stack, .equals => do
    some (d.goTo (.value target (.inline entries (← n.path?) :: stack)))
  | .name target entries n stack, t => do
    some (d.goTo (.name target entries (← n.take t) stack))
  | .afterEntry target entries stack, .comma =>
    some (d.goTo (.name target entries .empty stack))
  | .afterEntry target entries stack, .closeRecord =>
    d.give target (.record (fieldsOf entries)) stack
  | .lineEnd, .newline => some (d.goTo .line)
  | _, _ => none

end Document

/-- The value of a TOML document, after an optional byte order mark. -/
def read? (s : String) : Option Value := do
  let cs := match s.toList with
    | c :: rest => if c.toNat = 0xFEFF then rest else c :: rest
    | [] => []
  let d ← (← lexemes false cs).foldlM Document.step .empty
  match d.state with
  | .line | .lineEnd => some (.record (fieldsOf d.root))
  | _ => none

end CalendarSync.Data.Toml
