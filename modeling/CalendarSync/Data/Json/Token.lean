import CalendarSync.Data.Json.Number
import CalendarSync.Data.Json.Text
import CalendarSync.Text.Tail

/-!
# JSON tokens

The words and marks of a JSON text, without the blanks between them.
-/

namespace CalendarSync.Data.Json
set_option autoImplicit false

/-- A word or mark of a JSON text. -/
inductive Token where
  | openList
  | closeList
  | openRecord
  | closeRecord
  | comma
  | colon
  /-- A value that holds no other: null, a truth value or a number. -/
  | word (v : Value)
  /-- A text; none if its escapes make no characters. -/
  | text (s : Option String)

/-- The blanks of JSON. -/
def isBlank (c : Char) : Bool :=
  c = ' ' || c = '\t' || c = '\n' || c = '\r'

/-- The token of a mark. -/
def mark? (c : Char) : Option Token :=
  if c = '[' then some .openList
  else if c = ']' then some .closeList
  else if c = '{' then some .openRecord
  else if c = '}' then some .closeRecord
  else if c = ',' then some .comma
  else if c = ':' then some .colon
  else none

/-- The character can occur in a word, be it a name or a numeral. -/
def isWordChar (c : Char) : Bool :=
  c.isAlphanum || c = '-' || c = '+' || c = '.'

/-- The value of a word. -/
def wordValue? (cs : List Char) : Option Value :=
  if cs = ['n', 'u', 'l', 'l'] then some .null
  else if cs = ['t', 'r', 'u', 'e'] then some (.bool true)
  else if cs = ['f', 'a', 'l', 's', 'e'] then some (.bool false)
  else (Numeral.ofChars? cs).map Numeral.value

/-- The first token of a text that starts with a given character, and what follows it. -/
def firstToken (c : Char) (rest : List Char) :
    Option (Token × Text.Tail rest) :=
  match mark? c with
  | some t => some (t, .whole rest)
  | none =>
    if c = '"' then
      match h : readPieces rest with
      | some (pieces, after) =>
        some (.text ((joinPieces pieces).map String.ofList),
          ⟨after, Nat.le_of_lt (readPieces_shortens h)⟩)
      | none => none
    else
      match wordValue? (c :: rest.takeWhile isWordChar) with
      | some v => some (.word v, .dropWhile isWordChar rest)
      | none => none

/-- The tokens of a text. -/
def tokens : List Char → Option (List Token)
  | [] => some []
  | c :: rest =>
    if isBlank c then tokens rest
    else
      match firstToken c rest with
      | none => none
      | some (t, ⟨after, _⟩) => (tokens after).map (t :: ·)
termination_by cs => cs.length
decreasing_by
  · simp
  · simp only [List.length_cons]; omega

end CalendarSync.Data.Json
