import CalendarSync.Data.Toml.Scalar
import CalendarSync.Data.Toml.Text

/-!
# TOML tokens

The words, texts and marks of a document. A comment counts as part of the end of its line.
-/

namespace CalendarSync.Data.Toml
set_option autoImplicit false

/-- A word, a text or a mark. -/
inductive Token where
  | newline
  | openList
  | closeList
  | openRecord
  | closeRecord
  | comma
  | equals
  /-- Characters of names, numbers and dates, with dots among them. -/
  | word (cs : List Char)
  /-- A text; only one on a single line can be a name. -/
  | text (s : String) (long : Bool)
deriving DecidableEq

/-- A token, and whether a blank stands before it. -/
structure Lexeme where
  spaced : Bool
  token : Token
deriving DecidableEq

/-- The token of a mark. -/
def mark? (c : Char) : Option Token :=
  if c = '[' then some .openList
  else if c = ']' then some .closeList
  else if c = '{' then some .openRecord
  else if c = '}' then some .closeRecord
  else if c = ',' then some .comma
  else if c = '=' then some .equals
  else if c = '\n' then some .newline
  else none

/-- The character can occur in a word. -/
def isWordChar (c : Char) : Bool :=
  c.isAlphanum || c = '_' || c = '-' || c = '+' || c = ':' || c = '.'

/-- The characters have the shape of a date. -/
def looksLikeDate (cs : List Char) : Bool :=
  cs.length = 10 && cs[4]? = some '-' && cs[7]? = some '-'

/-- How a text is quoted that starts with `quote` before the given characters. -/
def quoting (quote : Char) (rest : List Char) : Quoting :=
  ⟨quote, quote = '"', rest.take 2 = [quote, quote]⟩

/-- Reads a text after its first quote. -/
def textToken (quote : Char) (rest : List Char) :
    Option (Token × Text.Tail rest) :=
  let q := quoting quote rest
  let body := if q.long then dropNewline (rest.drop 2) else rest
  have shorter : body.length ≤ rest.length := by
    show (if q.long then dropNewline (rest.drop 2) else rest).length ≤ rest.length
    split
    · have drop2 : (rest.drop 2).length ≤ rest.length := by simp
      unfold dropNewline
      split <;> simp_all <;> omega
    · exact Nat.le_refl _
  match h : readText q body with
  | some (cs, after) =>
    some (.text (String.ofList cs) q.long,
      ⟨after, Nat.le_trans (Nat.le_of_lt (readText_shortens h)) shorter⟩)
  | none => none

/-- Reads a word; a date is joined with the time after a single blank. -/
def wordToken (c : Char) (rest : List Char) :
    Option (Token × Text.Tail rest) :=
  let first := c :: rest.takeWhile isWordChar
  let after := rest.dropWhile isWordChar
  have shorter := Text.length_dropWhile_le isWordChar rest
  match h : after with
  | ' ' :: d :: more =>
    if looksLikeDate first && d.isDigit then
      some (.word (first ++ ' ' :: d :: more.takeWhile isWordChar),
        ⟨more.dropWhile isWordChar, by
          have := Text.length_dropWhile_le isWordChar more
          simp only [after] at h
          simp only [h, List.length_cons] at shorter; omega⟩)
    else some (.word first, ⟨after, shorter⟩)
  | _ => some (.word first, ⟨after, shorter⟩)

/-- Reads the token that starts with a character. -/
def firstToken (c : Char) (rest : List Char) :
    Option (Token × Text.Tail rest) :=
  match mark? c with
  | some t => some (t, .whole rest)
  | none =>
    if c = '"' ∨ c = '\'' then textToken c rest
    else if isWordChar c then wordToken c rest
    else none

/-- Reads a comment up to the end of its line. -/
def comment (rest : List Char) : Option (Text.Tail rest) :=
  if (rest.takeWhile fun c => c != '\n' && c != '\r').all fun c => !isControl c then
    some (.dropWhile (fun c => c != '\n' && c != '\r') rest)
  else none

/-- The tokens of a document. -/
def lexemes (spaced : Bool) (cs : List Char) : Option (List Lexeme) :=
  match cs with
  | [] => some []
  | c :: rest =>
    if isBlank c then lexemes true rest
    else if c = '#' then
      match comment rest with
      | some ⟨after, _⟩ => lexemes true after
      | none => none
    else if c = '\r' then
      if rest.head? = some '\n' then lexemes spaced rest else none
    else
      match firstToken c rest with
      | some (t, ⟨after, _⟩) => (lexemes false after).map (⟨spaced, t⟩ :: ·)
      | none => none
termination_by cs.length
decreasing_by all_goals simp only [List.length_cons]; omega

end CalendarSync.Data.Toml
