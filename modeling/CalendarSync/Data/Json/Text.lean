import CalendarSync.Uuid

/-!
# JSON texts

A text between quotes: a quote, a backslash and control characters are escaped, and all other
characters stand for themselves. Reading also takes the escape of any UTF-16 unit, of which two may
form one character.
-/

namespace CalendarSync.Data.Json
set_option autoImplicit false

/-- A part of a text as it is written: a character, or the escape of a UTF-16 unit. -/
inductive Piece where
  | char (c : Char)
  | unit (n : Nat)
deriving DecidableEq

/-- The character that stands for another one after a backslash. -/
def shortEscape? (c : Char) : Option Char :=
  if c = '"' then some '"'
  else if c = '\\' then some '\\'
  else if c = '\x08' then some 'b'
  else if c = '\x0c' then some 'f'
  else if c = '\n' then some 'n'
  else if c = '\r' then some 'r'
  else if c = '\t' then some 't'
  else none

/-- The character that a character after a backslash stands for. -/
def unescape? (c : Char) : Option Char :=
  if c = '"' then some '"'
  else if c = '\\' then some '\\'
  else if c = '/' then some '/'
  else if c = 'b' then some '\x08'
  else if c = 'f' then some '\x0c'
  else if c = 'n' then some '\n'
  else if c = 'r' then some '\r'
  else if c = 't' then some '\t'
  else none

/-- One character as it is written. -/
def escape (c : Char) : List Char :=
  match shortEscape? c with
  | some e => ['\\', e]
  | none => if c.toNat < 0x20 then '\\' :: 'u' :: Uuid.hexDigits 4 c.toNat else [c]

/-- A text with its quotes. -/
def quote (cs : List Char) : List Char :=
  '"' :: (cs.flatMap escape ++ ['"'])

/-- Puts a piece before the pieces read after it. -/
def prepend {α : Type} (piece : Piece) : List Piece × α → List Piece × α
  | (pieces, rest) => (piece :: pieces, rest)

/-- Reads the pieces up to the closing quote, and what follows it. -/
def readPieces : List Char → Option (List Piece × List Char)
  | [] => none
  | '"' :: rest => some ([], rest)
  | '\\' :: 'u' :: a :: b :: c :: d :: rest =>
    match Uuid.readHex 0 [a, b, c, d] with
    | some n => (readPieces rest).map (prepend (.unit n))
    | none => none
  | '\\' :: e :: rest =>
    match unescape? e with
    | some c => (readPieces rest).map (prepend (.char c))
    | none => none
  | c :: rest => if c.toNat < 0x20 then none else (readPieces rest).map (prepend (.char c))

/-- The first unit of a pair. -/
def isHighSurrogate (n : Nat) : Bool := 0xD800 ≤ n && n < 0xDC00

/-- The second unit of a pair. -/
def isLowSurrogate (n : Nat) : Bool := 0xDC00 ≤ n && n < 0xE000

/-- The characters of the pieces; none if a unit lacks its partner. -/
def joinPieces : List Piece → Option (List Char)
  | [] => some []
  | .char c :: rest => (joinPieces rest).map (c :: ·)
  | .unit n :: rest =>
    if isHighSurrogate n then
      match rest with
      | .unit low :: rest =>
        if isLowSurrogate low then
          (joinPieces rest).map
            (Char.ofNat (0x10000 + (n - 0xD800) * 0x400 + (low - 0xDC00)) :: ·)
        else none
      | _ => none
    else if isLowSurrogate n then none
    else (joinPieces rest).map (Char.ofNat n :: ·)

theorem readPieces_shortens {cs rest : List Char} {pieces : List Piece}
    (h : readPieces cs = some (pieces, rest)) : rest.length < cs.length := by
  fun_induction readPieces cs generalizing pieces rest with
  | case1 => cases h
  | case2 => grind
  | case3 a b c d tail n hn ih =>
    obtain ⟨⟨ps, r⟩, hr, he⟩ := Option.map_eq_some_iff.1 h
    cases he
    have := ih hr
    simp only [List.length_cons]; omega
  | case4 => cases h
  | case5 e tail _ c hc ih =>
    obtain ⟨⟨ps, r⟩, hr, he⟩ := Option.map_eq_some_iff.1 h
    cases he
    have := ih hr
    simp only [List.length_cons]; omega
  | case6 => cases h
  | case7 => cases h
  | case8 c tail _ _ _ hc ih =>
    obtain ⟨⟨ps, r⟩, hr, he⟩ := Option.map_eq_some_iff.1 h
    cases he
    have := ih hr
    simp only [List.length_cons]; omega

end CalendarSync.Data.Json
