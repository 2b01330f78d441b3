import CalendarSync.Text.CodePoint
import CalendarSync.Text.Tail
import CalendarSync.Uuid

/-!
# TOML texts

Texts in single or double quotes, on one line or, between three quotes, on several. Escapes work
between double quotes only.
-/

namespace CalendarSync.Data.Toml
set_option autoImplicit false

/-- How a text is quoted. -/
structure Quoting where
  quote : Char
  escapes : Bool
  long : Bool

/-- A blank within a line. -/
def isBlank (c : Char) : Bool := c = ' ' || c = '\t'

/-- A control character that no text and no comment may hold. -/
def isControl (c : Char) : Bool :=
  (c.toNat < 0x20 && c != '\t') || c.toNat == 0x7F

/-- The characters start with the end of a line. -/
def startsNewline : List Char → Bool
  | '\n' :: _ => true
  | '\r' :: '\n' :: _ => true
  | _ => false

/-- Drops the end of a line at the start. -/
def dropNewline : List Char → List Char
  | '\n' :: rest => rest
  | '\r' :: '\n' :: rest => rest
  | cs => cs

/-- Drops the blanks and the ends of lines at the start. -/
def dropBlankLines : List Char → List Char
  | '\n' :: rest => dropBlankLines rest
  | '\r' :: '\n' :: rest => dropBlankLines rest
  | c :: rest => if isBlank c then dropBlankLines rest else c :: rest
  | [] => []

theorem length_dropBlankLines_le (cs : List Char) : (dropBlankLines cs).length ≤ cs.length := by
  fun_induction dropBlankLines cs <;> simp <;> omega

/-- Reads what follows a backslash. -/
def unescape? : (cs : List Char) → Option (Char × { rest : List Char // rest.length < cs.length })
  | [] => none
  | c :: rest =>
    let plain (d : Char) : Option (Char × { r : List Char // r.length < (c :: rest).length }) :=
      some (d, ⟨rest, Nat.lt_succ_self _⟩)
    let code (width : Nat) :
        Option (Char × { r : List Char // r.length < (c :: rest).length }) := do
      let digits := rest.take width
      let n ← Uuid.readHex 0 digits
      let d ← Text.charOfCode? n
      if digits.length = width then
        some (d, ⟨rest.drop width, List.length_drop ▸ Nat.lt_succ_of_le (Nat.sub_le ..)⟩)
      else none
    if c = 'b' then plain '\x08'
    else if c = 't' then plain '\t'
    else if c = 'n' then plain '\n'
    else if c = 'f' then plain '\x0c'
    else if c = 'r' then plain '\r'
    else if c = '"' then plain '"'
    else if c = '\\' then plain '\\'
    else if c = 'u' then code 4
    else if c = 'U' then code 8
    else none

/-- Puts characters before the text read after them. -/
def prepend (cs : List Char) : List Char × List Char → List Char × List Char
  | (text, rest) => (cs ++ text, rest)

/-- Reads a text up to its closing quotes, and what follows them. Between three quotes a line may
end, and its end belongs to the text as it stands; one or two quotes may stand there too, and a
backslash at the end of a line joins it with the next word. -/
def readText (q : Quoting) (cs : List Char) : Option (List Char × List Char) :=
  match cs with
  | [] => none
  | c :: rest =>
    if c = q.quote then
      if q.long then
        let more := (rest.takeWhile (· = q.quote)).length
        if more < 2 then (readText q rest).map (prepend [c])
        else if more ≤ 4 then some (List.replicate (more - 2) q.quote, rest.drop more)
        else none
      else some ([], rest)
    else if c = '\\' && q.escapes then
      if q.long && startsNewline (rest.dropWhile isBlank) then
        readText q (dropBlankLines rest)
      else
        match unescape? rest with
        | some (d, ⟨after, _⟩) => (readText q after).map (prepend [d])
        | none => none
    else if isControl c && !(q.long && startsNewline (c :: rest)) then none
    else (readText q rest).map (prepend [c])
termination_by cs.length
decreasing_by
  all_goals simp only [List.length_cons]
  · omega
  · have := length_dropBlankLines_le rest
    omega
  · omega
  · omega

theorem readText_shortens {q : Quoting} {cs text rest : List Char}
    (h : readText q cs = some (text, rest)) : rest.length < cs.length := by
  have mapped {tail : List Char} {d : Char} {text rest : List Char}
      (ih : ∀ {text rest : List Char}, readText q tail = some (text, rest) →
        rest.length < tail.length)
      (h : (readText q tail).map (prepend [d]) = some (text, rest)) :
      rest.length < tail.length := by
    obtain ⟨⟨t, r⟩, hr, he⟩ := Option.map_eq_some_iff.1 h
    cases he
    exact ih hr
  induction hn : cs.length using Nat.strongRecOn generalizing cs text rest with
  | ind n ih =>
    have step {tail : List Char} (hl : tail.length < n) {text rest : List Char}
        (hr : readText q tail = some (text, rest)) : rest.length < tail.length :=
      ih tail.length hl hr rfl
    rw [readText.eq_def] at h
    split at h
    · cases h
    next c tail =>
      simp only [List.length_cons] at hn ⊢
      split at h
      · split at h
        · simp only at h
          split at h
          · have := mapped (step (by omega)) h; omega
          · split at h
            · cases h; simp; omega
            · cases h
        · cases h; omega
      · split at h
        · split at h
          · have hd := length_dropBlankLines_le tail
            have := step (by omega) h
            omega
          · split at h
            next d after hl _ =>
              have := mapped (step (by omega)) h; omega
            · cases h
        · split at h
          · cases h
          · have := mapped (step (by omega)) h; omega

end CalendarSync.Data.Toml
