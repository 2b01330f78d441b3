import CalendarSync.Text.CaseTable

/-!
# Lower case

Full Unicode lower-casing of a text, without a locale: U+0130 becomes two characters, and a
capital sigma that ends a word becomes the final form.
-/

namespace CalendarSync.Text
set_option autoImplicit false

/-- The lower-case mapping of one character that depends on nothing around it. -/
def lowerChar (c : Char) : List Char :=
  if c.toNat < 0x80 then [c.toLower]
  else if c.toNat = 0x130 then ['i', Char.ofNat 0x307]
  else
    match lowerRuns.find? (·.covers c.toNat) with
    | some run => [Char.ofNat (c.toNat + run.offset).toNat]
    | none => [c]

/-- The first character that is not case-ignorable exists and is cased. -/
def meetsCased (cs : List Char) : Bool :=
  match cs.dropWhile fun c => inRanges caseIgnorableRanges c.toNat with
  | [] => false
  | c :: _ => inRanges casedRanges c.toNat

/-- Lower-cases the text, given the characters before it, the nearest first. -/
def lowerAfter (before : List Char) : List Char → List Char
  | [] => []
  | c :: rest =>
    let lowered :=
      if c = 'Σ' then
        if meetsCased before && !meetsCased rest then ['ς'] else ['σ']
      else lowerChar c
    lowered ++ lowerAfter (c :: before) rest

/-- The text in lower case. -/
def lowerCase (s : String) : String :=
  String.ofList (lowerAfter [] s.toList)

end CalendarSync.Text
