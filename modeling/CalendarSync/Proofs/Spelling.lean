import CalendarSync.Decimal.Reader
import CalendarSync.Proofs.TimestampText
import CalendarSync.Settings.Environment

/-!
# Names and numbers as they are spelled

A name may stand between blanks, a list of names may hold blank parts, and a number may be written
with a sign and with zeros in front. Each is read back whatever its spelling, and a numeral beyond the
limit is found out before the limit is passed.
-/

namespace CalendarSync
set_option autoImplicit false

/-! ## Blanks around a text -/

namespace Text
variable {core text : String}

/-- The text stands in the other one with nothing but blanks around it. -/
def Padded (core text : String) : Prop :=
  ∃ before after : String, isBlankText before = true ∧ isBlankText after = true ∧
    text = before ++ core ++ after

/-- The text neither begins nor ends with a blank. -/
structure IsTrimmed (core : String) : Prop where
  head : ∀ c, core.toList.head? = some c → isBlank c = false
  last : ∀ c, core.toList.getLast? = some c → isBlank c = false

theorem Padded.refl (core : String) : Padded core core :=
  ⟨"", "", rfl, rfl, by simp⟩

/-- A text without any blanks is trimmed. -/
theorem IsTrimmed.of_visible (visible : ∀ c ∈ core.toList, isBlank c = false) : IsTrimmed core where
  head c first := visible c (List.mem_of_head? first)
  last c last := visible c (List.mem_of_getLast? last)

theorem trimChars_eq_nil {cs : List Char} (blank : ∀ c ∈ cs, isBlank c = true) :
    trimChars cs = [] := by
  rw [trimChars, (dropWhile_isBlank_eq_nil_iff cs).2 (List.all_eq_true.2 blank)]
  rfl

/-- What begins and ends without a blank is left of a text that has blanks around it. -/
theorem trimChars_append {before middle after : List Char}
    (first : ∀ c, middle.head? = some c → isBlank c = false)
    (last : ∀ c, middle.getLast? = some c → isBlank c = false)
    (blank : ∀ c ∈ before, isBlank c = true) (blank' : ∀ c ∈ after, isBlank c = true) :
    trimChars (before ++ middle ++ after) = middle := by
  by_cases empty : middle = []
  · subst empty
    apply trimChars_eq_nil
    simpa [or_imp, forall_and] using ⟨blank, blank'⟩
  obtain ⟨c, rest, rfl⟩ := List.exists_cons_of_ne_nil empty
  have begins : (before ++ (c :: rest) ++ after).dropWhile isBlank = (c :: rest) ++ after := by
    rw [List.append_assoc]
    exact (span_append blank fun c' start => first c' (by simpa using start)).2
  have ends : ((c :: rest) ++ after).reverse.dropWhile isBlank = (c :: rest).reverse := by
    rw [List.reverse_append]
    refine (span_append (by simpa using blank') fun c' start => last c' ?_).2
    rwa [List.head?_reverse] at start
  rw [trimChars, begins, ends, List.reverse_reverse]

theorem trim_of_padded (trimmed : IsTrimmed core) (padded : Padded core text) :
    trim text = core := by
  obtain ⟨before, after, blank, blank', rfl⟩ := padded
  rw [trim, String.toList_append, String.toList_append,
    trimChars_append trimmed.head trimmed.last (List.all_eq_true.1 blank)
      (List.all_eq_true.1 blank'), String.ofList_toList]

end Text

/-! ## Numerals -/

namespace Decimal
variable {s : String} {n limit : Nat}

/-- The text is a numeral of the number: digits, perhaps with zeros or a plus sign in front. -/
def Spells (s : String) (n : Nat) : Prop :=
  ∃ digits : List Char, digits ≠ [] ∧ (∀ c ∈ digits, c.isDigit = true) ∧ valueOf digits = n ∧
    (s.toList = digits ∨ s.toList = '+' :: digits)

/-- Among the numerals of a number is the one that it is written with. -/
theorem spells_text (n : Nat) : Spells (text n) n :=
  ⟨numeral n, numeral_ne_nil n, fun _ => isDigit_of_mem_numeral, valueOf_numeral n,
    .inl String.toList_ofList⟩

theorem Spells.isTrimmed (spells : Spells s n) : Text.IsTrimmed s := by
  obtain ⟨digits, nonempty, digit, -, spelling⟩ := spells
  refine .of_visible fun c mem => ?_
  rcases spelling with same | same
  · exact Timestamp.isBlank_of_isDigit (digit c (same ▸ mem))
  · rcases List.mem_cons.1 (same ▸ mem) with rfl | mem
    · decide
    · exact Timestamp.isBlank_of_isDigit (digit c mem)

theorem le_ofDigitChars (digits : List Char) (value : Nat) :
    value ≤ Nat.ofDigitChars 10 digits value := by
  rw [Nat.ofDigitChars_eq_ofDigitChars_zero]
  have positive : 0 < 10 ^ digits.length := Nat.pow_pos (by decide)
  exact Nat.le_add_right_of_le (Nat.le_mul_of_pos_left value positive)

/-- Digits are read up to the one that passes the limit. -/
theorem go_of_digits {digits : List Char} (digit : ∀ c ∈ digits, c.isDigit = true) {value : Nat}
    (within : value ≤ limit) : readNat.go limit value digits =
      if Nat.ofDigitChars 10 digits value ≤ limit then
        .ok (Nat.ofDigitChars 10 digits value) else .error .tooLarge := by
  induction digits generalizing value with
  | nil => simp [readNat.go, within]
  | cons c rest ih =>
    rw [List.forall_mem_cons] at digit
    rw [readNat.go, if_pos digit.1, Nat.ofDigitChars_cons]
    by_cases passed : limit < 10 * value + (c.toNat - '0'.toNat)
    · have beyond := Nat.lt_of_lt_of_le passed (le_ofDigitChars rest _)
      rw [if_pos passed, if_neg (Nat.not_le.2 beyond)]
    · rw [if_neg passed]
      exact ih digit.2 (Nat.not_lt.1 passed)

/-- A numeral is read as its number, unless that is beyond the limit. -/
theorem readNat_of_spells (spells : Spells s n) :
    readNat limit s = if n ≤ limit then .ok n else .error .tooLarge := by
  obtain ⟨digits, nonempty, digit, rfl, spelling⟩ := spells
  obtain ⟨c, rest, rfl⟩ := List.exists_cons_of_ne_nil nonempty
  have unsigned : c ≠ '+' := by
    rintro rfl
    exact absurd (digit '+' List.mem_cons_self) (by decide)
  have read : readNat.go limit 0 (c :: rest) = if valueOf (c :: rest) ≤ limit then
      .ok (valueOf (c :: rest)) else .error .tooLarge :=
    go_of_digits digit (Nat.zero_le limit)
  rw [← read, readNat]
  rcases spelling with same | same
  · simp [same, unsigned]
  · simp [same]

end Decimal

/-! ## Lists of names -/

namespace Environment

theorem splitCommas_eq_splitOn (cs : List Char) : splitCommas cs = cs.splitOn ',' := by
  induction cs with
  | nil => rfl
  | cons c rest ih =>
    rw [List.splitOn_eq_splitOnP] at ih ⊢
    rw [List.splitOnP_cons_eq_if_modifyHead, ← ih, splitCommas]
    cases parts : splitCommas rest with
    | nil => exact absurd (ih.symm.trans parts) (List.splitOnP_ne_nil _ _)
    | cons part parts => by_cases comma : c = ',' <;> simp [comma]

/-- The parts of a list of names: each name with blanks around it, and blank parts anywhere. -/
inductive Lists : List String → List String → Prop where
  | nil : Lists [] []
  | blank {names parts : List String} {part : String} (blank : Text.isBlankText part = true)
      (rest : Lists names parts) : Lists names (part :: parts)
  | name {names parts : List String} {name part : String} (padded : Text.Padded name part)
      (rest : Lists names parts) : Lists (name :: names) (part :: parts)

/-- A name that can stand in a list divided by commas. -/
structure IsName (name : String) : Prop where
  nonempty : name ≠ ""
  no_comma : ',' ∉ name.toList
  trimmed : Text.IsTrimmed name

theorem not_comma_of_isBlankText {s : String} (blank : Text.isBlankText s = true) :
    ',' ∉ s.toList := by
  intro mem
  exact absurd (List.all_eq_true.1 blank ',' mem) (by decide)

theorem not_comma_of_padded {name part : String} (free : ',' ∉ name.toList)
    (padded : Text.Padded name part) : ',' ∉ part.toList := by
  obtain ⟨before, after, blank, blank', rfl⟩ := padded
  simp [free, not_comma_of_isBlankText blank, not_comma_of_isBlankText blank']

variable {names parts : List String}

theorem Lists.no_comma (lists : Lists names parts) (sound : ∀ name ∈ names, IsName name) :
    ∀ part ∈ parts, ',' ∉ part.toList := by
  induction lists with
  | nil => simp
  | blank blank rest ih => exact List.forall_mem_cons.2 ⟨not_comma_of_isBlankText blank, ih sound⟩
  | name padded rest ih =>
    rw [List.forall_mem_cons] at sound
    exact List.forall_mem_cons.2 ⟨not_comma_of_padded sound.1.no_comma padded, ih sound.2⟩

/-- Trimming the parts and dropping the blank ones leaves the names. -/
theorem Lists.filter_trim (lists : Lists names parts) (sound : ∀ name ∈ names, IsName name) :
    (parts.map Text.trim).filter (· ≠ "") = names := by
  induction lists with
  | nil => rfl
  | @blank names parts part blank rest ih =>
    have trimmed : Text.trim part = "" := by
      rw [Text.trim, Text.trimChars_eq_nil (List.all_eq_true.1 blank), String.ofList_nil]
    simpa [trimmed] using ih sound
  | @name names parts name part padded rest ih =>
    rw [List.forall_mem_cons] at sound
    have trimmed : Text.trim part = name := Text.trim_of_padded sound.1.trimmed padded
    simpa [trimmed, sound.1.nonempty] using ih sound.2

/-- A list of names is read whatever stands around the names and between them. -/
theorem departments_of_lists (lists : Lists names parts) (sound : ∀ name ∈ names, IsName name) :
    departments (",".intercalate parts) = names := by
  rw [← lists.filter_trim sound, departments, splitCommas_eq_splitOn, String.toList_intercalate]
  by_cases empty : parts = []
  · subst empty
    rfl
  · have free : ∀ part ∈ parts.map String.toList, ',' ∉ part := by
      simpa using lists.no_comma sound
    have divided : ([','].intercalate (parts.map String.toList)).splitOn ',' =
        parts.map String.toList :=
      List.splitOn_intercalate ',' free (by simpa using empty)
    have comma : ",".toList = [','] := rfl
    rw [comma, divided, List.map_map]
    rfl

end Environment
end CalendarSync
