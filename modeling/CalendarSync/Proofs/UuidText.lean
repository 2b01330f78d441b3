import CalendarSync.Uuid

/-!
# Identifiers are read as they were written

Hexadecimal digits are read as the number that they were written for, and the hyphens between the
groups of an identifier are found where they were put.
-/

namespace CalendarSync.Uuid
set_option autoImplicit false

/-! ## Hexadecimal digits -/

theorem hexValue?_digitChar : ∀ n < 16, hexValue? n.digitChar = some n := by
  decide

theorem digitChar_ne_hyphen : ∀ n < 16, n.digitChar ≠ '-' := by
  decide

theorem readHex_append (value : Nat) (cs rest : List Char) :
    readHex value (cs ++ rest) = (readHex value cs).bind fun n => readHex n rest := by
  induction cs generalizing value with
  | nil => rfl
  | cons c cs ih =>
    rw [List.cons_append, readHex, readHex]
    cases hexValue? c with
    | none => rfl
    | some d => exact ih _

/-- The digits of a number continue another one. -/
theorem readHex_hexDigits (value width n : Nat) : readHex value (hexDigits width n) =
    some (value * Nat.pow 16 width + n % Nat.pow 16 width) := by
  induction width generalizing n with
  | zero => simp [hexDigits, readHex, Nat.pow, Nat.mod_one]
  | succ width ih =>
    have digit := hexValue?_digitChar (n % 16) (Nat.mod_lt n (by decide))
    have power : Nat.pow 16 (width + 1) = 16 * Nat.pow 16 width := Nat.mul_comm _ _
    rw [hexDigits, readHex_append, ih, Option.bind_some, readHex, digit, power, Nat.mod_mul,
      Nat.mul_left_comm]
    simp only [readHex, Option.some.injEq]
    omega

theorem ne_hyphen_of_mem_hexDigits {width n : Nat} {c : Char} (mem : c ∈ hexDigits width n) :
    c ≠ '-' := by
  induction width generalizing n with
  | zero => cases mem
  | succ width ih =>
    obtain earlier | last := List.mem_append.1 mem
    · exact ih earlier
    · rw [List.mem_singleton.1 last]
      exact digitChar_ne_hyphen _ (Nat.mod_lt n (by decide))

/-! ## The groups of an identifier -/

/-- Hyphens that are put between the groups of 32 digits are found again. -/
theorem unhyphenated?_hyphenated {digits : List Char} (length : digits.length = 32)
    (clean : ∀ c ∈ digits, c ≠ '-') : unhyphenated? (hyphenated digits) = some digits := by
  have keep (part : List Char) (sub : ∀ c ∈ part, c ∈ digits) :
      part.filter (· ≠ '-') = part :=
    List.filter_eq_self.2 fun c mem => by simpa using clean c (sub c mem)
  have hyphen (part : List Char) : ('-' :: part).filter (· ≠ '-') = part.filter (· ≠ '-') :=
    List.filter_cons_of_neg (by simp)
  have middle {n m : Nat} {c : Char} (mem : c ∈ (digits.drop n).take m) : c ∈ digits :=
    List.mem_of_mem_drop (List.mem_of_mem_take mem)
  have join (n m : Nat) : (digits.drop n).take m ++ digits.drop (n + m) = digits.drop n := by
    rw [← List.drop_drop, List.take_append_drop]
  have kept : (hyphenated digits).filter (· ≠ '-') = digits := by
    simp only [hyphenated, List.filter_append, hyphen]
    rw [keep _ fun _ => List.mem_of_mem_take, keep _ fun _ => middle, keep _ fun _ => middle,
      keep _ fun _ => middle, keep _ fun _ => List.mem_of_mem_drop]
    simp only [List.append_assoc]
    rw [join 16 4, join 12 4, join 8 4, List.take_append_drop]
  have long : (hyphenated digits).length = 36 := by
    simp [hyphenated, length]
  unfold unhyphenated?
  rw [kept, if_pos ⟨long, length, rfl⟩]

/-- An identifier is read as it was written. -/
theorem read?_text (id : Uuid) : read? id.text = some id := by
  have length := length_hexDigits 32 id.number
  have long : (hyphenated (hexDigits 32 id.number)).length = 36 := by
    simp [hyphenated, length]
  have whole : 0 * Nat.pow 16 32 + id.number % Nat.pow 16 32 = id.number := by
    rw [Nat.zero_mul, Nat.zero_add]
    exact Nat.mod_eq_of_lt id.number_lt
  unfold read? text digits?
  rw [String.toList_ofList, if_neg (by omega), if_pos long,
    unhyphenated?_hyphenated length fun _ => ne_hyphen_of_mem_hexDigits]
  simp only [Option.bind_eq_bind, Option.bind_some, readHex_hexDigits, whole]
  exact dif_pos id.number_lt

end CalendarSync.Uuid
