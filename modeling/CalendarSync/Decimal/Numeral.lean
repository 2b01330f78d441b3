/-!
# Decimal numerals

Whole numbers as decimal digits: writing them, padding them with zeros on the left, and reading
digits back. Reading what was written, padded or not, gives the number again.
-/

namespace CalendarSync.Decimal
set_option autoImplicit false

/-- The digits of a number, without leading zeros. -/
def numeral (n : Nat) : List Char :=
  Nat.toDigits 10 n

/-- The number that a list of digits denotes; no digits denote zero. -/
def valueOf (digits : List Char) : Nat :=
  Nat.ofDigitChars 10 digits 0

/-- The digits of a number, filled up with zeros on the left to at least `width` of them. -/
def padded (width n : Nat) : List Char :=
  List.replicate (width - (numeral n).length) '0' ++ numeral n

/-- The digits of a whole number, with a minus sign below zero. -/
def signedNumeral (i : Int) : List Char :=
  if i < 0 then '-' :: numeral i.natAbs else numeral i.natAbs

/-- The text of a number's digits. -/
def text (n : Nat) : String :=
  String.ofList (numeral n)

/-- The longest run of digits that the characters start with, and what follows it. -/
def spanDigits (cs : List Char) : List Char × List Char :=
  (cs.takeWhile Char.isDigit, cs.dropWhile Char.isDigit)

theorem isDigit_of_mem_numeral {n : Nat} {c : Char} (h : c ∈ numeral n) : c.isDigit = true :=
  Nat.isDigit_of_mem_toDigits (by decide) (by decide) h

theorem numeral_ne_nil (n : Nat) : numeral n ≠ [] :=
  Nat.toDigits_ne_nil

theorem valueOf_numeral (n : Nat) : valueOf (numeral n) = n :=
  Nat.ofDigitChars_ten_toDigits

theorem valueOf_padded (width n : Nat) : valueOf (padded width n) = n := by
  simp only [padded, valueOf, Nat.ofDigitChars_append, Nat.ofDigitChars_replicate_zero]
  simpa [valueOf] using valueOf_numeral n

theorem isDigit_of_mem_padded {width n : Nat} {c : Char} (h : c ∈ padded width n) :
    c.isDigit = true := by
  rcases List.mem_append.1 h with h | h
  · rw [(List.mem_replicate.1 h).2]; decide
  · exact isDigit_of_mem_numeral h

theorem length_padded {width n : Nat} (pos : 0 < width) (lt : n < Nat.pow 10 width) :
    (padded width n).length = width := by
  have le : (numeral n).length ≤ width := (Nat.length_toDigits_le_iff (by decide) pos).2 lt
  rw [padded, List.length_append, List.length_replicate]
  exact Nat.sub_add_cancel le

/-- Only zero starts with a zero. -/
theorem head?_numeral {n : Nat} (zero : (numeral n).head? = some '0') : n = 0 := by
  induction n using Nat.strongRecOn with
  | ind n ih =>
    by_cases small : n < 10
    · rw [numeral, Nat.toDigits_of_lt_base small, List.head?_singleton, Option.some.injEq] at zero
      exact Nat.digitChar_eq_zero.1 zero
    · have split : numeral n = numeral (n / 10) ++ [(n % 10).digitChar] :=
        Nat.toDigits_of_base_le (by decide) (Nat.le_of_not_lt small)
      obtain ⟨c, digits, shape⟩ := List.exists_cons_of_ne_nil (numeral_ne_nil (n / 10))
      rw [split, shape, List.cons_append, List.head?_cons] at zero
      have := ih (n / 10) (by omega) (by rw [shape, List.head?_cons, zero])
      omega

end CalendarSync.Decimal
