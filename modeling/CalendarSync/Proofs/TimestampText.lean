import CalendarSync.Proofs.Calendar
import CalendarSync.Text.Tail
import CalendarSync.Timestamp.Text

/-!
# Timestamps are read as they were written

The text of an instant of the years 0 to 9999 that is no leap second is read as this instant. Each
number is padded to the width that is read of it at most, so it does not matter what follows.
-/

namespace CalendarSync.Timestamp
set_option autoImplicit false

open CalendarSync.Text (isBlank)
open CalendarSync.Decimal

variable {width n nano : Nat} {c : Char} {cs rest : List Char}

/-! ## Numbers and marks -/

theorem isBlank_of_isDigit (digit : c.isDigit = true) : isBlank c = false := by
  obtain ⟨low, high⟩ : 48 ≤ c.toNat ∧ c.toNat ≤ 57 := by
    simpa [Char.isDigit, UInt32.le_iff_toNat_le] using digit
  simp [isBlank]
  omega

theorem skipBlanks_cons (visible : isBlank c = false) (rest : List Char) :
    skipBlanks (c :: rest) = c :: rest := by
  simp [skipBlanks, visible]

theorem exists_padded (width n : Nat) :
    ∃ c cs, padded width n = c :: cs ∧ c.isDigit = true := by
  have nonempty : padded width n ≠ [] :=
    List.append_ne_nil_of_right_ne_nil _ (numeral_ne_nil n)
  obtain ⟨c, cs, shape⟩ := List.exists_cons_of_ne_nil nonempty
  exact ⟨c, cs, shape, isDigit_of_mem_padded (shape ▸ List.mem_cons_self)⟩

theorem isEmpty_padded (width n : Nat) : (padded width n).isEmpty = false := by
  obtain ⟨c, cs, shape, -⟩ := exists_padded width n
  rw [shape, List.isEmpty_cons]

theorem skipBlanks_padded (width n : Nat) (rest : List Char) :
    skipBlanks (padded width n ++ rest) = padded width n ++ rest := by
  obtain ⟨c, cs, shape, digit⟩ := exists_padded width n
  rw [shape, List.cons_append, skipBlanks_cons (isBlank_of_isDigit digit)]

/-- A number that is padded to the width that is read. -/
theorem readNumber_padded (pos : 0 < width) (lt : n < Nat.pow 10 width) (rest : List Char) :
    readNumber width (padded width n ++ rest) = some (n, rest) := by
  have length := length_padded pos lt
  obtain ⟨digits, -⟩ :=
    Text.span_self fun _ (mem : _ ∈ padded width n) => isDigit_of_mem_padded mem
  unfold readNumber
  simp only [skipBlanks_padded, List.take_left' length, digits, isEmpty_padded, valueOf_padded,
    List.drop_left]
  rfl

theorem readMark_cons (visible : isBlank c = false) (rest : List Char) :
    readMark c (c :: rest) = some rest := by
  simp [readMark, skipBlanks_cons visible]

/-! ## Date and time -/

/-- A year of four digits. -/
theorem readYear_yearDigits {year : Int} (first : 0 ≤ year) (last : year ≤ 9999)
    (rest : List Char) : readYear (yearDigits year ++ rest) = some (year, rest) := by
  have lt : year.toNat < Nat.pow 10 4 := by
    change year.toNat < 10000
    omega
  have read := readNumber_padded (by decide) lt rest
  have whole : (year.toNat : Int) = year := Int.toNat_of_nonneg first
  rw [yearDigits, if_pos ⟨first, last⟩]
  unfold readYear
  rw [skipBlanks_padded]
  obtain ⟨c, cs, shape, digit⟩ := exists_padded 4 year.toNat
  rw [shape, List.cons_append] at read ⊢
  dsimp only
  split
  · simp_all
  · simp_all
  · rw [read, Option.map_some, whole]

/-- Two digits are enough for the month and the day of a date. -/
theorem lt_of_isValid {date : Date} (valid : date.isValid = true) :
    date.month < Nat.pow 10 2 ∧ date.day < Nat.pow 10 2 := by
  have short : Date.daysInMonth date.year date.month ≤ 31 := by
    unfold Date.daysInMonth
    split
    · split <;> decide
    · split <;> decide
  simp only [Date.isValid, Bool.and_eq_true, decide_eq_true_eq] at valid
  change date.month < 100 ∧ date.day < 100
  omega

/-- A date that exists. -/
theorem readDate_append {date : Date} (valid : date.isValid = true) (first : 0 ≤ date.year)
    (last : date.year ≤ 9999) (rest : List Char) :
    readDate (yearDigits date.year ++ '-' :: (padded 2 date.month ++ '-' ::
      (padded 2 date.day ++ rest))) = some (date, rest) := by
  obtain ⟨month, day⟩ := lt_of_isValid valid
  unfold readDate
  simp only [readYear_yearDigits first last, readMark_cons (show isBlank '-' = false by decide),
    readNumber_padded (by decide) month, readNumber_padded (by decide) day,
    Option.bind_eq_bind, Option.bind_some, valid, if_true]

/-- The fraction of a second, in as many groups of digits as are needed. -/
theorem readFraction_append (lt : nano < 1000000000)
    (ends : ∀ c, rest.head? = some c → c.isDigit = false ∧ c ≠ '.') :
    readFraction (fractionDigits nano ++ rest) = some (nano, rest) := by
  have digits (width n : Nat) (pos : 0 < width) (le : width ≤ 9) (lt : n < Nat.pow 10 width) :
      readFraction ('.' :: (padded width n ++ rest)) =
        some (n * Nat.pow 10 (9 - width), rest) := by
    obtain ⟨taken, -⟩ := Text.span_append
      (fun _ (mem : _ ∈ padded width n) => isDigit_of_mem_padded mem) fun c start =>
        (ends c start).1
    have length := length_padded pos lt
    have kept : (padded width n).take 9 = padded width n :=
      List.take_of_length_le (by rw [length]; exact le)
    unfold readFraction
    simp only [taken, isEmpty_padded, kept, valueOf_padded, length, List.drop_left' length]
    rfl
  unfold fractionDigits
  by_cases none : nano = 0
  · rw [if_pos none, List.nil_append, none]
    unfold readFraction
    split
    · exact absurd rfl (ends _ rfl).2
    · rfl
  rw [if_neg none]
  by_cases millis : nano % 1000000 = 0
  · rw [if_pos millis, List.cons_append,
      digits 3 (nano / 1000000) (by decide) (by decide) (by change _ < 1000; omega)]
    have : nano / 1000000 * Nat.pow 10 (9 - 3) = nano := by change _ * 1000000 = _; omega
    rw [this]
  rw [if_neg millis]
  by_cases micros : nano % 1000 = 0
  · rw [if_pos micros, List.cons_append,
      digits 6 (nano / 1000) (by decide) (by decide) (by change _ < 1000000; omega)]
    have : nano / 1000 * Nat.pow 10 (9 - 6) = nano := by change _ * 1000 = _; omega
    rw [this]
  · rw [if_neg micros, List.cons_append, digits 9 nano (by decide) (by decide) lt]
    have : nano * Nat.pow 10 (9 - 9) = nano := Nat.mul_one nano
    rw [this]

/-- A time of day. -/
theorem readTime_append {hour minute second : Nat} (hours : hour < 24) (minutes : minute < 60)
    (seconds : second < 60) (lt : nano < 1000000000)
    (ends : ∀ c, rest.head? = some c → c.isDigit = false ∧ c ≠ '.') :
    readTime (padded 2 hour ++ ':' :: (padded 2 minute ++ ':' ::
      (padded 2 second ++ (fractionDigits nano ++ rest)))) =
        some ((hour * 3600 + minute * 60 + second, nano), rest) := by
  have wide {n : Nat} (small : n < 60) : n < Nat.pow 10 2 :=
    Nat.lt_trans small (by decide)
  have valid : hour < 24 ∧ minute < 60 ∧ second ≤ 60 := ⟨hours, minutes, Nat.le_of_lt seconds⟩
  unfold readTime
  simp only [readNumber_padded (by decide) (wide (Nat.lt_trans hours (by decide))),
    readNumber_padded (by decide) (wide minutes), readNumber_padded (by decide) (wide seconds),
    readMark_cons (show isBlank ':' = false by decide), readFraction_append lt ends,
    Option.bind_eq_bind, Option.bind_some, if_pos valid, if_neg (Nat.ne_of_lt seconds)]

/-! ## The whole text -/

/-- The year of an instant in universal time. -/
def year (t : Timestamp) : Int :=
  (Date.ofDays (t.second / 86400)).year

/-- The instant lies in the years 0 to 9999, and in no leap second. -/
structure IsOrdinary (t : Timestamp) : Prop where
  first : 0 ≤ t.year
  last : t.year ≤ 9999
  noLeap : t.nano < 1000000000

instance (t : Timestamp) : Decidable t.IsOrdinary :=
  decidable_of_iff (0 ≤ t.year ∧ t.year ≤ 9999 ∧ t.nano < 1000000000)
    ⟨fun ⟨first, last, noLeap⟩ => ⟨first, last, noLeap⟩,
      fun ⟨first, last, noLeap⟩ => ⟨first, last, noLeap⟩⟩

/-- Dates of the years 0 to 9999 are less than four million days from 1970-01-01. -/
theorem toDays_within {date : Date} (valid : date.isValid = true) (first : 0 ≤ date.year)
    (last : date.year ≤ 9999) : -4000000 < date.toDays ∧ date.toDays < 4000000 := by
  obtain ⟨month, day⟩ := lt_of_isValid valid
  change date.month < 100 at month
  change date.day < 100 at day
  unfold Date.toDays
  by_cases early : date.month ≤ 2
  · simp only [if_pos early]
    omega
  · simp only [if_neg early]
    omega

/-- Ordinary instants lie in the years that timestamps cover. -/
theorem IsOrdinary.inRange {t : Timestamp} (ordinary : t.IsOrdinary) : t.inRange = true := by
  obtain ⟨low, high⟩ :=
    toDays_within (Date.isValid_ofDays (t.second / 86400)) ordinary.first ordinary.last
  rw [Date.toDays_ofDays] at low high
  have earliest : firstSecond < -4000000 * 86400 := by decide
  have latest : 4000000 * 86400 < lastSecond := by decide
  simp only [Timestamp.inRange, Bool.and_eq_true, decide_eq_true_eq]
  omega

/-- An ordinary instant is read as it was written. -/
theorem IsOrdinary.read?_text {t : Timestamp} (ordinary : t.IsOrdinary) :
    read? t.text = some t := by
  have inRange := ordinary.inRange
  obtain ⟨first, last, noLeap⟩ := ordinary
  have leap : t.nano / 1000000000 = 0 := Nat.div_eq_of_lt noLeap
  have nano : t.nano % 1000000000 = t.nano := Nat.mod_eq_of_lt noLeap
  have valid := Date.isValid_ofDays (t.second / 86400)
  have days := Date.toDays_ofDays (t.second / 86400)
  obtain ⟨ofDay, shown⟩ : ∃ ofDay : Nat, t.second % 86400 = ofDay :=
    Int.eq_ofNat_of_zero_le (by omega)
  have time : ofDay / 3600 * 3600 + ofDay / 60 % 60 * 60 + ofDay % 60 = ofDay := by omega
  have instant : t.second / 86400 * 86400 + (ofDay : Int) - 0 = t.second := by omega
  have covered : ¬ ((Date.ofDays (t.second / 86400)).year < -262143 ∨
      262142 < (Date.ofDays (t.second / 86400)).year) := by
    unfold year at first last
    omega
  have ends : ∀ c, ['Z'].head? = some c → c.isDigit = false ∧ c ≠ '.' := by
    rintro c start
    cases start
    decide
  have zone : readZone (skipBlanks ['Z']) = some (0, []) := by decide
  unfold read? text chars
  simp only [String.toList_ofList, leap, nano, shown, Int.toNat_natCast, Nat.add_zero,
    List.append_assoc, List.cons_append]
  unfold readChars
  simp only [readDate_append valid first last,
    readTime_append (show ofDay / 3600 < 24 by omega) (Nat.mod_lt _ (by decide))
      (Nat.mod_lt _ (by decide)) noLeap ends, zone, Option.bind_eq_bind, Option.bind_some,
    true_or, if_true, time, days, instant, if_neg covered]
  rw [if_pos (by decide), of?, dif_pos t.nano_lt, if_pos inRange]

end CalendarSync.Timestamp
