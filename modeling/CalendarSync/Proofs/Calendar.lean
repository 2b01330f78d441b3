import CalendarSync.Timestamp.Calendar

/-!
# Dates and days

A number of days becomes a date of the calendar, and the date becomes this number again. An era of
400 years has 146097 days, so a day lies in an era, and within it in one of 400 years that start in
March. The year of a day is found by a division that is monotone in the day and right at both ends
of every year, hence right throughout.
-/

namespace CalendarSync.Date
set_option autoImplicit false

/-! ## The years of an era -/

/-- The day of an era at which one of its years starts. -/
def yearStart (year : Nat) : Nat :=
  365 * year + year / 4 - year / 100 + year / 400

/-- Every day before the start of a year lies in an earlier one. -/
theorem exists_year {day bound : Nat} (lt : day < yearStart bound) :
    ∃ year < bound, yearStart year ≤ day ∧ day < yearStart (year + 1) := by
  induction bound with
  | zero => exact absurd lt (Nat.not_lt_zero day)
  | succ year ih =>
    by_cases earlier : day < yearStart year
    · obtain ⟨y, before, within⟩ := ih earlier
      exact ⟨y, Nat.lt_succ_of_lt before, within⟩
    · exact ⟨year, Nat.lt_succ_self year, Nat.le_of_not_lt earlier, lt⟩

/-- A day of an era without the leap days before it. -/
def leaplessDay (day : Nat) : Nat :=
  day - day / 1460 + day / 36524 - day / 146096

theorem leaplessDay_le_succ {day : Nat} (inEra : day + 1 < 146097) :
    leaplessDay day ≤ leaplessDay (day + 1) := by
  unfold leaplessDay
  omega

theorem leaplessDay_mono {day later : Nat} (le : day ≤ later) (inEra : later < 146097) :
    leaplessDay day ≤ leaplessDay later := by
  induction later with
  | zero =>
    obtain rfl := Nat.le_zero.1 le
    exact Nat.le_refl _
  | succ later ih =>
    obtain same | earlier := Nat.eq_or_lt_of_le le
    · exact Nat.le_of_eq (congrArg leaplessDay same)
    · exact Nat.le_trans (ih (Nat.le_of_lt_succ earlier) (Nat.lt_of_succ_lt inEra))
        (leaplessDay_le_succ inEra)

/-- The days of a year, whose leap day comes last and so in the next year of the calendar. -/
theorem yearStart_succ : ∀ year < 400, yearStart (year + 1) =
    yearStart year + if isLeapYear (year + 1) then 366 else 365 := by
  decide +kernel

/-- At both ends of a year the division is right. -/
theorem leaplessDay_yearStart : ∀ year < 400, yearStart (year + 1) ≤ 146097 ∧
    leaplessDay (yearStart year) / 365 = year ∧
    leaplessDay (yearStart (year + 1) - 1) / 365 = year := by
  decide +kernel

/-- The year of a day of an era. -/
theorem leaplessDay_div {day year : Nat} (inEra : year < 400) (start : yearStart year ≤ day)
    (stop : day < yearStart (year + 1)) : leaplessDay day / 365 = year := by
  obtain ⟨bound, first, last⟩ := leaplessDay_yearStart year inEra
  apply Nat.le_antisymm
  · have le : day ≤ yearStart (year + 1) - 1 := Nat.le_sub_one_of_lt stop
    have mono := Nat.div_le_div_right (c := 365) (leaplessDay_mono le (by omega))
    omega
  · have mono := Nat.div_le_div_right (c := 365) (leaplessDay_mono start (by omega))
    omega

/-! ## The months of a year -/

/-- The date of a day of a year that starts in March. -/
def ofParts (era : Int) (year dayOfYear : Nat) : Date :=
  let month := (5 * dayOfYear + 2) / 153
  let day := dayOfYear - (153 * month + 2) / 5 + 1
  if month < 10 then ⟨year + era * 400, month + 3, day⟩
  else ⟨year + era * 400 + 1, month - 9, day⟩

/-- The days of an era are taken apart into years and days. -/
theorem ofDays_eq (era : Int) {year dayOfYear : Nat} (inEra : year < 400)
    (inYear : yearStart year + dayOfYear < yearStart (year + 1)) :
    ofDays (era * 146097 + (yearStart year + dayOfYear : Nat) - 719468) =
      ofParts era year dayOfYear := by
  have bound := (leaplessDay_yearStart year inEra).1
  have divided := leaplessDay_div inEra (Nat.le_add_right _ _) inYear
  unfold ofDays ofParts
  rw [Int.sub_add_cancel]
  generalize shown : yearStart year + dayOfYear = day at *
  have dayOfEra : (era * 146097 + (day : Int)) % 146097 = day := by omega
  have eraOf : (era * 146097 + (day : Int)) / 146097 = era := by omega
  have yearOf : ((day : Int) - day / 1460 + day / 36524 - day / 146096) / 365 = year := by
    unfold leaplessDay at divided
    omega
  have dayOf : (day : Int) - (365 * year + year / 4 - year / 100) = dayOfYear := by
    unfold yearStart at shown
    omega
  have monthOf : (5 * (dayOfYear : Int) + 2) / 153 = ((5 * dayOfYear + 2) / 153 : Nat) := by omega
  have start : (153 * ((5 * dayOfYear + 2) / 153) + 2) / 5 ≤ dayOfYear := by omega
  simp only [dayOfEra, eraOf, yearOf, dayOf, monthOf]
  generalize (5 * dayOfYear + 2) / 153 = month at start ⊢
  have monthDay : ((dayOfYear : Int) - (153 * month + 2) / 5 + 1).toNat =
      dayOfYear - (153 * month + 2) / 5 + 1 := by omega
  by_cases early : month < 10
  · have early' : (month : Int) < 10 := by omega
    have spring : ((month : Int) + 3).toNat = month + 3 := by omega
    rw [if_pos early, if_pos early', monthDay, spring]
  · have late : ¬ (month : Int) < 10 := by omega
    have winter : ((month : Int) - 9).toNat = month - 9 := by omega
    rw [if_neg early, if_neg late, monthDay, winter]

/-- A date tells the era, the year and the day that it is made of. -/
theorem toDays_ofParts (era : Int) {year dayOfYear : Nat} (inEra : year < 400)
    (inYear : dayOfYear < 366) : (ofParts era year dayOfYear).toDays =
      era * 146097 + (yearStart year + dayOfYear : Nat) - 719468 := by
  have start : (153 * ((5 * dayOfYear + 2) / 153) + 2) / 5 ≤ dayOfYear := by omega
  have last : (5 * dayOfYear + 2) / 153 < 12 := by omega
  have yearOf : ((year : Int) + era * 400) % 400 = year := by omega
  have eraOf : ((year : Int) + era * 400) / 400 = era := by omega
  have days : yearStart year = 365 * year + year / 4 - year / 100 := by
    unfold yearStart
    omega
  unfold ofParts
  generalize (5 * dayOfYear + 2) / 153 = month at start last ⊢
  by_cases early : month < 10
  · have spring : ¬ month + 3 ≤ 2 := by omega
    simp only [if_pos early, toDays, if_neg spring, yearOf, eraOf]
    omega
  · have winter : month - 9 ≤ 2 := by omega
    simp only [if_neg early, toDays, if_pos winter, Int.add_sub_cancel, yearOf, eraOf]
    omega

/-- The months from March to February have the days that the division gives them, and the 29th of
February is the last of 366 days. -/
theorem day_le : ∀ dayOfYear < 366,
    let month := (5 * dayOfYear + 2) / 153
    dayOfYear - (153 * month + 2) / 5 + 1 ≤
      if month = 11 then if dayOfYear = 365 then 29 else 28
      else if month = 1 ∨ month = 3 ∨ month = 6 ∨ month = 8 then 30
      else 31 := by
  decide +kernel

theorem isLeapYear_add_era (year era : Int) :
    isLeapYear (year + era * 400) = isLeapYear year := by
  have four : (year + era * 400) % 4 = year % 4 := by omega
  have hundred : (year + era * 400) % 100 = year % 100 := by omega
  have whole : (year + era * 400) % 400 = year % 400 := by omega
  unfold isLeapYear
  rw [four, hundred, whole]

theorem isValid_ofParts (era : Int) {year dayOfYear : Nat}
    (inYear : dayOfYear < if isLeapYear (year + 1) then 366 else 365) :
    (ofParts era year dayOfYear).isValid = true := by
  have bound : dayOfYear < 366 := by
    split at inYear <;> omega
  have last : (5 * dayOfYear + 2) / 153 < 12 := by omega
  have le := day_le dayOfYear bound
  unfold ofParts isValid
  dsimp only at le
  generalize (5 * dayOfYear + 2) / 153 = month at last le ⊢
  by_cases early : month < 10
  · have inner : ¬ month = 11 := by omega
    have spring : ¬ month + 3 = 2 := by omega
    have shorter : (month + 3 = 4 ∨ month + 3 = 6 ∨ month + 3 = 9 ∨ month + 3 = 11) ↔
        (month = 1 ∨ month = 3 ∨ month = 6 ∨ month = 8) := by omega
    rw [if_neg inner] at le
    simp only [if_pos early, daysInMonth, if_neg spring, shorter, Bool.and_eq_true,
      decide_eq_true_eq]
    omega
  · have same : isLeapYear (year + era * 400 + 1) = isLeapYear (year + 1) := by
      rw [Int.add_right_comm, isLeapYear_add_era]
    simp only [if_neg early, daysInMonth, same, Bool.and_eq_true, decide_eq_true_eq]
    obtain rfl | rfl : month = 10 ∨ month = 11 := by omega
    case inl => exact ⟨⟨by decide, Nat.le_add_left 1 _⟩, le⟩
    case inr =>
      refine ⟨⟨by decide, Nat.le_add_left 1 _⟩, Nat.le_trans le ?_⟩
      cases leap : isLeapYear (year + 1)
      · have inner : ¬ dayOfYear = 365 := by
          rw [leap, if_neg (by decide)] at inYear
          exact Nat.ne_of_lt inYear
        simp [inner]
      · simp only [if_true]
        split <;> decide

/-- Every day has its place in a year of an era. -/
theorem exists_parts (days : Int) : ∃ (era : Int) (year dayOfYear : Nat), year < 400 ∧
    (dayOfYear < if isLeapYear (year + 1) then 366 else 365) ∧
    days = era * 146097 + (yearStart year + dayOfYear : Nat) - 719468 := by
  obtain ⟨day, shown⟩ : ∃ day : Nat, (days + 719468) % 146097 = day :=
    Int.eq_ofNat_of_zero_le (by omega)
  have inEra : day < yearStart 400 := by
    have : yearStart 400 = 146097 := by decide
    omega
  obtain ⟨year, before, start, stop⟩ := exists_year inEra
  rw [yearStart_succ year before] at stop
  refine ⟨(days + 719468) / 146097, year, day - yearStart year, before, ?_, ?_⟩
  · exact Nat.sub_lt_left_of_lt_add start stop
  · omega

/-- The date of a day is made of its place in a year of an era. -/
theorem exists_ofParts (days : Int) : ∃ (era : Int) (year dayOfYear : Nat), year < 400 ∧
    (dayOfYear < if isLeapYear (year + 1) then 366 else 365) ∧
    days = era * 146097 + (yearStart year + dayOfYear : Nat) - 719468 ∧
    ofDays days = ofParts era year dayOfYear := by
  obtain ⟨era, year, dayOfYear, inEra, inYear, rfl⟩ := exists_parts days
  refine ⟨era, year, dayOfYear, inEra, inYear, rfl, ofDays_eq era inEra ?_⟩
  rw [yearStart_succ year inEra]
  exact Nat.add_lt_add_left inYear _

/-- The date of a number of days is that many days from 1970-01-01. -/
theorem toDays_ofDays (days : Int) : (ofDays days).toDays = days := by
  obtain ⟨era, year, dayOfYear, inEra, inYear, place, date⟩ := exists_ofParts days
  have bound : dayOfYear < 366 := by
    split at inYear <;> omega
  rw [date, toDays_ofParts era inEra bound, ← place]

/-- The date of a number of days exists. -/
theorem isValid_ofDays (days : Int) : (ofDays days).isValid = true := by
  obtain ⟨era, year, dayOfYear, -, inYear, -, date⟩ := exists_ofParts days
  rw [date]
  exact isValid_ofParts era inYear

end CalendarSync.Date
