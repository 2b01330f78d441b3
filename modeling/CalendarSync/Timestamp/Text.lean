import CalendarSync.Timestamp
import CalendarSync.Text.Blank
import CalendarSync.Decimal.Numeral

/-!
# Timestamps as text

Writing an instant as date, `T`, time and `Z`, with the fewest of 0, 3, 6 or 9 fraction digits that
lose nothing. Reading takes any offset, blanks between the parts and a few other relaxations.
-/

namespace CalendarSync.Timestamp
set_option autoImplicit false

open CalendarSync.Text (isBlank)
open CalendarSync.Decimal (padded valueOf)

/-- A year: four digits from 0 to 9999, and a sign with at least four digits otherwise. -/
def yearDigits (year : Int) : List Char :=
  if 0 ≤ year ∧ year ≤ 9999 then padded 4 year.toNat
  else (if year < 0 then '-' else '+') :: padded 4 year.natAbs

/-- The fraction of a second, with its point, in groups of three digits. -/
def fractionDigits (nano : Nat) : List Char :=
  if nano = 0 then []
  else if nano % 1000000 = 0 then '.' :: padded 3 (nano / 1000000)
  else if nano % 1000 = 0 then '.' :: padded 6 (nano / 1000)
  else '.' :: padded 9 nano

/-- The characters of a timestamp; the leap second is written as second 60. -/
def chars (t : Timestamp) : List Char :=
  let date := Date.ofDays (t.second / 86400)
  let ofDay := (t.second % 86400).toNat
  let leap := t.nano / 1000000000
  yearDigits date.year ++ '-' :: padded 2 date.month ++ '-' :: padded 2 date.day ++
    'T' :: padded 2 (ofDay / 3600) ++ ':' :: padded 2 (ofDay / 60 % 60) ++
    ':' :: padded 2 (ofDay % 60 + leap) ++ fractionDigits (t.nano % 1000000000) ++ ['Z']

/-- The text of a timestamp. -/
def text (t : Timestamp) : String :=
  String.ofList t.chars

/-- Skips blanks. -/
def skipBlanks (cs : List Char) : List Char :=
  cs.dropWhile isBlank

/-- Reads one to `width` digits, after blanks. -/
def readNumber (width : Nat) (cs : List Char) : Option (Nat × List Char) :=
  let cs := skipBlanks cs
  let digits := (cs.take width).takeWhile Char.isDigit
  if digits.isEmpty then none else some (valueOf digits, cs.drop digits.length)

/-- Reads one given character, after blanks. -/
def readMark (mark : Char) (cs : List Char) : Option (List Char) :=
  match skipBlanks cs with
  | c :: rest => if c = mark then some rest else none
  | [] => none

/-- Reads a year: up to four digits, or a sign and any number of digits. -/
def readYear (cs : List Char) : Option (Int × List Char) :=
  let cs := skipBlanks cs
  let signed (rest : List Char) : Option (Nat × List Char) :=
    let digits := rest.takeWhile Char.isDigit
    if digits.isEmpty then none else some (valueOf digits, rest.drop digits.length)
  match cs with
  | '-' :: rest => (signed rest).map fun (n, more) => (-(n : Int), more)
  | '+' :: rest => (signed rest).map fun (n, more) => ((n : Int), more)
  | _ => (readNumber 4 cs).map fun (n, more) => ((n : Int), more)

/-- Reads a date, if it exists. -/
def readDate (cs : List Char) : Option (Date × List Char) := do
  let (year, cs) ← readYear cs
  let cs ← readMark '-' cs
  let (month, cs) ← readNumber 2 cs
  let cs ← readMark '-' cs
  let (day, cs) ← readNumber 2 cs
  let date : Date := ⟨year, month, day⟩
  if date.isValid then some (date, cs) else none

/-- Reads the fraction of a second in nanoseconds; digits after the ninth do not count. -/
def readFraction (cs : List Char) : Option (Nat × List Char) :=
  match cs with
  | '.' :: rest =>
    let digits := rest.takeWhile Char.isDigit
    let kept := digits.take 9
    if digits.isEmpty then none
    else some (valueOf kept * Nat.pow 10 (9 - kept.length), rest.drop digits.length)
  | _ => some (0, cs)

/-- Reads the time of a day as seconds and nanoseconds; second 60 is a leap second. -/
def readTime (cs : List Char) : Option ((Nat × Nat) × List Char) := do
  let (hour, cs) ← readNumber 2 cs
  let cs ← readMark ':' cs
  let (minute, cs) ← readNumber 2 cs
  let cs ← readMark ':' cs
  let (second, cs) ← readNumber 2 cs
  let (nano, cs) ← readFraction cs
  if hour < 24 ∧ minute < 60 ∧ second ≤ 60 then
    if second = 60 then some ((hour * 3600 + minute * 60 + 59, nano + 1000000000), cs)
    else some ((hour * 3600 + minute * 60 + second, nano), cs)
  else none

/-- Reads exactly two digits. -/
def readPair : List Char → Option (Nat × List Char)
  | a :: b :: rest => if a.isDigit ∧ b.isDigit then some (valueOf [a, b], rest) else none
  | _ => none

/-- Reads an offset from universal time in seconds: a sign, hours and minutes. -/
def readOffset : List Char → Option (Int × List Char)
  | c :: rest => do
    let negative ← if c = '+' then some false
      else if c = '-' ∨ c = '−' then some true else none
    let (hours, rest) ← readPair rest
    let (minutes, rest) ← readPair (rest.dropWhile fun c => c = ':' ∨ isBlank c)
    let offset : Int := hours * 3600 + minutes * 60
    if minutes < 60 ∧ offset < 86400 then some (if negative then -offset else offset, rest)
    else none
  | [] => none

/-- Reads a time zone: `Z`, `UTC` in any letter case, or an offset. -/
def readZone (cs : List Char) : Option (Int × List Char) :=
  if (cs.take 3).map Char.toLower = ['u', 't', 'c'] then some (0, cs.drop 3)
  else
    match cs with
    | 'Z' :: rest => some (0, rest)
    | 'z' :: rest => some (0, rest)
    | _ => readOffset cs

/-- Reads a timestamp from all of the characters. -/
def readChars (cs : List Char) : Option Timestamp := do
  let (date, cs) ← readDate cs
  let cs ← match cs with
    | c :: rest => if c = 'T' ∨ c = 't' ∨ c = ' ' then some rest else none
    | [] => none
  let ((ofDay, nano), cs) ← readTime cs
  let (offset, cs) ← readZone (skipBlanks cs)
  if skipBlanks cs = [] then
    if date.year < -262143 ∨ 262142 < date.year then none
    else of? (date.toDays * 86400 + ofDay - offset) nano
  else none

/-- Reads a timestamp. -/
def read? (s : String) : Option Timestamp :=
  readChars s.toList

end CalendarSync.Timestamp
