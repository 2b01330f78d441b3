import CalendarSync.Decimal.Shortest

/-!
# Layouts of decimals

Writing a double with the fewest digits that read back, either always positionally or with an
exponent outside a range.
-/

namespace CalendarSync.Decimal
set_option autoImplicit false

/-- How a double is laid out. -/
structure Layout where
  /-- Decimal exponents of the first digit that are written without an exponent. -/
  positional : Int → Bool
  /-- A whole number keeps a point and a zero. -/
  wholePoint : Bool
  /-- Of two equally near decimals the one with the greater last digit is taken. -/
  tieUp : Nat → Bool

/-- Digits without an exponent; `order` is the decimal exponent of the first digit. -/
def positionalDigits (wholePoint : Bool) (digits : List Char) (order : Int) : List Char :=
  if order < 0 then
    '0' :: '.' :: (List.replicate (-order - 1).toNat '0' ++ digits)
  else
    let whole := order.toNat + 1
    if digits.length ≤ whole then
      digits ++ List.replicate (whole - digits.length) '0' ++
        if wholePoint then ['.', '0'] else []
    else digits.take whole ++ '.' :: digits.drop whole

/-- Digits with an exponent, whose sign is always written. -/
def scientificDigits (digits : List Char) (order : Int) : List Char :=
  let mantissa :=
    match digits with
    | [] => []
    | [d] => [d]
    | d :: more => d :: '.' :: more
  mantissa ++ 'e' :: (if order < 0 then '-' else '+') :: numeral order.natAbs

/-- The text of a finite double. -/
def Layout.digits (layout : Layout) (b : Binary) : List Char :=
  let body :=
    if b.significand = 0 then positionalDigits layout.wholePoint ['0'] 0
    else
      let s := shortest layout.tieUp b
      let digits := numeral s.digits
      let order := s.exponent + digits.length - 1
      if layout.positional order then positionalDigits layout.wholePoint digits order
      else scientificDigits digits order
  if b.negative then '-' :: body else body

/-- Messages write a double without an exponent, and a whole number without a point. -/
def plain : Layout where
  positional := fun _ => true
  wholePoint := false
  tieUp := fun _ => true

/-- The text of a double in messages. -/
def plainText (x : Float) : String :=
  match Binary.ofFloat? x with
  | some b => String.ofList (plain.digits b)
  | none => if x.isNaN then "NaN" else if x < 0 then "-inf" else "inf"

end CalendarSync.Decimal
