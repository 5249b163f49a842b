import TableSql.Decimal.Shortest

/-!
# Decimal text of floats

Two ways of writing the shortest decimal of a float:

* `Format.plainText` never uses an exponent and drops a fraction of zero, as in `1.5`, `0`, `-0`
  and `0.0000001`; of two equally near decimals it takes the upper;
* `Format.exponentText` always has a fraction or an exponent, and uses the exponent for powers of
  ten below `-5` and from `16` on, as in `1.0`, `1e-7` and `1.5e+16`; of two equally near decimals
  it takes the even one.
-/

namespace TableSql.Decimal

/-- The digits of a natural number in base ten. -/
def digitsOf (n : Nat) : List Char := Nat.toDigits 10 n

/-- The digits with the decimal mark after the first `point` of them, zeros filling up on either
side; the second part is empty when there is no fraction. -/
def splitAt (digits : List Char) (point : Int) : List Char × List Char :=
  if point ≤ 0 then (['0'], List.replicate (-point).toNat '0' ++ digits)
  else
    let n := point.toNat
    (digits.take n ++ List.replicate (n - digits.length) '0', digits.drop n)

/-- The number of digits before the decimal mark; zero and below for numbers less than one. -/
def Scaled.point (d : Scaled) : Int := (digitsOf d.digits).length + d.power

/-- The decimal without an exponent, and without a fraction if it is whole. -/
def Scaled.plain (d : Scaled) : String :=
  let parts := splitAt (digitsOf d.digits) d.point
  if d.digits = 0 then "0"
  else if parts.2.isEmpty then String.ofList parts.1
  else String.ofList (parts.1 ++ '.' :: parts.2)

/-- The decimal with a fraction of at least one digit, or with an exponent. -/
def Scaled.withExponent (d : Scaled) : String :=
  let digits := digitsOf d.digits
  let order := d.point - 1
  if d.digits = 0 then "0.0"
  else if -5 ≤ order ∧ order < 16 then
    let parts := splitAt digits d.point
    String.ofList (parts.1 ++ '.' :: if parts.2.isEmpty then ['0'] else parts.2)
  else
    let parts := splitAt digits 1
    let mark := if parts.2.isEmpty then [] else ['.']
    let sign := if order < 0 then "e-" else "e+"
    String.ofList (parts.1 ++ mark ++ parts.2) ++ sign ++ toString order.natAbs

/-- The sign of a bit pattern as text. -/
def Format.signText (f : Format) (bits : Nat) : String := if f.isNegative bits then "-" else ""

/-- A float without an exponent. -/
def Format.plainText (f : Format) (bits : Nat) : String :=
  match f.decode bits with
  | .notNumber => "NaN"
  | .infinite => f.signText bits ++ "inf"
  | .finite mantissa power => f.signText bits ++ (f.shortest .upper mantissa power).plain

/-- A finite float with a fraction or an exponent; `none` for the others. -/
def Format.exponentText (f : Format) (bits : Nat) : Option String :=
  match f.decode bits with
  | .notNumber | .infinite => none
  | .finite mantissa power =>
    some (f.signText bits ++ (f.shortest .even mantissa power).withExponent)

end TableSql.Decimal
