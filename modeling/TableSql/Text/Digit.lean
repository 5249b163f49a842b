/-!
# Digits

The values of digits in bases up to sixteen, and the numbers that lists of digits spell.
-/

namespace TableSql.Text

/-- The value of a digit of either case in a base. -/
def digitValue? (base : Nat) (c : Char) : Option Nat :=
  let value :=
    if c.isDigit then c.toNat - '0'.toNat
    else if 'a' ≤ c ∧ c ≤ 'f' then c.toNat - 'a'.toNat + 10
    else if 'A' ≤ c ∧ c ≤ 'F' then c.toNat - 'A'.toNat + 10
    else base
  if value < base then some value else none

/-- Whether a character is a digit in a base. -/
def isDigitOf (base : Nat) (c : Char) : Bool := (digitValue? base c).isSome

/-- The number that a list of digits spells. -/
def natOfDigits (base : Nat) (digits : List Char) : Nat :=
  digits.foldl (fun n c => n * base + (digitValue? base c).getD 0) 0

end TableSql.Text
