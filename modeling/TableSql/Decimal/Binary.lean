import TableSql.Power

/-!
# Binary floating-point formats

A float is kept as its bit pattern. A finite magnitude is `mantissa · 2 ^ power`, with natural
mantissa and integer power, so every rule about floats is exact arithmetic on integers.

* `Format.decode` reads a bit pattern;
* `Format.round` is the pattern of the float nearest to a quotient, a tie going to the even
  mantissa and a quotient too large for the format to infinity.
-/

namespace TableSql.Decimal

/-- A binary format: the bits of its fraction and of its exponent. -/
structure Format where
  fraction : Nat
  exponent : Nat

/-- The format of 32 bits. -/
def single : Format := ⟨23, 8⟩

/-- The format of 64 bits. -/
def double : Format := ⟨52, 11⟩

/-- The magnitude a bit pattern stands for. -/
inductive Magnitude where
  | finite (mantissa : Nat) (power : Int)
  | infinite
  | notNumber
deriving Repr, DecidableEq

namespace Format

/-- The power of the smallest positive float. -/
def leastPower (f : Format) : Int := 2 - twoTo (f.exponent - 1) - f.fraction

/-- The bit pattern of positive infinity. -/
def infinity (f : Format) : Nat := (twoTo f.exponent - 1) * twoTo f.fraction

/-- The bit that makes a float negative. -/
def signBit (f : Format) : Nat := twoTo (f.exponent + f.fraction)

/-- Whether the sign bit is set. -/
def isNegative (f : Format) (bits : Nat) : Bool := f.signBit ≤ bits

/-- The pattern without its sign bit. -/
def unsigned (f : Format) (bits : Nat) : Nat := bits % f.signBit

/-- The magnitude of a bit pattern. -/
def decode (f : Format) (bits : Nat) : Magnitude :=
  let field := f.unsigned bits / twoTo f.fraction
  let rest := f.unsigned bits % twoTo f.fraction
  if field = twoTo f.exponent - 1 then
    if rest = 0 then .infinite else .notNumber
  else if field = 0 then .finite rest f.leastPower
  else .finite (twoTo f.fraction + rest) (f.leastPower + field - 1)

/-- Whether the next smaller magnitude is only half as far away as the next larger one. -/
def isNarrowBelow (f : Format) (mantissa : Nat) (power : Int) : Bool :=
  mantissa = twoTo f.fraction && f.leastPower < power

end Format

/-- The integer nearest to a quotient, a tie going to the even one. -/
def roundDiv (num den : Nat) : Nat :=
  let quotient := num / den
  let twice := 2 * (num % den)
  if twice < den || (twice = den && quotient % 2 = 0) then quotient else quotient + 1

/-- The greatest `k` with `2 ^ k ≤ num / den`, for a positive quotient. -/
def binaryOrder (num den : Nat) : Int :=
  let k : Int := (Nat.log2 num : Int) - Nat.log2 den
  if num * twoTo (-k).toNat < den * twoTo k.toNat then k - 1 else k

/-- The bit pattern of the float nearest to `num / den`. -/
def Format.round (f : Format) (num den : Nat) : Nat :=
  if num = 0 then 0
  else
    let power := max f.leastPower (binaryOrder num den - f.fraction)
    let mantissa := roundDiv (num * twoTo (-power).toNat) (den * twoTo power.toNat)
    -- A mantissa that rounds up to the next power of two carries into the exponent field.
    min f.infinity ((power - f.leastPower).toNat * twoTo f.fraction + mantissa)

end TableSql.Decimal
