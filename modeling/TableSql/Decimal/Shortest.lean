import TableSql.Decimal.Binary

/-!
# The shortest decimal of a float

Among the decimals that round to a float, `Format.shortest` picks one with the fewest digits and
among those the one nearest to the float. Of two equally near, a `Tie` says which.

The reals that round to `mantissa · 2 ^ power` form an interval. If a point of a decimal grid lies
in it, so does one of the float's two neighbours on that grid; the search therefore tests those
two for one digit, then for two, and so on. Seventeen digits are always enough.
-/

namespace TableSql.Decimal

/-- Which of two equally near decimals is taken. -/
inductive Tie where
  /-- The greater one. -/
  | upper
  /-- The one whose last digit is even. -/
  | even
deriving Repr, DecidableEq

/-- The number `digits · 10 ^ power`. -/
structure Scaled where
  digits : Nat
  power : Int
deriving Repr, DecidableEq

/-- Moves zeros at the end of the digits into the power. -/
def Scaled.trimZeros (d : Scaled) : Scaled :=
  if h : d.digits ≠ 0 ∧ d.digits % 10 = 0 then
    have : d.digits / 10 < d.digits := Nat.div_lt_self (Nat.pos_of_ne_zero h.1) (by decide)
    trimZeros ⟨d.digits / 10, d.power + 1⟩
  else d
termination_by d.digits

/-- The greatest `k` with `10 ^ k ≤ num / den`, for a positive quotient above `10 ^ -400`. -/
def decimalOrder (num den : Nat) : Int :=
  ((Nat.toDigits 10 (num * tenTo 400 / den)).length : Int) - 401

/-- A positive number and the interval of those that are written alike, over one denominator. -/
structure Target where
  below : Nat
  value : Nat
  above : Nat
  den : Nat
  closed : Bool

/-- Whether `num / den` lies in the interval of a target with that denominator. -/
def Target.admits (t : Target) (num : Nat) : Bool :=
  if t.closed then t.below ≤ num && num ≤ t.above else t.below < num && num < t.above

/-- Whether `lower`, at the first distance, is taken before the next number, at the second. -/
def Tie.takesLower (tie : Tie) (lower below above : Nat) : Bool :=
  below < above || (below = above && tie = .even && lower % 2 = 0)

/-- The neighbour of the value on the grid of step `10 ^ power` that the interval admits, the
nearer one if both are admitted. -/
def Target.onGrid? (tie : Tie) (t : Target) (power : Int) : Option Scaled :=
  let scale := tenTo (-power).toNat
  let step := t.den * tenTo power.toNat
  let fine : Target := { t with below := t.below * scale, value := t.value * scale,
                                above := t.above * scale }
  let lower := fine.value / step
  let upper := lower + 1
  match fine.admits (lower * step), fine.admits (upper * step) with
  | true, true =>
    if tie.takesLower lower (fine.value - lower * step) (upper * step - fine.value)
    then some ⟨lower, power⟩ else some ⟨upper, power⟩
  | true, false => some ⟨lower, power⟩
  | false, true => some ⟨upper, power⟩
  | false, false => none

/-- The interval of the numbers that round to `mantissa · 2 ^ power`. -/
def Format.target (f : Format) (mantissa : Nat) (power : Int) : Target :=
  let scale := twoTo (power - 2).toNat
  { below := (4 * mantissa - if f.isNarrowBelow mantissa power then 1 else 2) * scale
    value := 4 * mantissa * scale
    above := (4 * mantissa + 2) * scale
    den := twoTo (2 - power).toNat
    closed := mantissa % 2 = 0 }

/-- The shortest decimal that rounds to `mantissa · 2 ^ power`. -/
def Format.shortest (f : Format) (tie : Tie) (mantissa : Nat) (power : Int) : Scaled :=
  if mantissa = 0 then ⟨0, 0⟩
  else
    let t := f.target mantissa power
    let order := decimalOrder t.value t.den
    match (List.range 17).findSome? fun n : Nat => t.onGrid? tie (order - (n : Int)) with
    | some d => d.trimZeros
    | none => ⟨mantissa, 0⟩

end TableSql.Decimal
