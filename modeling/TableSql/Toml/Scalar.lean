import TableSql.Calendar
import TableSql.Decimal.Binary
import TableSql.Text.Digit
import TableSql.Toml.Basic

/-!
# Unquoted values

`Toml.scalar?` reads a value that is written without quotes or brackets: a truth value, an integer,
a float, or a date and time. The whole text has to be one value.

* digits may have single underscores between them;
* a number that does not begin with its base has no zero in front of other digits;
* an integer lies in the range of 128 bits, signed or not, and a float is not too large;
* a date exists in the calendar, and a time may leave out its seconds.
-/

namespace TableSql.Toml

open Decimal (double)
open Text (isDigitOf natOfDigits)

/-- The digits of a text that holds nothing else but single underscores between them. -/
def digits? (base : Nat) : List Char → Option (List Char)
  | [] => none
  | [c] => if isDigitOf base c then some [c] else none
  | c :: '_' :: cs => if isDigitOf base c then (digits? base cs).map (c :: ·) else none
  | c :: cs => if isDigitOf base c then (digits? base cs).map (c :: ·) else none

/-! ## Numbers -/

/-- The sign in front of a number, and what follows it. -/
def sign : List Char → Bool × List Char
  | '-' :: cs => (true, cs)
  | '+' :: cs => (false, cs)
  | cs => (false, cs)

/-- An integer that 128 bits hold. -/
def int? (n : Int) : Option Toml :=
  if -(twoTo 127 : Int) ≤ n ∧ n < twoTo 128 then some (.int n) else none

/-- A float by its sign and the bits without it. -/
def signedFloat (negative : Bool) (bits : Nat) : Toml :=
  .float (UInt64.ofNat (if negative then double.signBit + bits else bits))

/-- The bits of `significand · 10 ^ exponent`, unless it is too large. Exponents far outside the
range of floats are settled without computing the power. -/
def floatBits? (significand : Nat) (exponent : Int) : Option Nat :=
  let magnitude := exponent + (Nat.toDigits 10 significand).length
  if significand = 0 || magnitude < -400 then some 0
  else if 400 < magnitude then none
  else
    let bits := double.round (significand * tenTo exponent.toNat) (tenTo (-exponent).toNat)
    if bits = double.infinity then none else some bits

/-- Splits a text where it stops having digits and underscores. -/
def splitDigits (cs : List Char) : List Char × List Char :=
  cs.span fun c => c.isDigit || c = '_'

/-- The exponent of a float, which is the whole text if there is one. -/
def exponent? : List Char → Option Int
  | [] => some 0
  | c :: cs => do
    if c ≠ 'e' && c ≠ 'E' then failure
    let (negative, cs) := sign cs
    let n := natOfDigits 10 (← digits? 10 cs)
    return if negative then -(n : Int) else n

/-- An integer or a float in base ten. -/
def decimal? (cs : List Char) : Option Toml := do
  let (negative, cs) := sign cs
  let (whole, cs) := splitDigits cs
  let whole ← digits? 10 whole
  if whole.length > 1 && whole.head? = some '0' then failure
  match cs with
  | [] =>
    let n := natOfDigits 10 whole
    int? (if negative then -(n : Int) else n)
  | '.' :: cs =>
    let (places, cs) := splitDigits cs
    let places ← digits? 10 places
    let bits ← floatBits? (natOfDigits 10 (whole ++ places)) ((← exponent? cs) - places.length)
    return signedFloat negative bits
  | cs =>
    let bits ← floatBits? (natOfDigits 10 whole) (← exponent? cs)
    return signedFloat negative bits

/-- An integer after the mark of its base. -/
def based? (base : Nat) (cs : List Char) : Option Toml := do
  int? (natOfDigits base (← digits? base cs))

/-- The bits of the float that is not a number. -/
def notANumber : Nat := double.infinity + twoTo 51

/-! ## Dates and times -/

/-- A number of exactly `width` digits at the front, and what follows it. -/
def fixed? (width : Nat) (cs : List Char) : Option (Nat × List Char) :=
  let ds := cs.take width
  if ds.length = width ∧ ds.all Char.isDigit then some (natOfDigits 10 ds, cs.drop width)
  else none

/-- What follows a character that has to be at the front. -/
def after? (c : Char) : List Char → Option (List Char)
  | d :: cs => if d = c then some cs else none
  | [] => none

/-- What follows a date. -/
def date? (cs : List Char) : Option (List Char) := do
  let (year, cs) ← fixed? 4 cs
  let (month, cs) ← fixed? 2 (← after? '-' cs)
  let (day, cs) ← fixed? 2 (← after? '-' cs)
  if 1 ≤ month ∧ month ≤ 12 ∧ 1 ≤ day ∧ day ≤ Calendar.daysInMonth year month then return cs
  else failure

/-- What follows the fraction of a second, if there is one. -/
def fraction? (cs : List Char) : Option (List Char) :=
  match cs with
  | '.' :: cs =>
    if (cs.takeWhile Char.isDigit).isEmpty then none else some (cs.dropWhile Char.isDigit)
  | _ => some cs

/-- What follows the seconds of a time, if there are any. -/
def seconds? (cs : List Char) : Option (List Char) :=
  match cs with
  | ':' :: cs => do
    let (second, cs) ← fixed? 2 cs
    if second ≤ 60 then fraction? cs else failure
  | _ => some cs

/-- What follows a time of day. -/
def time? (cs : List Char) : Option (List Char) := do
  let (hour, cs) ← fixed? 2 cs
  let (minute, cs) ← fixed? 2 (← after? ':' cs)
  if hour ≤ 23 ∧ minute ≤ 59 then seconds? cs else failure

/-- Whether a text is an offset from universal time, or empty. -/
def isOffset : List Char → Bool
  | [] | ['Z'] | ['z'] => true
  | c :: cs =>
    (c = '+' || c = '-') &&
      match fixed? 2 cs with
      | some (hour, ':' :: cs) =>
        match fixed? 2 cs with
        | some (minute, []) => hour ≤ 23 && minute ≤ 59
        | _ => false
      | _ => false

/-- Whether a text is a date, a time of day, or a date and a time with or without an offset. -/
def isTime (cs : List Char) : Bool :=
  match date? cs with
  | some [] => true
  | some (mark :: cs) =>
    (mark = 'T' || mark = 't' || mark = ' ') && ((time? cs).map isOffset).getD false
  | none => ((time? cs).map List.isEmpty).getD false

/-! ## All of them -/

/-- The value that a text without quotes spells. -/
def scalar? (cs : List Char) : Option Toml :=
  match String.ofList cs with
  | "true" => some (.bool true)
  | "false" => some (.bool false)
  | "inf" | "+inf" => some (signedFloat false double.infinity)
  | "-inf" => some (signedFloat true double.infinity)
  | "nan" | "+nan" => some (signedFloat false notANumber)
  | "-nan" => some (signedFloat true notANumber)
  | text =>
    match cs with
    | '0' :: 'x' :: cs => based? 16 cs
    | '0' :: 'o' :: cs => based? 8 cs
    | '0' :: 'b' :: cs => based? 2 cs
    | _ => if isTime cs then some (.time text) else decimal? cs

end TableSql.Toml
