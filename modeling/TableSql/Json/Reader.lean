import TableSql.Decimal.Binary
import TableSql.Json.Basic
import TableSql.Text.Digit

/-!
# Reading JSON text

`Json.parse?` accepts exactly one value with blanks around it, arrays and objects nested to a
depth of at most `maxDepth`. The readers take the characters that are left and return the value
and the rest. Their first argument bounds the number of nested and repeated calls; the length of
the text is always enough.

Numbers:

* an integer that fits 64 bits, signed or unsigned, is kept as it is;
* any other number is a float. Its digits are gathered while they fit 64 bits, and the float of
  that significand is multiplied or divided by the float of the power of ten, rounding each time.
  A float too large is refused, and one too small is zero.
-/

namespace TableSql.Json

open Decimal (double)
open Text (digitValue? natOfDigits)

/-- What is left after the blanks of JSON. -/
def skipBlanks (cs : List Char) : List Char :=
  cs.dropWhile fun c => c = ' ' || c = '\t' || c = '\n' || c = '\r'

/-! ## Numbers -/

/-- The greatest significand. -/
def greatestSignificand : Nat := 18446744073709551615

/-- The greatest number that 64 bits hold with a minus sign in front. -/
def greatestNegated : Nat := 9223372036854775808

/-- Takes digits into a significand while it fits; the digits that are left come back. -/
def gather (significand : Nat) : List Char → Nat × List Char
  | [] => (significand, [])
  | c :: cs =>
    let next := significand * 10 + (c.toNat - '0'.toNat)
    if next ≤ greatestSignificand then gather next cs else (significand, c :: cs)

/-- The product of two floats that are neither negative nor infinite. -/
def mulFloat (a b : Nat) : Nat :=
  match double.decode a, double.decode b with
  | .finite m p, .finite n q =>
    double.round (m * n * twoTo (p + q).toNat) (twoTo (-(p + q)).toNat)
  | _, _ => double.infinity

/-- The quotient of two floats that are neither negative nor infinite; the second is not zero. -/
def divFloat (a b : Nat) : Nat :=
  match double.decode a, double.decode b with
  | .finite m p, .finite n q =>
    double.round (m * twoTo (p - q).toNat) (n * twoTo (q - p).toNat)
  | _, _ => double.infinity

/-- The float of a power of ten. -/
def floatTen (exponent : Nat) : Nat := double.round (tenTo exponent) 1

/-- Divides a float by a power of ten, in steps of at most `10 ^ 308`, until it is zero. -/
def divTen (value : Nat) : (steps : Nat) → (exponent : Nat) → Nat
  | 0, _ => 0
  | steps + 1, exponent =>
    if value = 0 then 0
    else if exponent ≤ 308 then divFloat value (floatTen exponent)
    else divTen (divFloat value (floatTen 308)) steps (exponent - 308)

/-- The float `significand · 10 ^ exponent`; `none` if it is too large. -/
def scale? (significand : Nat) (exponent : Int) : Option Nat :=
  let value := double.round significand 1
  if exponent < 0 then some (divTen value 4 exponent.natAbs)
  else if exponent ≤ 308 then
    let product := mulFloat value (floatTen exponent.toNat)
    if product = double.infinity then none else some product
  else if significand = 0 then some 0
  else none

/-- A float with its sign. -/
def signedFloat (negative : Bool) (bits : Nat) : Json :=
  .float (UInt64.ofNat (if negative then double.signBit + bits else bits))

/-- The digits at the front and what follows them. -/
def digits (cs : List Char) : List Char × List Char :=
  (cs.takeWhile Char.isDigit, cs.dropWhile Char.isDigit)

/-- The fraction at the front: `some []` when there is none, `none` when it has no digits. -/
def fraction? (cs : List Char) : Option (List Char × List Char) :=
  match cs with
  | '.' :: rest => if (digits rest).1.isEmpty then none else some (digits rest)
  | _ => some ([], cs)

/-- The exponent at the front: whether there is one, its value, and what follows it. -/
def exponent? (cs : List Char) : Option (Bool × Int × List Char) :=
  let read (negative : Bool) (cs : List Char) : Option (Bool × Int × List Char) :=
    let (ds, rest) := digits cs
    if ds.isEmpty then none
    else some (true, if negative then -(natOfDigits 10 ds : Int) else natOfDigits 10 ds, rest)
  match cs with
  | c :: rest =>
    if c = 'e' || c = 'E' then
      match rest with
      | '-' :: rest => read true rest
      | '+' :: rest => read false rest
      | _ => read false rest
    else some (false, 0, cs)
  | [] => some (false, 0, cs)

/-- The number at the front, after its minus sign if it has one. -/
def number? (negative : Bool) (cs : List Char) : Option (Json × List Char) := do
  let (whole, rest) := digits cs
  if whole.isEmpty || (whole.length > 1 && whole.head? = some '0') then failure
  let (significand, surplus) := gather 0 whole
  let (places, rest) ← fraction? rest
  let (hasExponent, power, rest) ← exponent? rest
  if places.isEmpty && !hasExponent && surplus.isEmpty then
    if !negative then return (.int significand, rest)
    else if 0 < significand ∧ significand ≤ greatestNegated then
      return (.int (-significand), rest)
    else return (signedFloat true (double.round significand 1), rest)
  let (significand, ignored) := gather significand places
  let taken := places.length - ignored.length
  let bits ← scale? significand (power + surplus.length - taken)
  return (signedFloat negative bits, rest)

/-! ## Strings -/

/-- Four digits in base sixteen at the front. -/
def unit? : List Char → Option (Nat × List Char)
  | a :: b :: c :: d :: rest => do
    let n := (← digitValue? 16 a) * 4096 + (← digitValue? 16 b) * 256 + (← digitValue? 16 c) * 16
    return (n + (← digitValue? 16 d), rest)
  | _ => none

/-- The character of a `\u` escape, after the `u`: one unit, or a pair of surrogates. -/
def escapedUnit? (cs : List Char) : Option (Char × List Char) := do
  let (unit, rest) ← unit? cs
  if 0xDC00 ≤ unit ∧ unit ≤ 0xDFFF then failure
  else if 0xD800 ≤ unit ∧ unit ≤ 0xDBFF then
    match rest with
    | '\\' :: 'u' :: rest =>
      let (second, rest) ← unit? rest
      if 0xDC00 ≤ second ∧ second ≤ 0xDFFF then
        return (Char.ofNat (0x10000 + (unit - 0xD800) * 0x400 + (second - 0xDC00)), rest)
      else failure
    | _ => failure
  else return (Char.ofNat unit, rest)

/-- The characters of a string after its opening quote, and what follows the closing one. -/
def string? : (fuel : Nat) → List Char → Option (List Char × List Char)
  | 0, _ => none
  | _, [] => none
  | _ + 1, '"' :: rest => some ([], rest)
  | fuel + 1, '\\' :: c :: rest => do
    let (char, rest) ←
      match c with
      | '"' => some ('"', rest)
      | '\\' => some ('\\', rest)
      | '/' => some ('/', rest)
      | 'b' => some ('\x08', rest)
      | 'f' => some ('\x0c', rest)
      | 'n' => some ('\n', rest)
      | 'r' => some ('\r', rest)
      | 't' => some ('\t', rest)
      | 'u' => escapedUnit? rest
      | _ => none
    let (chars, rest) ← string? fuel rest
    return (char :: chars, rest)
  | fuel + 1, c :: rest => do
    if c.toNat < 32 || c = '\\' then failure
    let (chars, rest) ← string? fuel rest
    return (c :: chars, rest)

/-- The string at the front. -/
def text? (fuel : Nat) : List Char → Option (String × List Char)
  | '"' :: rest => (string? fuel rest).map fun (chars, rest) => (String.ofList chars, rest)
  | _ => none

/-! ## Values -/

/-- How deep arrays and objects may be nested. -/
def maxDepth : Nat := 127

/-- Drops a keyword from the front. -/
def keyword? (word : String) (cs : List Char) : Option (List Char) :=
  if word.toList.isPrefixOf cs then some (cs.drop word.length) else none

mutual

/-- The value at the front, which begins without blanks. -/
def value? : (fuel depth : Nat) → List Char → Option (Json × List Char)
  | 0, _, _ => none
  | fuel + 1, depth, cs =>
    match cs with
    | '[' :: rest =>
      match depth, skipBlanks rest with
      | 0, _ => none
      | _, ']' :: rest => some (.array [], rest)
      | depth + 1, rest => (items? fuel depth rest).map fun (items, rest) => (.array items, rest)
    | '\x7b' :: rest =>
      match depth, skipBlanks rest with
      | 0, _ => none
      | _, '\x7d' :: rest => some (.object [], rest)
      | depth + 1, rest =>
        (fields? fuel depth rest).map fun (fields, rest) => (ofFields fields, rest)
    | '"' :: rest => do
      let (chars, rest) ← string? fuel rest
      return (.string (String.ofList chars), rest)
    | '-' :: rest => number? true rest
    | 'n' :: _ => (keyword? "null" cs).map (.null, ·)
    | 't' :: _ => (keyword? "true" cs).map (.bool true, ·)
    | 'f' :: _ => (keyword? "false" cs).map (.bool false, ·)
    | _ => number? false cs

/-- The items of an array that is not empty, and what follows its bracket. -/
def items? : (fuel depth : Nat) → List Char → Option (List Json × List Char)
  | 0, _, _ => none
  | fuel + 1, depth, cs => do
    let (item, rest) ← value? fuel depth cs
    match skipBlanks rest with
    | ']' :: rest => return ([item], rest)
    | ',' :: rest =>
      let (items, rest) ← items? fuel depth (skipBlanks rest)
      return (item :: items, rest)
    | _ => failure

/-- The fields of an object that is not empty, and what follows its brace. -/
def fields? : (fuel depth : Nat) → List Char → Option (List (String × Json) × List Char)
  | 0, _, _ => none
  | fuel + 1, depth, cs => do
    let (key, rest) ← text? fuel cs
    match skipBlanks rest with
    | ':' :: rest =>
      let (value, rest) ← value? fuel depth (skipBlanks rest)
      match skipBlanks rest with
      | '\x7d' :: rest => return ([(key, value)], rest)
      | ',' :: rest =>
        let (fields, rest) ← fields? fuel depth (skipBlanks rest)
        return ((key, value) :: fields, rest)
      | _ => failure
    | _ => failure

end

/-- The value that a text spells, if it spells exactly one. -/
def parse? (s : String) : Option Json := do
  let (value, rest) ← value? (2 * s.length + 2) maxDepth (skipBlanks s.toList)
  if (skipBlanks rest).isEmpty then return value else failure

end TableSql.Json
