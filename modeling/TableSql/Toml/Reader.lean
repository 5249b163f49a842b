import TableSql.Toml.Quoted
import TableSql.Toml.Scalar
import TableSql.Toml.Section

/-!
# Reading TOML

`Toml.parse?` reads a document. Its readers take the characters that are left and return what they
read with the rest. Where one has a first argument `fuel`, that bounds the number of nested and
repeated calls; the length of the document is always enough.

* line breaks and comments may stand anywhere between the brackets of an array or an inline table,
  and a comma may follow the last item;
* brackets are nested to a depth of at most `maxDepth`.
-/

namespace TableSql.Toml

/-! ## Between values -/

/-- Drops blanks. -/
def skipBlanks (cs : List Char) : List Char := cs.dropWhile fun c => c = ' ' || c = '\t'

/-- What follows blanks, line breaks and comments. -/
def gap? (inComment : Bool) : List Char → Option (List Char)
  | [] => some []
  | '\n' :: cs => gap? false cs
  | '\r' :: '\n' :: cs => gap? false cs
  | c :: cs =>
    if inComment then if isControl c then none else gap? true cs
    else if c = ' ' || c = '\t' then gap? false cs
    else if c = '#' then gap? true cs
    else some (c :: cs)

/-- What follows a line that holds at most blanks and a comment. -/
def lineEnd? (inComment : Bool) : List Char → Option (List Char)
  | [] => some []
  | '\n' :: cs => some cs
  | '\r' :: '\n' :: cs => some cs
  | c :: cs =>
    if inComment then if isControl c then none else lineEnd? true cs
    else if c = ' ' || c = '\t' then lineEnd? false cs
    else if c = '#' then lineEnd? true cs
    else none

/-! ## Keys -/

/-- Whether a character may stand in a key without quotes. -/
def isBare (c : Char) : Bool := c.isAlphanum || c = '_' || c = '-'

/-- A key with or without quotes. -/
def key? (cs : List Char) : Option (String × List Char) :=
  match quotedLine? cs with
  | some (text, cs) => some (String.ofList text, cs)
  | none =>
    let (text, cs) := cs.span isBare
    if text.isEmpty then none else some (String.ofList text, cs)

/-- A dotted key and the blanks after it. -/
def keyPath? : (fuel : Nat) → List Char → Option (KeyPath × List Char)
  | 0, _ => none
  | fuel + 1, cs => do
    let (key, cs) ← key? (skipBlanks cs)
    match skipBlanks cs with
    | '.' :: cs =>
      let (path, cs) ← keyPath? fuel cs
      return (⟨key :: path.parents, path.key⟩, cs)
    | cs => return (⟨[], key⟩, cs)

/-! ## Values -/

/-- How deep brackets may be nested. -/
def maxDepth : Nat := 80

/-- Whether a character may stand in a value without quotes. -/
def isScalar (c : Char) : Bool := c.isAlphanum || c ∈ ['_', '-', '+', '.', ':']

/-- The text of a value without quotes. One blank may stand between a date and its time. -/
def scalarText (cs : List Char) : List Char × List Char :=
  let (text, rest) := cs.span isScalar
  match date? text, rest with
  | some [], ' ' :: c :: cs =>
    if c.isDigit then
      let (clock, rest) := (c :: cs).span isScalar
      (text ++ ' ' :: clock, rest)
    else (text, rest)
  | _, _ => (text, rest)

mutual

/-- The value at the front. -/
def value? : (fuel depth : Nat) → List Char → Option (Toml × List Char)
  | 0, _, _ => none
  | fuel + 1, depth, cs =>
    match cs with
    | '"' :: _ | '\'' :: _ =>
      (quoted? cs).map fun (text, cs) => (.string (String.ofList text), cs)
    | '[' :: cs =>
      match depth with
      | 0 => none
      | depth + 1 => (items? fuel depth cs).map fun (items, cs) => (.array items, cs)
    | '\x7b' :: cs =>
      match depth with
      | 0 => none
      | depth + 1 => do
        let (pairs, cs) ← pairs? fuel depth cs
        return (← ofPairs? pairs, cs)
    | _ => do
      let (text, cs) := scalarText cs
      return (← scalar? text, cs)
termination_by structural fuel => fuel

/-- The items of an array, and what follows its bracket. -/
def items? : (fuel depth : Nat) → List Char → Option (List Toml × List Char)
  | 0, _, _ => none
  | fuel + 1, depth, cs => do
    match ← gap? false cs with
    | ']' :: cs => return ([], cs)
    | cs =>
      let (item, cs) ← value? fuel depth cs
      match ← gap? false cs with
      | ']' :: cs => return ([item], cs)
      | ',' :: cs =>
        let (items, cs) ← items? fuel depth cs
        return (item :: items, cs)
      | _ => failure
termination_by structural fuel => fuel

/-- The pairs of an inline table, and what follows its brace. -/
def pairs? : (fuel depth : Nat) → List Char → Option (List (KeyPath × Toml) × List Char)
  | 0, _, _ => none
  | fuel + 1, depth, cs => do
    match ← gap? false cs with
    | '\x7d' :: cs => return ([], cs)
    | cs =>
      let (pair, cs) ← pair? fuel depth cs
      match ← gap? false cs with
      | '\x7d' :: cs => return ([pair], cs)
      | ',' :: cs =>
        let (pairs, cs) ← pairs? fuel depth cs
        return (pair :: pairs, cs)
      | _ => failure
termination_by structural fuel => fuel

/-- A key with its value. -/
def pair? : (fuel depth : Nat) → List Char → Option ((KeyPath × Toml) × List Char)
  | 0, _, _ => none
  | fuel + 1, depth, cs => do
    match ← keyPath? fuel cs with
    | (path, '=' :: cs) =>
      let (v, cs) ← value? fuel depth (skipBlanks cs)
      return ((path, v), cs)
    | _ => failure
termination_by structural fuel => fuel

end

/-! ## Documents -/

/-- A header, after its first bracket. -/
def header? (fuel : Nat) (cs : List Char) : Option (Header × List Char) :=
  match cs with
  | '[' :: cs => do
    match ← keyPath? fuel cs with
    | (path, ']' :: ']' :: cs) => return (.element path, cs)
    | _ => failure
  | cs => do
    match ← keyPath? fuel cs with
    | (path, ']' :: cs) => return (.table path, cs)
    | _ => failure

/-- The section that is under way, with the sections after it. -/
def sections? : (fuel : Nat) → Section → List Char → Option (List Section)
  | 0, _, _ => none
  | fuel + 1, current, cs =>
    match skipBlanks cs with
    | [] => some [current]
    | '[' :: cs => do
      let (header, cs) ← header? fuel cs
      return current :: (← sections? fuel ⟨header, []⟩ (← lineEnd? false cs))
    | c :: cs =>
      if c = '\n' || c = '\r' || c = '#' then do
        sections? fuel current (← lineEnd? false (c :: cs))
      else do
        let (pair, cs) ← pair? fuel maxDepth (c :: cs)
        sections? fuel { current with pairs := current.pairs ++ [pair] } (← lineEnd? false cs)

/-- Drops the mark that a text may begin with to show its encoding. -/
def dropMark : List Char → List Char
  | '\ufeff' :: cs => cs
  | cs => cs

/-- The table that a document spells. -/
def parse? (text : String) : Option Toml := do
  let cs := dropMark text.toList
  ofSections? (← sections? (3 * cs.length + 3) ⟨.root, []⟩ cs)

end TableSql.Toml
