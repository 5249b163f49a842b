import TableSql.Text.Digit

/-!
# Quoted text in TOML

A text stands between double quotes, where a backslash begins an escape, or between single quotes,
where it does not. Three quotes begin a text of several lines, whose first line break is dropped if
nothing stands before it.

The readers take the characters after the opening quotes and return the text with what follows the
closing ones. A first argument bounds the repeated calls; the length of the text is always enough.
-/

namespace TableSql.Toml

open Text (digitValue?)

/-- Whether a character may not stand in a text or a comment. -/
def isControl (c : Char) : Bool := (c.toNat < 32 && c != '\t') || c.toNat == 127

/-! ## Escapes -/

/-- The character of a code point of `width` digits at the front. -/
def codePoint? (width : Nat) (cs : List Char) : Option (Char × List Char) := do
  let ds := cs.take width
  if ds.length ≠ width then failure
  let n ← ds.foldlM (fun n c => (digitValue? 16 c).map (n * 16 + ·)) 0
  if h : n.isValidChar then return (Char.ofNatAux n h, cs.drop width) else failure

/-- The character of an escape, after its backslash. -/
def escape? : List Char → Option (Char × List Char)
  | [] => none
  | c :: cs =>
    match c with
    | 'b' => some ('\x08', cs)
    | 't' => some ('\t', cs)
    | 'n' => some ('\n', cs)
    | 'f' => some ('\x0c', cs)
    | 'r' => some ('\r', cs)
    | 'e' => some ('\x1b', cs)
    | '"' => some ('"', cs)
    | '\\' => some ('\\', cs)
    | 'x' => codePoint? 2 cs
    | 'u' => codePoint? 4 cs
    | 'U' => codePoint? 8 cs
    | _ => none

/-- What follows the blanks at the end of a line and the line's break. -/
def lineBreak? : List Char → Option (List Char)
  | '\n' :: cs => some cs
  | '\r' :: '\n' :: cs => some cs
  | ' ' :: cs | '\t' :: cs => lineBreak? cs
  | _ => none

/-- Drops blanks and line breaks. -/
def dropBreaks : List Char → List Char
  | '\r' :: '\n' :: cs => dropBreaks cs
  | c :: cs => if c = ' ' || c = '\t' || c = '\n' then dropBreaks cs else c :: cs
  | [] => []

/-! ## One line -/

/-- A text between double quotes. -/
def basic? : (fuel : Nat) → List Char → Option (List Char × List Char)
  | 0, _ => none
  | _, [] => none
  | _ + 1, '"' :: cs => some ([], cs)
  | fuel + 1, '\\' :: cs => do
    let (c, cs) ← escape? cs
    let (text, cs) ← basic? fuel cs
    return (c :: text, cs)
  | fuel + 1, c :: cs => do
    if isControl c then failure
    let (text, cs) ← basic? fuel cs
    return (c :: text, cs)

/-- A text between single quotes. -/
def literal? (cs : List Char) : Option (List Char × List Char) :=
  let (text, cs) := cs.span (· != '\'')
  match cs with
  | _ :: cs => if text.any isControl then none else some (text, cs)
  | [] => none

/-! ## Several lines -/

/-- The quotes at the front, if they end a text: three, after at most two that belong to it. -/
def closing? (quote : Char) (cs : List Char) : Option (List Char × List Char) :=
  let count := min 5 (cs.takeWhile (· == quote)).length
  if 3 ≤ count then some (List.replicate (count - 3) quote, cs.drop count) else none

/-- A text between three quotes; only between double ones does a backslash begin an escape. -/
def lines? (quote : Char) : (fuel : Nat) → List Char → Option (List Char × List Char)
  | 0, _ => none
  | _, [] => none
  | fuel + 1, c :: cs =>
    match closing? quote (c :: cs) with
    | some closed => some closed
    | none =>
      if c = '\\' && quote = '"' then
        match lineBreak? cs with
        | some cs => lines? quote fuel (dropBreaks cs)
        | none => do
          let (c, cs) ← escape? cs
          let (text, cs) ← lines? quote fuel cs
          return (c :: text, cs)
      else do
        if isControl c && c != '\n' && !(c == '\r' && cs.head? == some '\n') then failure
        let (text, cs) ← lines? quote fuel cs
        return (c :: text, cs)

/-- Drops a line break at the front. -/
def dropFirstBreak : List Char → List Char
  | '\n' :: cs => cs
  | '\r' :: '\n' :: cs => cs
  | cs => cs

/-! ## Any of them -/

/-- A text of one line with its quotes. -/
def quotedLine? (cs : List Char) : Option (List Char × List Char) :=
  match cs with
  | '"' :: rest => basic? cs.length rest
  | '\'' :: rest => literal? rest
  | _ => none

/-- A text with its quotes. -/
def quoted? (cs : List Char) : Option (List Char × List Char) :=
  match cs with
  | '"' :: '"' :: '"' :: rest => lines? '"' cs.length (dropFirstBreak rest)
  | '\'' :: '\'' :: '\'' :: rest => lines? '\'' cs.length (dropFirstBreak rest)
  | _ => quotedLine? cs

end TableSql.Toml
