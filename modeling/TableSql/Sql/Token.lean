import TableSql.Sql.Quoted

/-!
# Reading SQL

SQL text as a list of tokens. The reader goes over the characters once and keeps a `Mode`, which
says what the token under way is:

* a quote ends a quoted name or text unless another one follows, which stands for the quote itself;
* letters, digits and `$` extend a word, digits a number or the number of a placeholder;
* `--` begins a comment, which goes on to the end of the line and is no token.

Text is refused where a quote is left open, where a quoted name is empty or has a NUL, and where a
character stands that can begin no token.
-/

namespace TableSql.Sql

/-- A token of SQL. -/
inductive Token where
  /-- A keyword, or a name without quotes. -/
  | word (text : String)
  /-- A name between double quotes. -/
  | name (name : String)
  /-- A text between single quotes. -/
  | text (s : String)
  | number (n : Nat)
  /-- The placeholder of the parameter with a number, counted from one. -/
  | numbered (n : Nat)
  /-- The placeholder of the next parameter. -/
  | positional
  | symbol (c : Char)
deriving DecidableEq, Repr

namespace Token

/-- The name that a quoted name stands for. -/
def name? : Token → Option String
  | .name s => some s
  | _ => none

/-- Whether a token stands for a parameter. -/
def isPlaceholder : Token → Bool
  | .numbered _ | .positional => true
  | _ => false

/-- The token with every quoted name left empty. -/
def blank : Token → Token
  | .name _ => .name ""
  | t => t

end Token

/-- What stands between quotes. -/
inductive Quoted where
  | name
  | text
deriving DecidableEq, Repr

/-- The quote around a name or a text. -/
def Quoted.quote : Quoted → Char
  | .name => '"'
  | .text => '\''

/-- What the reader has seen of the token under way. -/
inductive Mode where
  /-- No token is under way. -/
  | between
  | word (cs : List Char)
  | number (digits : List Char)
  | parameter (digits : List Char)
  /-- Between quotes. -/
  | inside (kind : Quoted) (cs : List Char)
  /-- After a quote that ends the token or is the first of two. -/
  | closing (kind : Quoted) (cs : List Char)
  | dash
  | comment
deriving DecidableEq, Repr

/-- White space between tokens. -/
def isSpace (c : Char) : Bool := c ∈ [' ', '\t', '\n', '\r', '\x0b', '\x0c']

/-- The characters that begin a word. -/
def beginsWord (c : Char) : Bool := c.isAlpha || c == '_' || 128 ≤ c.toNat

/-- The characters that extend a word. -/
def extendsWord (c : Char) : Bool := beginsWord c || c.isDigit || c == '$'

/-- The characters that are tokens by themselves. -/
def isSymbol (c : Char) : Bool :=
  c ∈ ['(', ')', ',', ';', '=', '*', '.', '<', '>', '+', ':', '[', ']']

namespace Mode

/-- The token under way with one more character, if the character belongs to it. -/
def extend? : Mode → Char → Option Mode
  | .between, _ => none
  | .word cs, c => if extendsWord c then some (.word (cs ++ [c])) else none
  | .number digits, c => if c.isDigit then some (.number (digits ++ [c])) else none
  | .parameter digits, c => if c.isDigit then some (.parameter (digits ++ [c])) else none
  | .inside kind cs, c =>
    if c = kind.quote then some (.closing kind cs)
    else if c = '\x00' then none
    else some (.inside kind (cs ++ [c]))
  | .closing kind cs, c => if c = kind.quote then some (.inside kind (cs ++ [c])) else none
  | .dash, c => if c = '-' then some .comment else none
  | .comment, c => if c = '\n' ∨ c = '\r' then some .between else some .comment

/-- The token under way if it ends here. -/
def close? : Mode → Option (List Token)
  | .between | .comment => some []
  | .word cs => some [.word (String.ofList cs)]
  | .number digits => some [.number (Nat.ofDigitChars 10 digits 0)]
  | .parameter digits =>
    if digits.isEmpty then none else some [.numbered (Nat.ofDigitChars 10 digits 0)]
  | .inside _ _ => none
  | .closing .name cs => if cs.isEmpty then none else some [.name (String.ofList cs)]
  | .closing .text cs => some [.text (String.ofList cs)]
  | .dash => some [.symbol '-']

/-- What a character begins where no token is under way. -/
def start? (c : Char) : Option (List Token × Mode) :=
  if isSpace c then some ([], .between)
  else if isSymbol c then some ([.symbol c], .between)
  else if c = '?' then some ([.positional], .between)
  else if c = '$' then some ([], .parameter [])
  else if c = '-' then some ([], .dash)
  else if c = Quoted.name.quote then some ([], .inside .name [])
  else if c = Quoted.text.quote then some ([], .inside .text [])
  else if c.isDigit then some ([], .number [c])
  else if beginsWord c then some ([], .word [c])
  else none

/-- Reads one more character. -/
def step? (m : Mode) (c : Char) : Option (List Token × Mode) :=
  match m.extend? c with
  | some longer => some ([], longer)
  | none => do
    let ended ← m.close?
    let (here, next) ← start? c
    return (ended ++ here, next)

/-- Reads characters: the tokens that ended among them and the mode after the last. -/
def run? (m : Mode) : List Char → Option (List Token × Mode)
  | [] => some ([], m)
  | c :: cs => do
    let (here, next) ← m.step? c
    let (rest, last) ← next.run? cs
    return (here ++ rest, last)

end Mode

/-- The tokens of SQL text. -/
def tokens? (sql : String) : Option (List Token) := do
  let (ended, last) ← Mode.between.run? sql.toList
  let pending ← last.close?
  return ended ++ pending

end TableSql.Sql
