import TableSql.Text.Extending
import TableSql.Text.Ignorable
import TableSql.Text.Invisible

/-!
# Escaped text in messages

Text shown inside a message is escaped, so that each character can be told from every other:

* NUL, tab, return, line feed and the backslash have a short form behind a backslash;
* a quote is escaped where the `Escapes` say so;
* a character with no visible form or shown as nothing, and one that would join the character
  before it, is written by its code point in braces.
-/

namespace TableSql.Text

/-- Which characters an escaped text escapes beyond those that it always does. -/
structure Escapes where
  /-- The quotes that are written behind a backslash. -/
  quotes : List Char
  /-- Whether characters that extend the one before are written by code point. -/
  extending : Bool

/-- The digits of a code point in base sixteen. -/
def codePoint (c : Char) : String :=
  "\\u\x7b" ++ String.ofList (Nat.toDigits 16 c.toNat) ++ "\x7d"

/-- One character of an escaped text. -/
def escapeChar (style : Escapes) (c : Char) : String :=
  if c = '\x00' then "\\0"
  else if c = '\t' then "\\t"
  else if c = '\r' then "\\r"
  else if c = '\n' then "\\n"
  else if c = '\\' then "\\\\"
  else if c ∈ style.quotes then "\\" ++ c.toString
  else if style.extending && extending.has c then codePoint c
  else if invisible.has c || ignorable.has c then codePoint c
  else c.toString

/-- A text between double quotes. -/
def quoted (s : String) : String :=
  "\"" ++ String.join (s.toList.map (escapeChar ⟨['"'], true⟩)) ++ "\""

/-- A character between single quotes. -/
def quotedChar (c : Char) : String :=
  "'" ++ escapeChar ⟨['\''], true⟩ c ++ "'"

/-- A text without quotes around it. Both quotes are escaped, and only its first character is
escaped for extending the one before. -/
def escaped (s : String) : String :=
  match s.toList with
  | [] => ""
  | c :: cs =>
    escapeChar ⟨['\'', '"'], true⟩ c ++ String.join (cs.map (escapeChar ⟨['\'', '"'], false⟩))

end TableSql.Text
