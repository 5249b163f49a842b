import TableSql.Decimal.Layout
import TableSql.Json.Printer
import TableSql.Text.Quoted
import TableSql.Value.Basic

/-!
# Values as text

The form of a value in messages and logs. Texts are quoted and escaped, bytes are only counted,
and an alternative shows its number.
-/

namespace TableSql.Value

/-- A value as text. -/
def display : Value → String
  | .null => "NULL"
  | .bool b => if b then "true" else "false"
  | .int _ n => toString n.val
  | .float32 bits => Decimal.single.plainText bits.toNat
  | .float64 bits => Decimal.double.plainText bits.toNat
  | .text s => Text.quoted s
  | .char c => Text.quotedChar c
  | .enum number => "enum(" ++ number.display ++ ")"
  | .bytes bs => "<" ++ toString bs.length ++ " bytes>"
  | .timestamp t => t.textWith " "
  | .json j => j.compact

end TableSql.Value
