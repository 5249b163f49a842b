/-!
# Text as bytes

Texts are UTF-8 on the wire and in files.
-/

namespace TableSql.Text.Utf8

/-- The bytes of a text. -/
def encode (s : String) : List UInt8 := s.toUTF8.data.toList

/-- The text that a list of bytes spells, if it is well formed. -/
def decode? (bs : List UInt8) : Option String := String.fromUTF8? ⟨bs.toArray⟩

end TableSql.Text.Utf8
