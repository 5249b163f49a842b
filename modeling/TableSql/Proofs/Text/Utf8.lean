import TableSql.Text.Utf8

/-!
# Text as bytes, read back

Bytes that spell a text are read as that text, whatever characters it has: what is sent over the
wire or written to a file comes back.
-/

namespace TableSql.Text.Utf8

/-- The bytes of a text spell that text. -/
theorem decode?_encode (s : String) : decode? (encode s) = some s := by
  have bytes : (⟨(encode s).toArray⟩ : ByteArray) = s.toByteArray := by simp [encode]
  rw [decode?, bytes, String.fromUTF8?, dif_pos s.isValidUTF8]
  rfl

end TableSql.Text.Utf8
