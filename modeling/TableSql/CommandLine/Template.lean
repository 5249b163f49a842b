import TableSql.CommandLine.Help

/-!
# A configuration to begin with

A small project with comments that name all that can be configured.
-/

namespace TableSql.CommandLine

/-- The lines of the template. -/
def templateLines : List String :=
  ["version = \"1\"",
   "",
   "# Output directory for <table>.sql files, relative to this file.",
   "out = \"sql\"",
   "",
   "[compile]",
   "placeholder = \"numbered\"        # numbered ($1, $2) | positional (?)",
   "insert_conflict = \"do_nothing\"  # do_nothing | fail",
   "",
   "[types]",
   "# Custom type names, or replacements for built-in mappings.",
   "\"uuid\" = \"UUID\"",
   "# \"datetime\" = \"TIMESTAMPTZ\"",
   "",
   "[[tables]]",
   "name = \"users\"",
   "primary_keys = 1",
   "",
   "[[tables.columns]]",
   "name = \"id\"",
   "type = \"i64\"",
   "",
   "[[tables.columns]]",
   "name = \"email\"",
   "type = \"text\"",
   "unique = true",
   "",
   "[[tables.columns]]",
   "name = \"external_id\"",
   "type = \"uuid\"",
   "nullable = true",
   "",
   "# Column types: bool, i8, i16, i32, i64, u8, u16, u32, u64, f32, f64,",
   "# text, char, bytes, datetime, enum:<width> (e.g. enum:u8), or any name",
   "# listed under [types].",
   "#",
   "# Per-column options:",
   "#   nullable = true",
   "#   unique = true",
   "#   unique_group = 1                          # shared id -> UNIQUE(a, b)",
   "#   check = \"> 0\"                             # CHECK(\"col\" > 0)",
   "#   references = \x7b table = \"orgs\", column = \"id\" \x7d",
   "#",
   "# Raw table constraints:",
   "#   sql = [\"CONSTRAINT email_lower CHECK (email = lower(email))\"]"]

/-- The text of the template. -/
def template : String := ofLines templateLines

end TableSql.CommandLine
