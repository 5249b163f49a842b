/-!
# Quoted names and texts

In SQL a name stands between double quotes and a text between single ones; the quote inside is
written twice. So a quoted name is one token whatever characters it has.
-/

namespace TableSql.Sql

/-- The characters with every `quote` written twice. -/
def doubled (quote : Char) (cs : List Char) : List Char :=
  cs.flatMap fun c => if c = quote then [quote, quote] else [c]

theorem doubled_cons (quote c : Char) (cs : List Char) :
    doubled quote (c :: cs) =
      (if c = quote then [quote, quote] else [c]) ++ doubled quote cs := rfl

/-- A text between quotes. -/
def delimited (quote : Char) (s : String) : String :=
  String.ofList (quote :: doubled quote s.toList ++ [quote])

theorem toList_delimited (quote : Char) (s : String) :
    (delimited quote s).toList = quote :: (doubled quote s.toList ++ [quote]) :=
  String.toList_ofList

/-- A table or column name in SQL. -/
def quoteName (name : String) : String := delimited '"' name

/-- A constant text in SQL. -/
def quoteText (s : String) : String := delimited '\'' s

/-- Names in SQL, with commas between. -/
def quoteNames (names : List String) : String := String.intercalate ", " (names.map quoteName)

end TableSql.Sql
