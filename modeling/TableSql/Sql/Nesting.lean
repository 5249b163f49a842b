/-!
# Nesting in SQL

How deep a place in SQL text is in parentheses, where nothing between quotes counts. The items of a
list are what stands between its commas outside of quotes and parentheses.

* `IsClosed` text closes every quote and parenthesis that it opens, and no other;
* an `IsItem` is closed text that has no comma outside, so it is one item wherever it is listed.
-/

namespace TableSql.Sql

/-- Where a place in SQL text is. -/
inductive Nesting where
  /-- Outside of quotes, in a number of parentheses. -/
  | outside (depth : Nat)
  | quoted (quote : Char) (depth : Nat)
  /-- Behind a parenthesis that closes none. -/
  | broken
deriving DecidableEq, Repr

namespace Nesting

/-- Reads one more character. A quote inside that is written twice closes and opens again. -/
def step : Nesting → Char → Nesting
  | .outside depth, c =>
    if c = '"' ∨ c = '\'' then .quoted c depth
    else if c = '(' then .outside (depth + 1)
    else if c = ')' then
      match depth with
      | 0 => .broken
      | depth + 1 => .outside depth
    else .outside depth
  | .quoted quote depth, c => if c = quote then .outside depth else .quoted quote depth
  | .broken, _ => .broken

/-- Reads characters. -/
def after (m : Nesting) (cs : List Char) : Nesting := cs.foldl step m

/-- No comma stands outside of quotes and parentheses. -/
def NoComma : Nesting → List Char → Prop
  | _, [] => True
  | m, c :: cs => ¬(c = ',' ∧ m = .outside 0) ∧ NoComma (m.step c) cs

instance decidableNoComma : (m : Nesting) → (cs : List Char) → Decidable (m.NoComma cs)
  | _, [] => isTrue trivial
  | m, c :: cs =>
    have := decidableNoComma (m.step c) cs
    inferInstanceAs (Decidable (¬(c = ',' ∧ m = .outside 0) ∧ NoComma (m.step c) cs))

/-- Cuts characters at the commas outside of quotes and parentheses. -/
def cut : Nesting → List Char → List (List Char)
  | _, [] => [[]]
  | m, c :: cs =>
    if c = ',' ∧ m = .outside 0 then [] :: cut (m.step c) cs
    else (cut (m.step c) cs).modifyHead (c :: ·)

end Nesting

/-- Every quote and parenthesis that the text opens is closed in it, and no other. -/
def IsClosed (sql : String) : Prop := (Nesting.outside 0).after sql.toList = .outside 0

instance (sql : String) : Decidable (IsClosed sql) := inferInstanceAs (Decidable (_ = _))

/-- Closed text without a comma outside of quotes and parentheses. -/
structure IsItem (sql : String) : Prop where
  closed : IsClosed sql
  single : (Nesting.outside 0).NoComma sql.toList

instance (sql : String) : Decidable (IsItem sql) :=
  decidable_of_iff (IsClosed sql ∧ (Nesting.outside 0).NoComma sql.toList)
    ⟨fun ⟨closed, single⟩ => ⟨closed, single⟩, fun item => ⟨item.closed, item.single⟩⟩

/-- What stands between the commas outside of quotes and parentheses, each part without the blanks
in front. -/
def listItems (sql : String) : List String :=
  (Nesting.cut (.outside 0) sql.toList).map fun cs => String.ofList (cs.dropWhile (· == ' '))

end TableSql.Sql
