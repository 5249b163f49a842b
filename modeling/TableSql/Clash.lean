import Std.Data.HashMap

/-!
# Items that share a key

`firstClash?` finds the first item of a list whose key an earlier item has, together with that
earlier item. There is none exactly when all keys are distinct.
-/

namespace TableSql

variable {α κ : Type} [BEq κ] [Hashable κ]

/-- The search behind `firstClash?`, after items that are kept by their keys. -/
def clashAfter? (key : α → κ) (seen : Std.HashMap κ α) : List α → Option (α × α)
  | [] => none
  | x :: xs =>
    match seen[key x]? with
    | some earlier => some (earlier, x)
    | none => clashAfter? key (seen.insert (key x) x) xs

/-- The first item whose key an earlier item has, after that earlier item. -/
def firstClash? (key : α → κ) (xs : List α) : Option (α × α) := clashAfter? key ∅ xs

end TableSql
