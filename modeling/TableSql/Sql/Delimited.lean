import TableSql.Sql.Quoted

/-!
# Reading between quotes

Quoted names and texts by themselves, apart from the rest of SQL. The readers go by the quotes
alone, so every text can stand between them, the empty one and one with a NUL among them:

* two quotes in a row stand for one; a quote before another character or at the end closes;
* in a list a comma and a blank stand between two names, and nothing behind the last.
-/

namespace TableSql.Sql

/-- Reads on between quotes, of which `seen` was read so far: all that stands there, and what
follows the quote that closes. -/
def undouble? (quote : Char) (seen : List Char) : List Char → Option (String × List Char)
  | [] => none
  | c :: cs =>
    if c = quote then
      match cs with
      | [] => some (String.ofList seen, [])
      | d :: ds =>
        if d = quote then undouble? quote (seen ++ [quote]) ds
        else some (String.ofList seen, d :: ds)
    else undouble? quote (seen ++ [c]) cs

/-- The quoted token in front: what it stands for, and what follows it. -/
def delimited? (quote : Char) : List Char → Option (String × List Char)
  | [] => none
  | c :: cs => if c = quote then undouble? quote [] cs else none

theorem length_lt_of_undouble? {quote : Char} {seen cs rest : List Char} {s : String}
    (read : undouble? quote seen cs = some (s, rest)) : rest.length < cs.length := by
  fun_induction undouble? quote seen cs with
  | case1 => cases read
  | case2 => cases read; simp
  | case3 seen ds ih => exact Nat.lt_succ_of_lt (Nat.lt_succ_of_lt (ih read))
  | case4 => cases read; simp
  | case5 seen c ds _ ih => exact Nat.lt_succ_of_lt (ih read)

theorem length_lt_of_delimited? {quote : Char} {cs rest : List Char} {s : String}
    (read : delimited? quote cs = some (s, rest)) : rest.length < cs.length := by
  cases cs with
  | nil => cases read
  | cons c cs =>
    obtain ⟨_, inside⟩ := Option.ite_none_right_eq_some.mp read
    exact Nat.lt_succ_of_lt (length_lt_of_undouble? inside)

/-- One quoted name or more, up to the end. -/
def namesFrom? (cs : List Char) : Option (List String) :=
  match _read : delimited? '"' cs with
  | some (name, []) => some [name]
  | some (name, ',' :: ' ' :: others) => (namesFrom? others).map (name :: ·)
  | _ => none
termination_by cs.length
decreasing_by
  have shorter := length_lt_of_delimited? ‹delimited? '"' cs = _›
  simp only [List.length_cons] at shorter
  omega

/-- The names of a list of quoted names. -/
def quotedNames? (sql : String) : Option (List String) :=
  if sql = "" then some [] else namesFrom? sql.toList

end TableSql.Sql
