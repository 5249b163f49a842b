import Mathlib.Data.List.Induction
import TableSql.Proofs.Schema.Built
import TableSql.Proofs.Statement.Resolution

/-!
# Allocating placeholders

While a statement is written, each place for a column gets its number at once, and the list that
the number refers to still grows. `push` asks for a place with a new parameter, `reuse` for one that
may repeat the number of a parameter that the column has. `placeholder_allocated` says that after
any mix of the two, with any text between, each number is that of the column it was asked for, and
stays so whatever is written later.

* `write_placed`: all that writing a place can do, as the two cases of `Placed`;
* `mem_params_run`: the parameters are those of the columns asked for so far. So one with the
  position of a column is the parameter of that column, and the search by position finds it.
-/

namespace TableSql

/-- The column at a position as a parameter. -/
def Schema.param (s : Schema) (column : Fin s.columns.length) : Param :=
  ⟨column, s.columns[column].name, s.columns[column].type, s.columns[column].nullable⟩

/-- These are the parameters that statements for the table are compiled from. -/
theorem Schema.params_eq_map_param (s : Schema) :
    s.params = (List.finRange s.columns.length).map s.param := by
  refine List.ext_getElem (by simp) ?_
  intro i _ _
  simp [params, param]

namespace Writer

open Template

/-- How a place for a column is asked for: with a new parameter, or with one that may be there. -/
inductive Ask where
  | push
  | reuse
deriving DecidableEq, Repr

/-- What is written next: any text, or a place for a column of the table. -/
inductive Call (s : Schema) where
  | text (sql : String)
  | place (ask : Ask) (column : Fin s.columns.length)

variable {s : Schema}

namespace Call

/-- The piece of a statement that a call writes. -/
def piece : Call s → Piece
  | .text sql => .text sql
  | .place .push column => .bind (s.param column)
  | .place .reuse column => .again (s.param column)

/-- The column that a call asks a place for. -/
def column? : Call s → Option (Fin s.columns.length)
  | .text _ => none
  | .place _ column => some column

end Call

/-- The columns that places were asked for, in this order. -/
def asked (calls : List (Call s)) : List (Fin s.columns.length) := calls.filterMap Call.column?

/-- What calls have written at the end of some text, and the parameters that they have taken. -/
def run (style : PlaceholderStyle) (out : String) (calls : List (Call s)) : Statement :=
  (calls.map Call.piece).foldl (write style) ⟨out, []⟩

/-! ## One place -/

/-- What writing a place for a parameter makes of a statement: the number of the parameter is
repeated, which takes numbered placeholders and `reuse`, or it is taken once more. -/
inductive Placed (style : PlaceholderStyle) (ask : Ask) (p : Param) (st : Statement) :
    Statement → Prop
  | repeated {i : Nat} (numbered : style = .numbered) (reuse : ask = .reuse)
      (found : st.params[i]? = some p) :
      Placed style ask p st ⟨st.sql ++ placeholder style (i + 1), st.params⟩
  | fresh (free : style = .numbered → ask = .reuse → p ∉ st.params) :
      Placed style ask p st
        ⟨st.sql ++ placeholder style (st.params.length + 1), st.params ++ [p]⟩

/-- No number can be repeated for a column without a parameter. -/
theorem not_mem_of_boundNumber?_none {params : List Param} {p : Param}
    (unbound : boundNumber? .numbered params p = none) : p ∉ params := by
  rw [boundNumber?, Option.map_eq_none_iff, List.findIdx?_eq_none_iff] at unbound
  intro member
  simpa using unbound p member

/-- These are all the ways that a place can be written, if the parameters so far are those of
columns. -/
theorem write_placed (style : PlaceholderStyle) (ask : Ask) (column : Fin s.columns.length)
    {st : Statement} (known : ∀ p ∈ st.params, ∃ other, s.param other = p) :
    Placed style ask (s.param column) st (write style st (Call.place ask column).piece) := by
  cases ask with
  | push => exact .fresh nofun
  | reuse =>
    cases bound : boundNumber? style st.params (s.param column) with
    | none =>
      have written : write style st (.again (s.param column)) =
          writeBind style st (s.param column) := by rw [write, bound]
      rw [Call.piece, written]
      refine .fresh ?_
      rintro rfl -
      exact not_mem_of_boundNumber?_none bound
    | some number =>
      obtain ⟨rfl, i, q, rfl, found, sameIndex⟩ := index_of_boundNumber? bound
      have written : write .numbered st (.again (s.param column)) =
          ⟨st.sql ++ placeholder .numbered (i + 1), st.params⟩ := by rw [write, bound]
      -- The search compares positions only, but each position has one parameter.
      obtain ⟨other, rfl⟩ := known q (List.mem_of_getElem? found)
      obtain rfl : other = column := Fin.ext sameIndex
      rw [Call.piece, written]
      exact .repeated rfl rfl found

namespace Placed

variable {style : PlaceholderStyle} {ask : Ask} {p : Param} {st next : Statement}

/-- One placeholder is written, of a number that the parameter has. -/
theorem exists_number (placed : Placed style ask p st next) :
    ∃ number, next.sql = st.sql ++ placeholder style number ∧
      1 ≤ number ∧ number ≤ next.params.length ∧ next.params[number - 1]? = some p ∧
      (style = .positional → number = st.params.length + 1) := by
  cases placed with
  | @repeated i numbered reuse found =>
    obtain ⟨below, -⟩ := List.getElem?_eq_some_iff.mp found
    refine ⟨i + 1, rfl, by omega, below, found, ?_⟩
    rintro rfl
    contradiction
  | fresh => exact ⟨st.params.length + 1, rfl, by omega, by simp, by simp, fun _ => rfl⟩

/-- A place takes no parameter exactly if it repeats one. -/
theorem params_eq_iff (placed : Placed style ask p st next) :
    next.params = st.params ↔ style = .numbered ∧ ask = .reuse ∧ p ∈ st.params := by
  cases placed with
  | repeated numbered reuse found =>
    exact iff_of_true rfl ⟨numbered, reuse, List.mem_of_getElem? found⟩
  | fresh free =>
    refine iff_of_false (by simp) ?_
    rintro ⟨numbered, reuse, member⟩
    exact free numbered reuse member

theorem params_cases (placed : Placed style ask p st next) :
    next.params = st.params ∨ next.params = st.params ++ [p] := by
  cases placed with
  | repeated => exact .inl rfl
  | fresh => exact .inr rfl

/-- A place leaves its parameter in the list, and every other as it was. -/
theorem mem_params (placed : Placed style ask p st next) {q : Param} :
    q ∈ next.params ↔ q ∈ st.params ∨ q = p := by
  cases placed with
  | repeated numbered reuse found =>
    refine ⟨.inl, ?_⟩
    rintro (member | rfl)
    · exact member
    · exact List.mem_of_getElem? found
  | fresh => simp

end Placed

/-! ## Runs -/

section

variable (style : PlaceholderStyle) (out : String) (calls : List (Call s))

theorem run_append (more : List (Call s)) :
    run style out (calls ++ more) =
      (more.map Call.piece).foldl (write style) (run style out calls) := by
  rw [run, List.map_append, List.foldl_append, run]

theorem run_concat (call : Call s) :
    run style out (calls ++ [call]) = write style (run style out calls) call.piece :=
  run_append style out calls [call]

theorem asked_concat_text (sql : String) : asked (calls ++ [.text sql]) = asked calls := by
  simp [asked, Call.column?]

theorem asked_concat_place (ask : Ask) (column : Fin s.columns.length) :
    asked (calls ++ [.place ask column]) = asked calls ++ [column] := by
  simp [asked, Call.column?]

/-- Parameters are only ever added at the end. -/
theorem prefix_params_run (more : List (Call s)) :
    (run style out calls).params <+: (run style out (calls ++ more)).params := by
  rw [run_append, params_foldl_write]
  exact prefix_allParams style _ _

/-- The parameters are those of the columns that places were asked for. -/
theorem mem_params_run {p : Param} :
    p ∈ (run style out calls).params ↔ ∃ column ∈ asked calls, s.param column = p := by
  induction calls using List.reverseRecOn generalizing p with
  | nil => simp [run, asked]
  | append_singleton calls call ih =>
    rw [run_concat]
    cases call with
    | text sql =>
      rw [asked_concat_text, ← ih]
      rfl
    | place ask column =>
      -- By the hypothesis the parameters so far are of columns, as `write_placed` asks.
      have known : ∀ q ∈ (run style out calls).params, ∃ other, s.param other = q := by
        intro q member
        obtain ⟨other, -, rfl⟩ := ih.mp member
        exact ⟨other, rfl⟩
      rw [(write_placed style ask column known).mem_params, ih, asked_concat_place]
      simp [or_and_right, exists_or, eq_comm]

theorem exists_param_of_mem_run {p : Param} (member : p ∈ (run style out calls).params) :
    ∃ column, s.param column = p := by
  obtain ⟨column, -, rfl⟩ := (mem_params_run style out calls).mp member
  exact ⟨column, rfl⟩

theorem run_placed (ask : Ask) (column : Fin s.columns.length) :
    Placed style ask (s.param column) (run style out calls)
      (run style out (calls ++ [.place ask column])) := by
  rw [run_concat]
  exact write_placed style ask column fun p => exists_param_of_mem_run style out calls

/-- The parameter of a column is known by its position. -/
theorem param_mem_run_iff (column : Fin s.columns.length) :
    s.param column ∈ (run style out calls).params ↔
      ∃ p ∈ (run style out calls).params, p.index = column := by
  constructor
  · intro member
    exact ⟨_, member, rfl⟩
  · rintro ⟨p, member, sameIndex⟩
    obtain ⟨other, rfl⟩ := exists_param_of_mem_run style out calls member
    obtain rfl : other = column := Fin.ext sameIndex
    exact member

/-- Positional places each take a parameter. -/
theorem params_run_positional :
    (run .positional out calls).params = (asked calls).map s.param := by
  induction calls using List.reverseRecOn with
  | nil => rfl
  | append_singleton calls call ih =>
    cases call with
    | text sql =>
      rw [asked_concat_text, ← ih, run_concat]
      rfl
    | place ask column =>
      -- No positional place repeats a number.
      have placed := run_placed .positional out calls ask column
      have taken : (run .positional out (calls ++ [.place ask column])).params ≠
          (run .positional out calls).params := by
        intro same
        obtain ⟨numbered, -⟩ := placed.params_eq_iff.mp same
        contradiction
      rw [placed.params_cases.resolve_left taken, ih, asked_concat_place, List.map_append,
        List.map_singleton]

/-- Placeholders are allocated correctly. Calls write to the end of any text, and each that asks for
a place writes one placeholder. Its number is within the parameters taken so far, and that of the
column it was asked for; positional placeholders are numbered as they come. Parameters are only
added at the end, so the number is right for the finished statement too. A place takes at most the
parameter of its column, and none exactly where numbered placeholders are written and `reuse` asks
for a column that an earlier call has asked for, which is one that has its parameter. -/
theorem placeholder_allocated (before after : List (Call s)) (ask : Ask)
    (column : Fin s.columns.length) :
    let call := Call.place ask column
    let old := run style out before
    let new := run style out (before ++ [call])
    let final := run style out (before ++ call :: after)
    (∃ number, new.sql = old.sql ++ placeholder style number ∧
      1 ≤ number ∧ number ≤ new.params.length ∧
      new.params[number - 1]? = some (s.param column) ∧
      final.params[number - 1]? = some (s.param column) ∧
      (style = .positional → number = (asked before).length + 1)) ∧
    (new.params = old.params ∨ new.params = old.params ++ [s.param column]) ∧
    new.params <+: final.params ∧
    (new.params = old.params ↔
      style = .numbered ∧ ask = .reuse ∧ ∃ p ∈ old.params, p.index = column) ∧
    ((∃ p ∈ old.params, p.index = column) ↔ column ∈ asked before) := by
  intro call old new final
  have placed : Placed style ask (s.param column) old new :=
    run_placed style out before ask column
  have grows : new.params <+: final.params := by
    have longer := prefix_params_run style out (before ++ [call]) after
    rwa [List.append_assoc, List.singleton_append] at longer
  obtain ⟨number, written, positive, inList, denotes, inOrder⟩ := placed.exists_number
  refine ⟨⟨number, written, positive, inList, denotes, ?_, ?_⟩, placed.params_cases, grows, ?_,
    ?_⟩
  · -- The list has only grown since the number was written.
    obtain ⟨below, here⟩ := List.getElem?_eq_some_iff.mp denotes
    rw [← here]
    exact List.prefix_iff_getElem?.mp grows _ below
  · rintro rfl
    rw [inOrder rfl, params_run_positional, List.length_map]
  · rw [placed.params_eq_iff, param_mem_run_iff]
  · rw [← param_mem_run_iff, mem_params_run]
    constructor
    · rintro ⟨other, member, same⟩
      obtain rfl : other = column := Fin.ext (congrArg Param.index same)
      exact member
    · intro member
      exact ⟨column, member, rfl⟩

example :
    let first : Fin Schema.misleading.columns.length := ⟨0, by decide⟩
    let last : Fin Schema.misleading.columns.length := ⟨2, by decide⟩
    run .numbered "" [.place .push last, .text ",", .place .push first, .text ",",
        .place .reuse last] =
      ⟨"$1,$2,$1", [Schema.misleading.param last, Schema.misleading.param first]⟩ := by decide

end

end Writer

end TableSql
