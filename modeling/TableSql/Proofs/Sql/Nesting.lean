import TableSql.Sql.Nesting
import TableSql.Sql.Quoted

/-!
# Lists in SQL

Items that are put together with commas between are the items that the list is cut into
(`listItems_intercalate`). Text is taken over piece by piece with `Crosses`, which says where a
piece leads and that it has no comma outside:

* a quoted name leads back to where it began, whatever characters it has (`crosses_quoteName`);
* closed text does so too, in parentheses with any commas (`IsClosed.crosses`).
-/

namespace TableSql.Sql

namespace Nesting

variable {m n last : Nesting} {cs ds : List Char}

theorem after_cons (m : Nesting) (c : Char) (cs : List Char) :
    m.after (c :: cs) = (m.step c).after cs := rfl

theorem after_append (m : Nesting) (cs ds : List Char) :
    m.after (cs ++ ds) = (m.after cs).after ds := List.foldl_append

theorem noComma_append :
    m.NoComma (cs ++ ds) ↔ m.NoComma cs ∧ (m.after cs).NoComma ds := by
  induction cs generalizing m with
  | nil => simp [NoComma, after]
  | cons c cs ih => rw [List.cons_append, NoComma, NoComma, ih, after_cons, and_assoc]

/-! ## Cutting -/

/-- Characters without a comma outside stay with what comes after them. -/
theorem cut_append (noComma : m.NoComma cs) (ds : List Char) :
    m.cut (cs ++ ds) = ((m.after cs).cut ds).modifyHead (cs ++ ·) := by
  induction cs generalizing m with
  | nil =>
    show m.cut ds = (m.cut ds).modifyHead id
    rw [List.modifyHead_id, id]
  | cons c cs ih =>
    obtain ⟨here, rest⟩ := noComma
    rw [List.cons_append, cut, if_neg here, ih rest, List.modifyHead_modifyHead, after_cons]
    rfl

theorem cut_of_noComma (noComma : m.NoComma cs) : m.cut cs = [cs] := by
  have whole := cut_append noComma []
  rw [List.append_nil] at whole
  rw [whole, cut, List.modifyHead_cons, List.append_nil]

/-! ## In parentheses -/

/-- The same place in more parentheses. -/
def deepen (depth : Nat) : Nesting → Nesting
  | .outside inner => .outside (inner + depth)
  | .quoted quote inner => .quoted quote (inner + depth)
  | .broken => .broken

/-- Outer parentheses change nothing where none of them is closed. -/
theorem step_deepen (depth : Nat) {c : Char} (unbroken : m.step c ≠ .broken) :
    (m.deepen depth).step c = (m.step c).deepen depth := by
  cases m with
  | outside inner =>
    rw [deepen]
    by_cases quote : c = '"' ∨ c = '\''
    · simp only [step, if_pos quote, deepen]
    · by_cases opening : c = '('
      · simp only [step, if_neg quote, if_pos opening, deepen, Nat.add_right_comm]
      · by_cases closing : c = ')'
        · cases inner with
          | zero => simp [step, closing] at unbroken
          | succ inner =>
            simp only [step, if_neg quote, if_neg opening, if_pos closing, deepen,
              Nat.add_right_comm]
        · simp only [step, if_neg quote, if_neg opening, if_neg closing, deepen]
  | quoted quote inner =>
    by_cases closing : c = quote
    · simp only [step, deepen, if_pos closing]
    · simp only [step, deepen, if_neg closing]
  | broken => rfl

theorem after_broken (cs : List Char) : broken.after cs = .broken := by
  induction cs with
  | nil => rfl
  | cons c cs ih => exact ih

/-- In more parentheses text that is not broken leads to the same place in more parentheses, and
none of its commas is outside. -/
theorem deepen_of_after_ne_broken (depth : Nat) (unbroken : m.after cs ≠ .broken) :
    (m.deepen depth).after cs = (m.after cs).deepen depth ∧
      (0 < depth → (m.deepen depth).NoComma cs) := by
  induction cs generalizing m with
  | nil => exact ⟨rfl, fun _ => trivial⟩
  | cons c cs ih =>
    rw [after_cons] at unbroken ⊢
    -- What is broken stays so: as the end is not, this step is not.
    have unbrokenStep : m.step c ≠ .broken := by
      intro isBroken
      rw [isBroken, after_broken] at unbroken
      exact unbroken rfl
    have here := step_deepen depth unbrokenStep
    obtain ⟨rest, restNoComma⟩ := ih unbroken
    rw [after_cons, here]
    refine ⟨rest, ?_⟩
    intro deeper
    constructor
    · rintro ⟨-, outermost⟩
      cases m with
      | outside inner =>
        have noDepth : inner + depth = 0 := Nesting.outside.inj outermost
        omega
      | quoted _ _ => cases outermost
      | broken => cases outermost
    · rw [here]
      exact restNoComma deeper

/-! ## Pieces of a text -/

/-- The text leads from one place to another without a comma outside. -/
structure Crosses (m : Nesting) (sql : String) (last : Nesting) : Prop where
  after_eq : m.after sql.toList = last
  noComma : m.NoComma sql.toList

instance (m : Nesting) (sql : String) (last : Nesting) : Decidable (m.Crosses sql last) :=
  decidable_of_iff (m.after sql.toList = last ∧ m.NoComma sql.toList)
    ⟨fun ⟨after_eq, noComma⟩ => ⟨after_eq, noComma⟩, fun crosses => ⟨crosses.1, crosses.2⟩⟩

theorem Crosses.append {first second : String} (one : m.Crosses first n)
    (two : n.Crosses second last) : m.Crosses (first ++ second) last where
  after_eq := by rw [String.toList_append, after_append, one.after_eq, two.after_eq]
  noComma := by
    rw [String.toList_append, noComma_append, one.after_eq]
    exact ⟨one.noComma, two.noComma⟩

/-- Between quotes a doubled quote leads out and back in, so every character is passed over. -/
theorem crosses_doubled (depth : Nat) (cs : List Char) :
    (quoted '"' depth).after (doubled '"' cs ++ ['"']) = .outside depth ∧
      (quoted '"' depth).NoComma (doubled '"' cs ++ ['"']) := by
  induction cs with
  | nil => simp [doubled, after, NoComma, step]
  | cons c cs ih =>
    -- A quote leads out and its double back in; any other character stays between the quotes.
    have head : (quoted '"' depth).after (if c = '"' then ['"', '"'] else [c]) = .quoted '"' depth ∧
        (quoted '"' depth).NoComma (if c = '"' then ['"', '"'] else [c]) := by
      by_cases isQuote : c = '"'
      · simp [isQuote, after, NoComma, step]
      · simp [isQuote, after, NoComma, step]
    rw [doubled_cons, List.append_assoc, after_append, noComma_append, head.1]
    exact ⟨ih.1, head.2, ih.2⟩

/-- A quoted name leads back to where it began, whatever characters it has. -/
theorem crosses_quoteName (depth : Nat) (name : String) :
    (outside depth).Crosses (quoteName name) (.outside depth) := by
  have characters : (quoteName name).toList = ['"'] ++ (doubled '"' name.toList ++ ['"']) :=
    toList_delimited '"' name
  have opening : (outside depth).after ['"'] = .quoted '"' depth := by simp [after, step]
  have noComma : (outside depth).NoComma ['"'] := by simp [NoComma]
  obtain ⟨leads, passes⟩ := crosses_doubled depth name.toList
  constructor
  · rw [characters, after_append, opening, leads]
  · rw [characters, noComma_append, opening]
    exact ⟨noComma, passes⟩

end Nesting

open Nesting

/-! ## Closed text -/

/-- In parentheses closed text leads back to where it began, with any commas. -/
theorem IsClosed.crosses {sql : String} (closed : IsClosed sql) (depth : Nat) :
    (outside (depth + 1)).Crosses sql (.outside (depth + 1)) := by
  have back : (outside 0).after sql.toList = .outside 0 := closed
  have unbroken : (outside 0).after sql.toList ≠ .broken := by
    rw [back]
    simp
  obtain ⟨leads, noComma⟩ := deepen_of_after_ne_broken (depth + 1) unbroken
  rw [back] at leads
  simp only [deepen, Nat.zero_add] at leads noComma
  exact ⟨leads, noComma (Nat.succ_pos depth)⟩

theorem isItem_iff_crosses {sql : String} :
    IsItem sql ↔ (outside 0).Crosses sql (.outside 0) :=
  ⟨fun item => ⟨item.closed, item.single⟩, fun crosses => ⟨crosses.after_eq, crosses.noComma⟩⟩

theorem IsClosed.append {first second : String} (one : IsClosed first) (two : IsClosed second) :
    IsClosed (first ++ second) := by
  rw [IsClosed, String.toList_append, after_append, one, two]

/-- Closed texts are closed together if what is between them is. -/
theorem isClosed_intercalate {separator : String} (between : IsClosed separator)
    {parts : List String} (each : ∀ part ∈ parts, IsClosed part) :
    IsClosed (separator.intercalate parts) := by
  induction parts with
  | nil => rfl
  | cons part parts ih =>
    obtain ⟨here, others⟩ := List.forall_mem_cons.mp each
    cases parts with
    | nil => simpa using here
    | cons next parts =>
      rw [String.intercalate_cons_cons]
      exact (here.append between).append (ih others)

/-! ## Lists -/

/-- A list is cut at the commas between its items. All items but the first still have the space that
follows the comma. -/
theorem cut_intercalate {part : String} {parts : List String} (isItem : IsItem part)
    (each : ∀ other ∈ parts, IsItem other) :
    (outside 0).cut (", ".intercalate (part :: parts)).toList =
      part.toList :: parts.map (' ' :: ·.toList) := by
  induction parts generalizing part with
  | nil =>
    rw [String.intercalate_singleton, cut_of_noComma isItem.single]
    rfl
  | cons next parts ih =>
    obtain ⟨nextItem, others⟩ := List.forall_mem_cons.mp each
    -- The blank behind the comma begins the next part.
    have comma (cs : List Char) : (outside 0).cut ([',', ' '] ++ cs) =
        [] :: ((outside 0).cut cs).modifyHead (' ' :: ·) := by
      simp [cut, step]
    have characters : (", ".intercalate (part :: next :: parts)).toList =
        part.toList ++ ([',', ' '] ++ (", ".intercalate (next :: parts)).toList) := by
      rw [String.intercalate_cons_cons, String.toList_append, String.toList_append,
        List.append_assoc]
      rfl
    rw [characters, cut_append isItem.single, isItem.closed, comma, ih nextItem others]
    simp

theorem ofList_dropWhile_blank {sql : String} (begins : sql.toList.head? ≠ some ' ') :
    String.ofList (sql.toList.dropWhile (· == ' ')) = sql := by
  cases characters : sql.toList with
  | nil => rw [List.dropWhile_nil, ← characters, String.ofList_toList]
  | cons c cs =>
    have other : ¬(c == ' ') = true := by
      intro blank
      rw [characters, beq_iff_eq.mp blank] at begins
      exact begins rfl
    rw [List.dropWhile_cons, if_neg other, ← characters, String.ofList_toList]

/-- Items with commas between are the items of the list, unless one begins with a blank. -/
theorem listItems_intercalate {parts : List String} (nonempty : parts ≠ [])
    (each : ∀ part ∈ parts, IsItem part) (begins : ∀ part ∈ parts, part.toList.head? ≠ some ' ') :
    listItems (", ".intercalate parts) = parts := by
  obtain ⟨part, others, rfl⟩ := List.exists_cons_of_ne_nil nonempty
  obtain ⟨isItem, otherItems⟩ := List.forall_mem_cons.mp each
  obtain ⟨here, otherBegins⟩ := List.forall_mem_cons.mp begins
  rw [listItems, cut_intercalate isItem otherItems, List.map_cons, ofList_dropWhile_blank here,
    List.map_map]
  have same : others.map ((fun cs => String.ofList (cs.dropWhile (· == ' '))) ∘
      fun other : String => ' ' :: other.toList) = others.map id := by
    apply List.map_congr_left
    intro other member
    rw [Function.comp_apply, List.dropWhile_cons, if_pos (beq_self_eq_true _),
      ofList_dropWhile_blank (otherBegins other member), id]
  rw [same, List.map_id]

example :
    listItems "\"a, b\" NUMERIC(10, 2), CHECK(c = 'it''s, (')" =
      ["\"a, b\" NUMERIC(10, 2)", "CHECK(c = 'it''s, (')"] := by
  decide

end TableSql.Sql
