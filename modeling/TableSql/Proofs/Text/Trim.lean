import Mathlib.Data.List.TakeWhile
import TableSql.Text.Blank

/-!
# Trimming

What is left of a text that is trimmed at its ends.
-/

namespace TableSql.Text

section

variable {α : Type} {p : α → Bool} {xs : List α} {x : α}

theorem dropEndWhile_eq (p : α → Bool) (xs : List α) :
    ∃ dropped, xs = dropEndWhile p xs ++ dropped ∧ ∀ x ∈ dropped, p x = true := by
  refine ⟨(xs.reverse.takeWhile p).reverse, ?_, fun x member => ?_⟩
  · rw [dropEndWhile, ← List.reverse_append, List.takeWhile_append_dropWhile, List.reverse_reverse]
  · exact List.mem_takeWhile_imp (List.mem_reverse.mp member)

theorem not_of_getLast?_dropEndWhile (last : (dropEndWhile p xs).getLast? = some x) :
    p x = false := by
  rw [dropEndWhile, List.getLast?_reverse] at last
  have stops := List.head?_dropWhile_not p xs.reverse
  rwa [last] at stops

theorem dropEndWhile_concat (xs : List α) (stays : p x = false) :
    dropEndWhile p (xs ++ [x]) = xs ++ [x] := by
  simp [dropEndWhile, stays]

theorem dropEndWhile_append {ys : List α} (dropped : ∀ y ∈ ys, p y = true) :
    dropEndWhile p (xs ++ ys) = dropEndWhile p xs := by
  unfold dropEndWhile
  rw [List.reverse_append, List.dropWhile_append_of_pos]
  exact fun y member => dropped y (List.mem_reverse.mp member)

theorem dropEndWhile_of_all (dropped : ∀ x ∈ xs, p x = true) : dropEndWhile p xs = [] := by
  rw [← List.nil_append xs, dropEndWhile_append dropped]
  rfl

theorem dropEndWhile_of_getLast? (stays : ∀ x, xs.getLast? = some x → p x = false) :
    dropEndWhile p xs = xs := by
  rcases List.eq_nil_or_concat xs with rfl | ⟨before, x, rfl⟩
  · rfl
  · rw [List.concat_eq_append] at stays ⊢
    exact dropEndWhile_concat before (stays x List.getLast?_concat)

/-- What is dropped at the end does not change the beginning of what stays. -/
theorem head?_of_dropEndWhile (head : (dropEndWhile p xs).head? = some x) : xs.head? = some x := by
  obtain ⟨dropped, split, -⟩ := dropEndWhile_eq p xs
  rw [split, List.head?_append, head]
  rfl

end

theorem toList_trimEndOf (p : Char → Bool) (s : String) :
    (trimEndOf p s).toList = dropEndWhile p s.toList := by
  rw [trimEndOf, String.toList_ofList]

theorem toList_trim (s : String) :
    (trim s).toList = dropEndWhile isBlank (s.toList.dropWhile isBlank) := by
  rw [trim, String.toList_ofList]

theorem head?_of_trimEndOf {p : Char → Bool} {s : String} {c : Char}
    (head : (trimEndOf p s).toList.head? = some c) : s.toList.head? = some c := by
  rw [toList_trimEndOf] at head
  exact head?_of_dropEndWhile head

/-- A trimmed text does not begin with a blank. -/
theorem not_isBlank_of_head?_trim {s : String} {c : Char}
    (head : (trim s).toList.head? = some c) : isBlank c = false := by
  rw [toList_trim] at head
  have stops := List.head?_dropWhile_not isBlank s.toList
  rwa [head?_of_dropEndWhile head] at stops

/-- A text neither begins nor ends with a blank. -/
structure Trimmed (s : String) : Prop where
  begins : ∀ c, s.toList.head? = some c → isBlank c = false
  ends : ∀ c, s.toList.getLast? = some c → isBlank c = false

theorem trimmed_trim (s : String) : Trimmed (trim s) where
  begins _ head := not_isBlank_of_head?_trim head
  ends c last := by
    rw [toList_trim] at last
    exact not_of_getLast?_dropEndWhile last

/-- Nothing is left of a text exactly if it is nothing but blanks. -/
theorem trim_eq_empty_iff {s : String} : trim s = "" ↔ ∀ c ∈ s.toList, isBlank c = true := by
  rw [← String.toList_inj, toList_trim, String.toList_empty]
  constructor
  · intro empty
    obtain ⟨dropped, split, blank⟩ := dropEndWhile_eq isBlank (s.toList.dropWhile isBlank)
    rw [empty, List.nil_append] at split
    rw [← List.takeWhile_append_dropWhile (p := isBlank) (l := s.toList), split,
      List.forall_mem_append]
    exact ⟨fun c member => List.mem_takeWhile_imp member, blank⟩
  · intro blank
    rw [List.dropWhile_eq_nil_iff.mpr blank]
    rfl

end TableSql.Text
