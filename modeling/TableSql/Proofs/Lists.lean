import Mathlib.Data.List.Forall2

/-!
# Lists

Facts about lists of any items, on which the theory of statements, rows and files rests.

* What is done with the items of a joined list is done with those of its parts
  (`map_intercalate`, `forall_mem_intercalate`).
* Two lists stand side by side (`List.Forall₂`) exactly if they are of one length and related at
  each position (`forall₂_iff_getElem?`).
* The numbers of a numbered list can be left out again (`map_fst_zipIdx`).
-/

namespace TableSql

variable {α β : Type}

/-! ## Lists with separators -/

section

variable {separator : List α}

/-- Parts joined and then mapped are the mapped parts joined by the mapped separator. -/
theorem map_intercalate (f : α → β) (parts : List (List α)) :
    (separator.intercalate parts).map f =
      (separator.map f).intercalate (parts.map (List.map f)) := by
  induction parts with
  | nil => rfl
  | cons part parts ih =>
    cases parts with
    | nil => simp
    | cons next parts =>
      rw [List.intercalate_cons_cons, List.map_append, List.map_append, ih]
      simp [List.intercalate_cons_cons]

/-- What the separators have nothing of comes from the parts. -/
theorem filterMap_intercalate {f : α → Option β} (nothing : separator.filterMap f = [])
    (parts : List (List α)) :
    (separator.intercalate parts).filterMap f = parts.flatMap (List.filterMap f) := by
  induction parts with
  | nil => rfl
  | cons part parts ih =>
    cases parts with
    | nil => simp
    | cons next parts =>
      rw [List.intercalate_cons_cons, List.filterMap_append, List.filterMap_append, ih, nothing]
      simp

/-- What holds of the separators and of all items of the parts holds of all items. -/
theorem forall_mem_intercalate {P : α → Prop} (between : ∀ x ∈ separator, P x)
    {parts : List (List α)} (each : ∀ part ∈ parts, ∀ x ∈ part, P x) :
    ∀ x ∈ separator.intercalate parts, P x := by
  induction parts with
  | nil => simp
  | cons part parts ih =>
    obtain ⟨here, others⟩ := List.forall_mem_cons.mp each
    cases parts with
    | nil => simpa using here
    | cons next parts =>
      rw [List.intercalate_cons_cons, List.forall_mem_append, List.forall_mem_append]
      exact ⟨⟨here, between⟩, ih others⟩

/-- Two joined lists that both have parts have one more separator between them when they are joined
as one. -/
theorem intercalate_append (between : List α) {xs ys : List (List α)} (hx : xs ≠ [])
    (hy : ys ≠ []) :
    between.intercalate (xs ++ ys) =
      between.intercalate xs ++ between ++ between.intercalate ys := by
  obtain ⟨y, ys, rfl⟩ := List.exists_cons_of_ne_nil hy
  induction xs with
  | nil => contradiction
  | cons x xs ih =>
    cases xs with
    | nil => simp
    | cons x' xs =>
      rw [List.cons_append, List.cons_append, List.intercalate_cons_cons,
        List.intercalate_cons_cons, ← List.cons_append, ih (by simp)]
      simp

end

/-! ## Lists side by side -/

/-- Each item of a list stands beside what a function makes of it. -/
theorem forall₂_map_of_forall {R : α → β → Prop} {f : α → β} {xs : List α}
    (each : ∀ x ∈ xs, R x (f x)) : List.Forall₂ R xs (xs.map f) := by
  rw [List.forall₂_map_right_iff, List.forall₂_same]
  exact each

/-- A relation between the items at the same positions of two lists of one length. -/
theorem forall₂_iff_getElem? {R : α → β → Prop} {xs : List α} {ys : List β} :
    List.Forall₂ R xs ys ↔
      xs.length = ys.length ∧ ∀ (i : Nat) x y, xs[i]? = some x → ys[i]? = some y → R x y := by
  rw [List.forall₂_iff_get]
  refine and_congr_right fun _ => ⟨fun each i x y atX atY => ?_, fun each i below below' => ?_⟩
  · obtain ⟨below, rfl⟩ := List.getElem?_eq_some_iff.mp atX
    obtain ⟨below', rfl⟩ := List.getElem?_eq_some_iff.mp atY
    exact each i below below'
  · exact each i _ _ (List.getElem?_eq_getElem below) (List.getElem?_eq_getElem below')

/-- There are items that belong to those of a list, one by one, if there is one for each. -/
theorem exists_forall₂_iff {R : α → β → Prop} {xs : List α} :
    (∃ ys, List.Forall₂ R xs ys) ↔ ∀ x ∈ xs, ∃ y, R x y := by
  induction xs with
  | nil => exact ⟨fun _ => List.forall_mem_nil _, fun _ => ⟨[], .nil⟩⟩
  | cons x xs ih =>
    rw [List.forall_mem_cons, ← ih]
    constructor
    · rintro ⟨ys, each⟩
      cases each with
      | cons here rest => exact ⟨⟨_, here⟩, _, rest⟩
    · rintro ⟨⟨y, here⟩, ys, rest⟩
      exact ⟨y :: ys, .cons here rest⟩

/-- Items that each have the image of a good one have the images of a list of good ones. -/
theorem exists_map_eq {γ : Type} {f : α → γ} {g : β → γ} {good : β → Prop} {xs : List α}
    (each : ∀ x ∈ xs, ∃ y, f x = g y ∧ good y) :
    ∃ ys : List β, xs.map f = ys.map g ∧ ∀ y ∈ ys, good y := by
  induction xs with
  | nil => exact ⟨[], rfl, by simp⟩
  | cons x xs ih =>
    obtain ⟨⟨y, same, isGood⟩, tail⟩ := List.forall_mem_cons.mp each
    obtain ⟨ys, images, allGood⟩ := ih tail
    exact ⟨y :: ys, by rw [List.map_cons, List.map_cons, same, images],
      List.forall_mem_cons.mpr ⟨isGood, allGood⟩⟩

/-! ## Numbered lists -/

/-- A list numbered and mapped without its numbers. -/
theorem map_fst_zipIdx (f : α → β) (first : Nat) (xs : List α) :
    (xs.zipIdx first).map (fun x => f x.1) = xs.map f := by
  have fst : (xs.zipIdx first).map Prod.fst = xs := List.zipIdx_map_fst first xs
  calc (xs.zipIdx first).map (fun x => f x.1)
      = ((xs.zipIdx first).map Prod.fst).map f := by rw [List.map_map]; rfl
    _ = xs.map f := by rw [fst]

/-- Entries can be taken with their positions. -/
theorem filterMap_eq_zipIdx (f : α → Option β) (xs : List α) :
    xs.filterMap f = xs.zipIdx.filterMap fun p => f p.1 := by
  have same : (fun p : α × Nat => f p.1) = f ∘ Prod.fst := rfl
  rw [same, ← List.filterMap_map, List.zipIdx_map_fst]

end TableSql
