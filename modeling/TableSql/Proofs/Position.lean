import Mathlib.Data.List.Nodup

/-!
# Positions

Where items are told apart by a key, a search for a key finds the one position at which it stands.
-/

namespace TableSql

variable {α κ : Type}

/-- Items whose keys are all different stand at one position if they have one key. -/
theorem position_eq_of_key_eq {key : α → κ} {xs : List α} (distinct : (xs.map key).Nodup)
    {i j : Nat} {k : κ} (first : (xs[i]?).map key = some k) (second : (xs[j]?).map key = some k) :
    i = j := by
  rw [← List.getElem?_map] at first second
  obtain ⟨below, -⟩ := List.getElem?_eq_some_iff.mp first
  exact (List.getElem?_inj below distinct).mp (first.trans second.symm)

/-- A search finds the position of an item that no other resembles. -/
theorem findIdx?_eq_some_of_unique {p : α → Bool} {xs : List α} {i : Nat} {x : α}
    (here : xs[i]? = some x) (holds : p x = true)
    (unique : ∀ j y, xs[j]? = some y → p y = true → j = i) : xs.findIdx? p = some i := by
  rw [List.findIdx?_eq_some_iff_getElem]
  obtain ⟨below, rfl⟩ := List.getElem?_eq_some_iff.mp here
  refine ⟨below, holds, fun j before found => ?_⟩
  have same := unique j _ (List.getElem?_eq_getElem (Nat.lt_trans before below)) found
  omega

/-- Where keys are all different, a search for a key finds exactly the position where it stands. -/
theorem findIdx?_key_eq_some [BEq κ] [LawfulBEq κ] {key : α → κ} {xs : List α}
    (distinct : (xs.map key).Nodup) {k : κ} {i : Nat} :
    xs.findIdx? (fun x => key x == k) = some i ↔ (xs[i]?).map key = some k := by
  constructor
  · intro found
    obtain ⟨below, holds, -⟩ := List.findIdx?_eq_some_iff_getElem.mp found
    rw [List.getElem?_eq_getElem below, Option.map_some, eq_of_beq holds]
  · intro here
    obtain ⟨x, atX, keyX⟩ := Option.map_eq_some_iff.mp here
    refine findIdx?_eq_some_of_unique atX (beq_iff_eq.mpr keyX) fun j y atY keyY => ?_
    exact position_eq_of_key_eq distinct (by rw [atY, Option.map_some, eq_of_beq keyY]) here

/-- Where keys are all different, a search for a key finds exactly the item that has it. -/
theorem find?_key_eq_some [BEq κ] [LawfulBEq κ] {key : α → κ} {xs : List α}
    (distinct : (xs.map key).Nodup) {k : κ} {x : α} :
    xs.find? (fun x => key x == k) = some x ↔ x ∈ xs ∧ key x = k := by
  constructor
  · intro found
    have holds := List.find?_some (p := fun x => key x == k) found
    exact ⟨List.mem_of_find?_eq_some found, eq_of_beq holds⟩
  · rintro ⟨member, rfl⟩
    cases found : xs.find? (fun y => key y == key x) with
    | none => exact absurd BEq.rfl (List.find?_eq_none.mp found x member)
    | some y =>
      have same := eq_of_beq (List.find?_some (p := fun y => key y == key x) found)
      rw [List.inj_on_of_nodup_map distinct (List.mem_of_find?_eq_some found) member same]

end TableSql
