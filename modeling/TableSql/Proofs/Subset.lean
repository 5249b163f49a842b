import Mathlib.Data.List.Nodup
import TableSql.Power

/-!
# Subsets by masks

A mask stands for the items of a list at the positions that are its bits (`chosen`). The masks below
`2 ^ n` stand for the sublists of a list of `n` items, each of them for another one if the items are
all different (`chosen_inj`, `exists_chosen_iff`).
-/

namespace TableSql

variable {α β : Type}

/-- The items of a list at the positions that are bits of a mask. -/
def chosen (mask : Nat) (xs : List α) : List α :=
  (xs.zipIdx.filter fun x => mask.testBit x.2).map (·.1)

theorem chosen_map (mask : Nat) (f : α → β) (xs : List α) :
    chosen mask (xs.map f) = (chosen mask xs).map f := by
  rw [chosen, chosen, List.zipIdx_map, List.filter_map, List.map_map, List.map_map]
  rfl

/-- The lowest bit is that of the first item, and the others are those of the rest. -/
theorem chosen_cons (mask : Nat) (x : α) (xs : List α) :
    chosen mask (x :: xs) =
      if mask.testBit 0 then x :: chosen (mask / 2) xs else chosen (mask / 2) xs := by
  have rest :
      ((xs.zipIdx 1).filter fun x => mask.testBit x.2).map (·.1) = chosen (mask / 2) xs := by
    rw [chosen, List.zipIdx_succ, List.filter_map, List.map_map]
    refine congrArg (List.map _) (List.filter_congr fun x _ => ?_)
    exact (Nat.testBit_add_one mask x.2)
  rw [← rest, chosen, List.zipIdx_cons, List.filter_cons]
  split <;> rfl

theorem chosen_even (mask : Nat) (x : α) (xs : List α) :
    chosen (2 * mask) (x :: xs) = chosen mask xs := by
  rw [chosen_cons, Nat.testBit_zero]
  simp

theorem chosen_odd (mask : Nat) (x : α) (xs : List α) :
    chosen (2 * mask + 1) (x :: xs) = x :: chosen mask xs := by
  have half : (2 * mask + 1) / 2 = mask := by omega
  have odd : (2 * mask + 1) % 2 = 1 := by omega
  rw [chosen_cons, Nat.testBit_zero, half]
  simp [odd]

/-- A mask of a list with a first item is twice a mask of the rest, with or without the item. -/
theorem mask_cases {n mask : Nat} (below : mask < twoTo (n + 1)) :
    ∃ rest < twoTo n, mask = 2 * rest ∨ mask = 2 * rest + 1 := by
  rw [twoTo_succ] at below
  exact ⟨mask / 2, by omega, by omega⟩

/-- A mask of one bit more is twice a mask, or one more than that. -/
theorem exists_mask_iff {n : Nat} {p : Nat → Prop} :
    (∃ mask < twoTo (n + 1), p mask) ↔ ∃ rest < twoTo n, p (2 * rest) ∨ p (2 * rest + 1) := by
  constructor
  · rintro ⟨mask, below, holds⟩
    obtain ⟨rest, restBelow, rfl | rfl⟩ := mask_cases below
    · exact ⟨rest, restBelow, .inl holds⟩
    · exact ⟨rest, restBelow, .inr holds⟩
  · rintro ⟨rest, below, holds⟩
    rw [twoTo_succ]
    rcases holds with even | odd
    · exact ⟨2 * rest, by omega, even⟩
    · exact ⟨2 * rest + 1, by omega, odd⟩

theorem chosen_sublist (mask : Nat) (xs : List α) : (chosen mask xs).Sublist xs := by
  have part : (chosen mask xs).Sublist (xs.zipIdx.map (·.1)) := List.filter_sublist.map _
  rwa [List.zipIdx_map_fst] at part

theorem chosen_zero (xs : List α) : chosen 0 xs = [] := by
  simp [chosen]

/-- All bits stand for all items. -/
theorem chosen_full (xs : List α) : chosen (twoTo xs.length - 1) xs = xs := by
  induction xs with
  | nil => rfl
  | cons x xs ih =>
    have positive := twoTo_pos xs.length
    have full : twoTo (x :: xs).length - 1 = 2 * (twoTo xs.length - 1) + 1 := by
      rw [List.length_cons, twoTo_succ]
      omega
    rw [full, chosen_odd, ih]

/-- Every sublist is that of a mask. -/
theorem exists_chosen_of_sublist {xs ys : List α} (sublist : ys.Sublist xs) :
    ∃ mask < twoTo xs.length, chosen mask xs = ys := by
  induction sublist with
  | slnil => exact ⟨0, twoTo_pos 0, rfl⟩
  | @cons ys xs x _ ih =>
    obtain ⟨mask, below, same⟩ := ih
    rw [List.length_cons, exists_mask_iff]
    exact ⟨mask, below, .inl (by rw [chosen_even, same])⟩
  | @cons_cons ys xs x _ ih =>
    obtain ⟨mask, below, same⟩ := ih
    rw [List.length_cons, exists_mask_iff]
    exact ⟨mask, below, .inr (by rw [chosen_odd, same])⟩

/-- The subsets of a list that masks stand for are its sublists. -/
theorem exists_chosen_iff {xs ys : List α} :
    (∃ mask < twoTo xs.length, chosen mask xs = ys) ↔ ys.Sublist xs := by
  constructor
  · rintro ⟨mask, -, rfl⟩
    exact chosen_sublist mask xs
  · exact exists_chosen_of_sublist

/-- Where all items are different, a sublist is that of one mask. -/
theorem chosen_inj {xs : List α} (distinct : xs.Nodup) {m n : Nat} (hm : m < twoTo xs.length)
    (hn : n < twoTo xs.length) : chosen m xs = chosen n xs ↔ m = n := by
  refine ⟨fun same => ?_, fun same => by rw [same]⟩
  induction xs generalizing m n with
  | nil =>
    change m < 1 at hm
    change n < 1 at hn
    omega
  | cons x xs ih =>
    obtain ⟨fresh, distinct⟩ := List.nodup_cons.mp distinct
    -- The first item is in a sublist of the rest neither way.
    have apart : ∀ m n, x :: chosen m xs ≠ chosen n xs := fun m n same =>
      fresh ((chosen_sublist n xs).subset (same ▸ List.mem_cons_self))
    obtain ⟨p, hp, ofM⟩ := mask_cases hm
    obtain ⟨q, hq, ofN⟩ := mask_cases hn
    rcases ofM with rfl | rfl <;> rcases ofN with rfl | rfl
    · rw [chosen_even, chosen_even] at same
      rw [ih distinct hp hq same]
    · rw [chosen_even, chosen_odd] at same
      exact absurd same.symm (apart q p)
    · rw [chosen_odd, chosen_even] at same
      exact absurd same (apart p q)
    · rw [chosen_odd, chosen_odd] at same
      rw [ih distinct hp hq (List.cons.inj same).2]

theorem chosen_eq_nil_iff {xs : List α} (distinct : xs.Nodup) {mask : Nat}
    (below : mask < twoTo xs.length) : chosen mask xs = [] ↔ mask = 0 := by
  rw [← chosen_zero xs, chosen_inj distinct below (twoTo_pos _)]

end TableSql
