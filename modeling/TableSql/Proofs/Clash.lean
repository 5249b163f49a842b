import TableSql.Clash
import TableSql.Proofs.Position

/-!
# Repeated keys

The search for a repeated key keeps the items that it has passed by their keys. It finds none
exactly when no key occurs twice (`firstClash?_eq_none`); what it finds otherwise is the first item
with a key of an earlier one, and that earlier item (`firstClash?_eq_some`,
`firstClash?_getElem?`).
-/

namespace TableSql

variable {α κ : Type} [BEq κ] [Hashable κ] [LawfulBEq κ] [LawfulHashable κ]

/-- The search comes to the end of the items exactly if their keys are distinct and none of them has
been passed before. It is this form, with the keys that have been passed, that the induction goes
through. -/
theorem clashAfter?_eq_none {key : α → κ} {seen : Std.HashMap κ α} {xs : List α} :
    clashAfter? key seen xs = none ↔ (xs.map key).Nodup ∧ ∀ x ∈ xs, key x ∉ seen := by
  induction xs generalizing seen with
  | nil => simp [clashAfter?]
  | cons x xs ih =>
    rw [clashAfter?, List.map_cons, List.nodup_cons, List.forall_mem_cons]
    by_cases member : key x ∈ seen
    · simp [member]
    · -- `key x` joins the seen keys, so for the tail the induction says that it is not repeated.
      rw [Std.HashMap.getElem?_eq_none member]
      simp only [ih, Std.HashMap.mem_insert, not_or, beq_iff_eq]
      constructor
      · rintro ⟨distinct, apart⟩
        refine ⟨⟨?_, distinct⟩, member, fun y inTail => (apart y inTail).2⟩
        intro repeated
        obtain ⟨y, inTail, same⟩ := List.mem_map.mp repeated
        exact (apart y inTail).1 same.symm
      · rintro ⟨⟨unrepeated, distinct⟩, -, apart⟩
        refine ⟨distinct, fun y inTail => ⟨?_, apart y inTail⟩⟩
        intro same
        exact unrepeated (List.mem_map.mpr ⟨y, inTail, same.symm⟩)

theorem firstClash?_eq_none {key : α → κ} {xs : List α} :
    firstClash? key xs = none ↔ (xs.map key).Nodup := by
  rw [firstClash?, clashAfter?_eq_none]
  simp

/-- The item that is found is the first whose key was seen or has an item before it. -/
theorem clashAfter?_eq_some {key : α → κ} {seen : Std.HashMap κ α} {xs : List α} {a b : α}
    (found : clashAfter? key seen xs = some (a, b)) :
    ∃ before after, xs = before ++ b :: after ∧ (before.map key).Nodup ∧
      (∀ x ∈ before, key x ∉ seen) ∧ (seen[key b]? = some a ∨ a ∈ before ∧ key a = key b) := by
  induction xs generalizing seen with
  | nil => simp [clashAfter?] at found
  | cons x xs ih =>
    rw [clashAfter?] at found
    cases earlier : seen[key x]? with
    | some e =>
      -- The first item that is left has a key that was seen, so the search stops here.
      simp only [earlier, Option.some.injEq, Prod.mk.injEq] at found
      obtain ⟨rfl, rfl⟩ := found
      exact ⟨[], xs, rfl, List.nodup_nil, List.forall_mem_nil _, .inl earlier⟩
    | none =>
      simp only [earlier] at found
      obtain ⟨before, after, rfl, distinct, apart, last⟩ := ih found
      simp only [Std.HashMap.mem_insert, not_or, beq_iff_eq] at apart
      refine ⟨x :: before, after, rfl, ?_, ?_, ?_⟩
      · rw [List.map_cons, List.nodup_cons]
        refine ⟨fun repeated => ?_, distinct⟩
        obtain ⟨y, inBefore, same⟩ := List.mem_map.mp repeated
        exact (apart y inBefore).1 same.symm
      · rw [List.forall_mem_cons]
        refine ⟨fun inSeen => ?_, fun y member => (apart y member).2⟩
        rw [Std.HashMap.getElem?_eq_some_getElem inSeen] at earlier
        exact Option.some_ne_none _ earlier
      · rcases last with seenNow | ⟨inBefore, same⟩
        · rw [Std.HashMap.getElem?_insert] at seenNow
          by_cases same : key x = key b
          · obtain rfl : x = a := by simpa [same] using seenNow
            exact .inr ⟨List.mem_cons_self, same⟩
          · exact .inl (by simpa [same] using seenNow)
        · exact .inr ⟨List.mem_cons_of_mem _ inBefore, same⟩

/-- What is found is the first item with a key of an earlier one, and that earlier item. -/
theorem firstClash?_eq_some {key : α → κ} {xs : List α} {a b : α}
    (found : firstClash? key xs = some (a, b)) :
    ∃ before after, xs = before ++ b :: after ∧ (before.map key).Nodup ∧
      a ∈ before ∧ key a = key b := by
  obtain ⟨before, after, split, distinct, -, last⟩ := clashAfter?_eq_some found
  refine ⟨before, after, split, distinct, last.resolve_left ?_⟩
  simp

/-- In terms of positions: the item that is found has the key of an earlier one, and no two items
before it share a key. -/
theorem firstClash?_getElem? {key : α → κ} {xs : List α} {a b : α}
    (found : firstClash? key xs = some (a, b)) :
    ∃ i j : Nat, i < j ∧ xs[i]? = some a ∧ xs[j]? = some b ∧ key a = key b ∧
      ∀ (p q : Nat) (x y : α), p < q → q < j → xs[p]? = some x → xs[q]? = some y →
        key x ≠ key y := by
  obtain ⟨before, after, rfl, distinct, inBefore, same⟩ := firstClash?_eq_some found
  obtain ⟨i, below, rfl⟩ := List.mem_iff_getElem.mp inBefore
  refine ⟨i, before.length, below, ?_, ?_, same, ?_⟩
  · rw [List.getElem?_append_left below, List.getElem?_eq_getElem below]
  · rw [List.getElem?_append_right (Nat.le_refl _), Nat.sub_self, List.getElem?_cons_zero]
  · intro p q x y order inside atP atQ equal
    rw [List.getElem?_append_left (Nat.lt_trans order inside)] at atP
    rw [List.getElem?_append_left inside] at atQ
    have positions := position_eq_of_key_eq distinct (i := p) (j := q) (k := key y)
      (by rw [atP, Option.map_some, equal]) (by rw [atQ, Option.map_some])
    omega

end TableSql
