import TableSql.Accessor
import TableSql.Proofs.Clash
import TableSql.Proofs.Schema.Built
import TableSql.Proofs.Subset

/-!
# Sets of accessors

An accessor has the columns of the primary key that its mask stands for (`keysOf_eq_chosen`). The
accessors of a table are refused when its key has too many columns, or when two subsets of it have
one name (`AccessorSet.build_eq_ok`).
-/

namespace TableSql

/-! ## Columns of a mask -/

theorem keysOf_eq_chosen (s : Schema) (mask : Nat) :
    Accessor.keysOf s mask = chosen mask s.keyParams := by
  rw [chosen, s.zipIdx_keyParams, List.filter_map, List.map_map]
  exact (List.map_id _).symm

/-- The names of an accessor's columns. -/
theorem map_column_keysOf (s : Schema) (mask : Nat) :
    (Accessor.keysOf s mask).map (·.column) = chosen mask s.keyNames := by
  rw [keysOf_eq_chosen, ← chosen_map, s.map_column_keyParams]

/-! ## Masks of a key -/

namespace AccessorSet

theorem mem_masks {k mask : Nat} : mask ∈ masks k ↔ 1 ≤ mask ∧ mask ≤ twoTo k - 1 := by
  have positive := twoTo_pos k
  rw [masks, List.mem_range'_1]
  omega

/-- The mask at a position is the position's successor. -/
theorem getElem?_map_masks {α : Type} {f : Nat → α} {k i : Nat} {a : α} :
    ((masks k).map f)[i]? = some a ↔ i < twoTo k - 1 ∧ f (i + 1) = a := by
  have length : (masks k).length = twoTo k - 1 := List.length_range'
  rw [List.getElem?_map]
  by_cases below : i < twoTo k - 1
  · have here : (masks k)[i]? = some (i + 1) := by
      rw [masks, List.getElem?_range' below, Nat.one_mul, Nat.add_comm]
    simp [here, below]
  · simp [below, length]

/-- A clash of what some masks stand for, in terms of the masks: no smaller mask than the second has
the key of one before it. -/
theorem exists_masks_of_clash {α κ : Type} [BEq κ] [Hashable κ] [LawfulBEq κ] [LawfulHashable κ]
    {key : α → κ} {f : Nat → α} {k : Nat} {a b : α}
    (found : firstClash? key ((masks k).map f) = some (a, b)) :
    ∃ first second, 0 < first ∧ first < second ∧ second < twoTo k ∧ f first = a ∧ f second = b ∧
      key a = key b ∧ ∀ m n, 0 < m → m < n → n < second → key (f m) ≠ key (f n) := by
  obtain ⟨i, j, order, atI, atJ, same, least⟩ := firstClash?_getElem? found
  obtain ⟨-, ofA⟩ := getElem?_map_masks.mp atI
  obtain ⟨below, ofB⟩ := getElem?_map_masks.mp atJ
  refine ⟨i + 1, j + 1, by omega, by omega, by omega, ofA, ofB, same, ?_⟩
  intro m n positive ordered inside
  have atMask {mask : Nat} (first : 0 < mask) (last : mask ≤ j) :
      ((masks k).map f)[mask - 1]? = some (f mask) :=
    getElem?_map_masks.mpr ⟨by omega, by rw [Nat.sub_add_cancel first]⟩
  exact least (m - 1) (n - 1) _ _ (by omega) (by omega) (atMask positive (by omega))
    (atMask (by omega) (by omega))

end AccessorSet

theorem Schema.Sound.chosen_keyNames_inj {s : Schema} (sound : s.Sound) {m n : Nat}
    (hm : m < twoTo s.keyCount) (hn : n < twoTo s.keyCount) :
    chosen m s.keyNames = chosen n s.keyNames ↔ m = n := by
  rw [← sound.length_keyNames] at hm hn
  exact chosen_inj sound.nodup_keyNames hm hn

/-- The masks of a key stand for its subsets that are not empty. -/
theorem Schema.Sound.exists_mask_iff {s : Schema} (sound : s.Sound) {names : List String} :
    (∃ mask ∈ AccessorSet.masks s.keyCount, chosen mask s.keyNames = names) ↔
      names ≠ [] ∧ names.Sublist s.keyNames := by
  have positive := twoTo_pos s.keyCount
  have empty {mask : Nat} (below : mask < twoTo s.keyCount) :
      chosen mask s.keyNames = [] ↔ mask = 0 := by
    rw [← chosen_zero s.keyNames, sound.chosen_keyNames_inj below positive]
  rw [← exists_chosen_iff, sound.length_keyNames]
  simp only [AccessorSet.mem_masks]
  constructor
  · rintro ⟨mask, within, rfl⟩
    refine ⟨fun none => ?_, mask, by omega, rfl⟩
    have zero := (empty (by omega)).mp none
    omega
  · rintro ⟨filled, mask, below, rfl⟩
    have nonzero : mask ≠ 0 := fun zero => filled ((empty below).mpr zero)
    exact ⟨mask, by omega, rfl⟩

theorem Schema.Sound.one_le_full {s : Schema} (sound : s.Sound) : 1 ≤ twoTo s.keyCount - 1 := by
  obtain ⟨k, same⟩ := Nat.exists_eq_succ_of_ne_zero (Nat.ne_of_gt sound.keyPositive)
  have positive := twoTo_pos k
  rw [same, twoTo_succ]
  omega

/-! ## Building -/

namespace AccessorSet

/-- A set of accessors is made exactly if the key has few enough columns and no two subsets of it
have one name; it then has one accessor for each mask, in the order of the masks. -/
theorem build_eq_ok {s : Schema} {options : Options} {set : AccessorSet} :
    build s options = .ok set ↔
      s.keyCount ≤ maxAccessorKeys ∧
      ((masks s.keyCount).map fun mask => Accessor.signatureOf (Accessor.keysOf s mask)).Nodup ∧
      ⟨(masks s.keyCount).map (Accessor.ofMask s options), s.keyColumns.map (·.name)⟩ = set := by
  have signatures : ((masks s.keyCount).map (Accessor.ofMask s options)).map Accessor.signature =
      (masks s.keyCount).map fun mask => Accessor.signatureOf (Accessor.keysOf s mask) := by
    rw [List.map_map]
    rfl
  rw [build, ← signatures, ← firstClash?_eq_none]
  by_cases long : maxAccessorKeys < s.keyCount
  · simp [long, Nat.not_le.mpr long]
  · simp only [long, if_false, Nat.not_lt.mp long, true_and]
    cases clash : firstClash? Accessor.signature
        ((masks s.keyCount).map (Accessor.ofMask s options)) with
    | none => simp
    | some pair => simp

theorem nodup_signatures {s : Schema} {options : Options} {set : AccessorSet}
    (accepted : build s options = .ok set) : (set.accessors.map Accessor.signature).Nodup := by
  obtain ⟨-, distinct, rfl⟩ := build_eq_ok.mp accepted
  rwa [List.map_map]

theorem statements_of_mem {s : Schema} {options : Options} {set : AccessorSet}
    (accepted : build s options = .ok set) {a : Accessor} (member : a ∈ set.accessors) :
    a.select = Crud.keyedSelect s options (Accessor.keysOf s a.mask) ∧
      a.delete = Crud.keyedDelete s options (Accessor.keysOf s a.mask) := by
  obtain ⟨-, -, rfl⟩ := build_eq_ok.mp accepted
  obtain ⟨mask, -, rfl⟩ := List.mem_map.mp member
  simp only [Accessor.ofMask, and_self]

end AccessorSet

end TableSql
