import TableSql.Proofs.Accessor
import TableSql.Proofs.Crud.Tokens
import TableSql.Proofs.Position

/-!
# Finding accessors

The accessors of a table are those of the subsets of its primary key that are not empty, each subset
once and in the order of the masks. They can be found by mask, by the names of their columns, by
their own name, and the one of the whole key. `AccessorSet.Enumerates` says what is found, and that
nothing else is.
-/

namespace TableSql

/-! ## The accessor of a mask -/

/-- What the accessor of a mask is. Its columns are those at the bits of the mask in ascending
order, its statements take these columns as their parameters, and it reaches one row exactly if they
are the whole key. -/
structure Accessor.Covers (a : Accessor) (s : Schema) (mask : Nat) : Prop where
  ofMask : a.mask = mask
  positions : a.keys.map (·.index) = (List.range s.keyCount).filter fun i => mask.testBit i
  columns : ∀ p ∈ a.keys, s.columns[p.index]? = some ⟨p.column, p.type, p.nullable⟩
  signature : a.signature = String.intercalate "_" a.columnNames
  selectParams : a.select.params = a.keys
  deleteParams : a.delete.params = a.keys
  cardinality : a.cardinality = .one ↔ mask = twoTo s.keyCount - 1

theorem map_index_keysOf {s : Schema} (sound : s.Sound) (mask : Nat) :
    (Accessor.keysOf s mask).map (·.index) =
      (List.range s.keyCount).filter fun i => mask.testBit i := by
  rw [← sound.map_index_keyParams, List.filter_map]
  rfl

/-- The whole key is the subset with all bits. -/
theorem keysOf_full {s : Schema} (sound : s.Sound) :
    Accessor.keysOf s (twoTo s.keyCount - 1) = s.keyParams := by
  rw [keysOf_eq_chosen, ← sound.length_keyParams, chosen_full]

/-- Only the last mask stands for the whole key. -/
theorem length_keysOf_eq_iff {s : Schema} (sound : s.Sound) {mask : Nat}
    (below : mask ≤ twoTo s.keyCount - 1) :
    (Accessor.keysOf s mask).length = s.keyCount ↔ mask = twoTo s.keyCount - 1 := by
  have positive := twoTo_pos s.keyCount
  constructor
  · intro long
    rw [keysOf_eq_chosen, ← sound.length_keyParams] at long
    have all : chosen mask s.keyParams = chosen (twoTo s.keyParams.length - 1) s.keyParams := by
      rw [chosen_full]
      exact (chosen_sublist mask s.keyParams).eq_of_length long
    rw [← sound.length_keyParams] at below positive ⊢
    exact (chosen_inj s.nodup_keyParams (by omega) (by omega)).mp all
  · rintro rfl
    rw [keysOf_full sound, sound.length_keyParams]

namespace AccessorSet

/-! ## Masks of names -/

section Masks

variable {keys : List String} (distinct : keys.Nodup)

include distinct in
theorem findIdx?_name {name : String} {i : Nat} :
    keys.findIdx? (· == name) = some i ↔ keys[i]? = some name := by
  have found := @findIdx?_key_eq_some String String _ _ id keys (by rwa [List.map_id]) name i
  rwa [Option.map_id_fun, id_eq] at found

include distinct in
theorem maskFrom?_here {least : Nat} {name : String} (here : keys[least]? = some name)
    (names : List String) :
    maskFrom? keys least (name :: names) =
      (maskFrom? keys (least + 1) names).map (twoTo least + ·) := by
  rw [maskFrom?, (findIdx?_name distinct).mpr here]
  exact if_neg (Nat.lt_irrefl least)

include distinct in
/-- A position that does not hold the next name is passed over. -/
theorem maskFrom?_later {least : Nat} {name : String} (other : keys[least]? ≠ some name)
    (names : List String) :
    maskFrom? keys least (name :: names) = maskFrom? keys (least + 1) (name :: names) := by
  rw [maskFrom?, maskFrom?]
  cases found : keys.findIdx? (· == name) with
  | none => rfl
  | some i =>
    have apart : i ≠ least := by
      rintro rfl
      exact other ((findIdx?_name distinct).mp found)
    have bounds : i < least + 1 ↔ i < least := by omega
    simp only [bounds]

theorem maskFrom?_past {least : Nat} (past : keys.length ≤ least) (name : String)
    (names : List String) : maskFrom? keys least (name :: names) = none := by
  rw [maskFrom?]
  cases found : keys.findIdx? (· == name) with
  | none => rfl
  | some i =>
    obtain ⟨below, -⟩ := List.findIdx?_eq_some_iff_getElem.mp found
    exact if_pos (Nat.lt_of_lt_of_le below past)

/-- No names have the mask of the empty sublist. -/
theorem maskFrom?_nil {rest : List String} (distinctRest : rest.Nodup) {least n mask : Nat} :
    maskFrom? keys least [] = some mask ↔
      ∃ part < twoTo rest.length, mask = twoTo n * part ∧ chosen part rest = [] := by
  constructor
  · intro found
    obtain rfl : 0 = mask := Option.some.inj found
    exact ⟨0, twoTo_pos _, rfl, chosen_zero rest⟩
  · rintro ⟨part, below, rfl, empty⟩
    rw [(chosen_eq_nil_iff distinctRest below).mp empty]
    rfl

end Masks

/-- Names that stand in order in the rest of the key, behind the columns before it, have the mask of
the sublist of the rest that they are. -/
theorem maskFrom?_eq_some {before rest : List String} (distinct : (before ++ rest).Nodup)
    {names : List String} {mask : Nat} :
    maskFrom? (before ++ rest) before.length names = some mask ↔
      ∃ part < twoTo rest.length, mask = twoTo before.length * part ∧ chosen part rest = names := by
  induction rest generalizing before names mask with
  | nil =>
    cases names with
    | nil => exact maskFrom?_nil List.nodup_nil
    | cons name names =>
      rw [maskFrom?_past (by simp)]
      constructor
      · exact nofun
      · rintro ⟨part, -, -, none⟩
        exact absurd none (List.cons_ne_nil _ _).symm
  | cons r rest ih =>
    have distinctRest : (r :: rest).Nodup := (List.nodup_append.mp distinct).2.1
    have shifted : before ++ r :: rest = (before ++ [r]) ++ rest := by simp
    have here : (before ++ r :: rest)[before.length]? = some r := by simp
    -- Behind `r` the induction counts masks in units of the next bit.
    have later {names : List String} {mask : Nat} :
        maskFrom? (before ++ r :: rest) (before.length + 1) names = some mask ↔
          ∃ part < twoTo rest.length,
            mask = twoTo before.length * (2 * part) ∧ chosen part rest = names := by
      have rest := @ih (before ++ [r]) (shifted ▸ distinct) names mask
      simpa only [shifted, List.length_append, List.length_singleton, twoTo_succ, Nat.mul_assoc,
        Nat.mul_left_comm 2] using rest
    cases names with
    | nil => exact maskFrom?_nil distinctRest
    | cons name names =>
      rw [List.length_cons, exists_mask_iff]
      simp only [chosen_even, chosen_odd, List.cons.injEq]
      -- The mask is odd exactly if the next name is `r`: `r` is not among the rest.
      by_cases same : r = name
      · obtain rfl := same
        have absent : ∀ part, chosen part rest ≠ r :: names := fun part same =>
          (List.nodup_cons.mp distinctRest).1
            ((chosen_sublist part rest).subset (same ▸ List.mem_cons_self))
        rw [maskFrom?_here distinct here, Option.map_eq_some_iff]
        simp only [later, Nat.mul_add, Nat.mul_one, true_and]
        constructor
        · rintro ⟨_, ⟨part, below, rfl, tail⟩, rfl⟩
          exact ⟨part, below, .inr ⟨Nat.add_comm _ _, tail⟩⟩
        · rintro ⟨part, below, ⟨-, even⟩ | ⟨rfl, tail⟩⟩
          · exact absurd even (absent part)
          · exact ⟨_, ⟨part, below, rfl, tail⟩, Nat.add_comm _ _⟩
      · have other : (before ++ r :: rest)[before.length]? ≠ some name := by
          rw [here]
          exact fun equal => same (Option.some.inj equal)
        rw [maskFrom?_later distinct other, later]
        constructor
        · rintro ⟨part, below, even⟩
          exact ⟨part, below, .inl even⟩
        · rintro ⟨part, below, even | ⟨-, head, -⟩⟩
          · exact ⟨part, below, even⟩
          · exact absurd head same

/-- The names of a subset of the key, in the order of the key, have its mask. -/
theorem maskFrom?_zero {keys : List String} (distinct : keys.Nodup) {names : List String}
    {mask : Nat} :
    maskFrom? keys 0 names = some mask ↔ mask < twoTo keys.length ∧ chosen mask keys = names := by
  have whole := @maskFrom?_eq_some [] keys distinct names mask
  simpa [twoTo] using whole

section Accepted

variable {s : Schema} {options : Options} {set : AccessorSet} (sound : s.Sound)
  (accepted : build s options = .ok set)

include accepted in
theorem accessors_eq : set.accessors = (masks s.keyCount).map (Accessor.ofMask s options) := by
  obtain ⟨-, -, rfl⟩ := build_eq_ok.mp accepted
  rfl

include accepted in
theorem length_accessors : set.accessors.length = twoTo s.keyCount - 1 := by
  rw [accessors_eq accepted, List.length_map, masks, List.length_range']

include accepted in
theorem mem_accessors {a : Accessor} :
    a ∈ set.accessors ↔
      ∃ mask, (1 ≤ mask ∧ mask ≤ twoTo s.keyCount - 1) ∧ Accessor.ofMask s options mask = a := by
  rw [accessors_eq accepted, List.mem_map]
  simp only [mem_masks]

include accepted in
theorem getElem?_accessors {mask : Nat} (first : 1 ≤ mask) (last : mask ≤ twoTo s.keyCount - 1) :
    set.accessors[mask - 1]? = some (Accessor.ofMask s options mask) := by
  rw [accessors_eq accepted]
  exact getElem?_map_masks.mpr ⟨by omega, by rw [Nat.sub_add_cancel first]⟩

include sound accepted in
/-- The accessor that is made for a mask is what the accessor of that mask has to be. -/
theorem covers_ofMask {mask : Nat} (first : 1 ≤ mask) (last : mask ≤ twoTo s.keyCount - 1) :
    (Accessor.ofMask s options mask).Covers s mask where
  ofMask := rfl
  positions := map_index_keysOf sound mask
  columns p member := Schema.column_of_mem_params (mem_params_of_mem_keysOf member)
  signature := rfl
  selectParams := by
    have member := (mem_accessors accepted).mpr ⟨mask, ⟨first, last⟩, rfl⟩
    exact (tokens?_of_generated sound (.selectBy accepted member)).2
  deleteParams := by
    have member := (mem_accessors accepted).mpr ⟨mask, ⟨first, last⟩, rfl⟩
    exact (tokens?_of_generated sound (.deleteBy accepted member)).2
  cardinality := by
    rw [← length_keysOf_eq_iff sound last]
    have made : (Accessor.ofMask s options mask).cardinality =
        if (Accessor.keysOf s mask).length = s.keyCount then .one else .many := rfl
    rw [made]
    split <;> simp [*]

/-! ## Lookups -/

include accepted in
/-- A mask is found exactly if it stands for a subset of the key that is not empty. -/
theorem byMask?_eq {mask : Nat} :
    set.byMask? mask =
      if 1 ≤ mask ∧ mask ≤ twoTo s.keyCount - 1 then some (Accessor.ofMask s options mask)
      else none := by
  have length := length_accessors accepted
  rw [byMask?]
  split
  · rw [if_neg (by omega)]
  · split
    · rename_i within
      exact getElem?_accessors accepted within.1 within.2
    · rw [List.getElem?_eq_none_iff]
      omega

include accepted in
/-- A look-up by mask gives the one accessor with that mask. -/
theorem byMask?_eq_some {mask : Nat} {a : Accessor} :
    set.byMask? mask = some a ↔ a ∈ set.accessors ∧ a.mask = mask := by
  rw [byMask?_eq accepted, mem_accessors accepted]
  constructor
  · intro found
    split at found
    · rename_i within
      obtain rfl := Option.some.inj found
      exact ⟨⟨mask, within, rfl⟩, rfl⟩
    · exact absurd found (Option.some_ne_none a).symm
  · rintro ⟨⟨_, within, rfl⟩, rfl⟩
    exact if_pos within

include accepted in
theorem bySignature?_eq_some {signature : String} {a : Accessor} :
    set.bySignature? signature = some a ↔ a ∈ set.accessors ∧ a.signature = signature :=
  find?_key_eq_some (nodup_signatures accepted)

include sound accepted in
/-- A look-up by names gives the one accessor whose columns have these names in the order of the
key: names in another order, twice or of no key column find nothing. -/
theorem byColumns?_eq_some {names : List String} {a : Accessor} :
    set.byColumns? names = some a ↔ a ∈ set.accessors ∧ a.columnNames = names := by
  have keyColumns : set.keyColumns = s.keyNames := by
    obtain ⟨-, -, rfl⟩ := build_eq_ok.mp accepted
    rfl
  have masked {mask : Nat} : maskFrom? set.keyColumns 0 names = some mask ↔
      mask < twoTo s.keyCount ∧ chosen mask s.keyNames = names := by
    rw [keyColumns, maskFrom?_zero sound.nodup_keyNames, sound.length_keyNames]
  have columnNames (mask : Nat) :
      (Accessor.ofMask s options mask).columnNames = chosen mask s.keyNames :=
    map_column_keysOf s mask
  have looks : set.byColumns? names = (maskFrom? set.keyColumns 0 names).bind set.byMask? := by
    rw [byColumns?]
    cases maskFrom? set.keyColumns 0 names <;> rfl
  rw [looks, Option.bind_eq_some_iff]
  simp only [masked]
  constructor
  · rintro ⟨mask, ⟨-, rfl⟩, found⟩
    obtain ⟨member, rfl⟩ := (byMask?_eq_some accepted).mp found
    obtain ⟨_, -, rfl⟩ := (mem_accessors accepted).mp member
    exact ⟨member, columnNames _⟩
  · rintro ⟨member, rfl⟩
    obtain ⟨mask, within, rfl⟩ := (mem_accessors accepted).mp member
    refine ⟨mask, ⟨by omega, (columnNames mask).symm⟩, ?_⟩
    exact (byMask?_eq_some accepted).mpr ⟨member, rfl⟩

include sound accepted in
/-- The names of an accessor's columns are the sublists of the names of the key that are not
empty. -/
theorem exists_columnNames_iff {names : List String} :
    (∃ a ∈ set.accessors, a.columnNames = names) ↔ names ≠ [] ∧ names.Sublist s.keyNames := by
  rw [← sound.exists_mask_iff, accessors_eq accepted]
  constructor
  · rintro ⟨_, member, rfl⟩
    obtain ⟨mask, inMasks, rfl⟩ := List.mem_map.mp member
    exact ⟨mask, inMasks, (map_column_keysOf s mask).symm⟩
  · rintro ⟨mask, inMasks, rfl⟩
    exact ⟨_, List.mem_map_of_mem inMasks, map_column_keysOf s mask⟩

include sound accepted in
theorem fullKey?_eq : set.fullKey? = some (Accessor.ofMask s options (twoTo s.keyCount - 1)) := by
  have full := sound.one_le_full
  rw [fullKey?, List.getLast?_eq_getElem?, length_accessors accepted]
  exact getElem?_accessors accepted full (Nat.le_refl _)

end Accepted

end AccessorSet

/-- The accessors of a table with what finds them. -/
structure AccessorSet.Enumerates (set : AccessorSet) (s : Schema) (options : Options) : Prop where
  length : set.accessors.length = twoTo s.keyCount - 1
  covers : ∀ mask, 1 ≤ mask → mask ≤ twoTo s.keyCount - 1 →
    ∃ a, set.accessors[mask - 1]? = some a ∧ a.Covers s mask
  byMask : ∀ mask a, set.byMask? mask = some a ↔ a ∈ set.accessors ∧ a.mask = mask
  findsMask : ∀ mask, (∃ a, set.byMask? mask = some a) ↔ 1 ≤ mask ∧ mask ≤ twoTo s.keyCount - 1
  byColumns : ∀ names a, set.byColumns? names = some a ↔ a ∈ set.accessors ∧ a.columnNames = names
  findsColumns : ∀ names, (∃ a, set.byColumns? names = some a) ↔
    names ≠ [] ∧ names.Sublist s.keyNames
  bySignature : ∀ signature a,
    set.bySignature? signature = some a ↔ a ∈ set.accessors ∧ a.signature = signature
  fullKey : ∃ a, set.fullKey? = some a ∧ a.Covers s (twoTo s.keyCount - 1) ∧
    a.delete = Crud.deleteByKey s options

/-- The accessors of a table that are accepted are those of the subsets of its key, and each lookup
finds exactly what it is asked for. -/
theorem accessors_enumerate {d : Draft} {s : Schema} (built : d.build = .ok s) {options : Options}
    {set : AccessorSet} (accepted : AccessorSet.build s options = .ok set) :
    set.Enumerates s options := by
  have sound := Draft.sound_of_build built
  have full := sound.one_le_full
  constructor
  case length => exact AccessorSet.length_accessors accepted
  case covers =>
    intro mask first last
    exact ⟨_, AccessorSet.getElem?_accessors accepted first last,
      AccessorSet.covers_ofMask sound accepted first last⟩
  case byMask => exact fun mask a => AccessorSet.byMask?_eq_some accepted
  case findsMask =>
    intro mask
    rw [AccessorSet.byMask?_eq accepted]
    split
    · rename_i within
      exact ⟨fun _ => within, fun _ => ⟨_, rfl⟩⟩
    · rename_i outside
      exact ⟨fun ⟨_, found⟩ => absurd found.symm (Option.some_ne_none _), fun within =>
        absurd within outside⟩
  case byColumns => exact fun names a => AccessorSet.byColumns?_eq_some sound accepted
  case findsColumns =>
    intro names
    simp only [AccessorSet.byColumns?_eq_some sound accepted]
    exact AccessorSet.exists_columnNames_iff sound accepted
  case bySignature => exact fun signature a => AccessorSet.bySignature?_eq_some accepted
  case fullKey =>
    have found := AccessorSet.fullKey?_eq sound accepted
    have covers := AccessorSet.covers_ofMask sound accepted full (Nat.le_refl _)
    have deletes : (Accessor.ofMask s options (twoTo s.keyCount - 1)).delete =
        Crud.deleteByKey s options := by
      simp only [Accessor.ofMask, keysOf_full sound, Crud.deleteByKey]
    exact ⟨_, found, covers, deletes⟩

/-- The table of misleading names has three accessors, and its second column alone finds the one of
mask `2`. -/
theorem accessors_enumerate_misleading :
    ∃ set, Draft.misleading.build = .ok Schema.misleading ∧
      AccessorSet.build .misleading {} = .ok set ∧ set.Enumerates .misleading {} ∧
      (set.accessors.map (·.mask)) = [1, 2, 3] ∧
      (set.byColumns? ["?\n\""]).map (·.mask) = some 2 := by
  have accepted : AccessorSet.build .misleading {} =
      .ok ⟨(AccessorSet.masks 2).map (Accessor.ofMask .misleading {}), ["$1", "?\n\""]⟩ :=
    AccessorSet.build_eq_ok.mpr ⟨by decide, by decide, rfl⟩
  exact ⟨_, build_misleading, accepted, accessors_enumerate build_misleading accepted, by decide,
    by decide⟩

end TableSql
