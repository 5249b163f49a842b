import TableSql.Value.Storage

/-!
# Storing is the inverse of reading

For every column type that the library knows, a value is stored as another exactly if that one is
read back as it (`toStorage_eq_ok_iff`). So no two values of a type are stored alike, and what is
read can always be stored again.

The integers are where this is not plain: all but the 8-bit ones are stored modulo `2 ^ bits`, so
every stored number is that of one integer, while most stored numbers are of no 8-bit integer and
are refused.
-/

namespace TableSql

/-! ## Integers -/

/-- The type that the numbers of a type are stored as is stored as itself. -/
@[simp] theorem IntType.storage_storage (t : IntType) : t.storage.storage = t.storage := by
  cases t <;> rfl

/-- Of two integers in range, one is stored as the other exactly if that one is taken back to it.
The range of the type matters only where the stored type is wider. -/
theorem IntType.reduce_storage_iff {t : IntType} {n stored : Int} (holds : t.Holds n)
    (fits : t.storage.Holds stored) :
    (if t.bits < t.storage.bits then stored = n else t.reduce stored = n) ↔
      t.storage.reduce n = stored := by
  -- Each type leaves bounds that are numbers, and remainders by a number.
  cases t <;>
    simp only [Holds, reduce, storage, bits, least, greatest, isSigned, count, Int.bmod, if_true,
      if_false, Bool.false_eq_true, Nat.lt_irrefl, Nat.reduceLT] at * <;>
    omega

/-- An integer of a type is the one that is congruent to it. -/
theorem IntType.reduce_of_holds {t : IntType} {n : Int} (holds : t.Holds n) : t.reduce n = n := by
  cases t <;>
    simp only [Holds, reduce, least, greatest, isSigned, count, Int.bmod, if_true,
      Bool.false_eq_true, if_false] at * <;>
    omega

theorem Word.wrap_val {t : IntType} (n : Word t) : Word.wrap t n.val = n := by
  obtain ⟨n, holds⟩ := n
  rw [Word.wrap, Word.mk.injEq]
  exact IntType.reduce_of_holds holds

/-- A stored number is read as the one integer that is stored as it. -/
theorem IntType.load?_eq_some_iff {t : IntType} {n : Word t} {stored : Word t.storage} :
    t.load? stored.val = some n ↔ Word.wrap t.storage n.val = stored := by
  obtain ⟨n, holds⟩ := n
  obtain ⟨m, fits⟩ := stored
  rw [Word.wrap, Word.mk.injEq, ← reduce_storage_iff holds fits, load?]
  by_cases wider : t.bits < t.storage.bits
  · rw [if_pos wider, if_pos wider, Word.ofInt?]
    by_cases inRange : t.Holds m
    · simp [inRange]
    · have other : m ≠ n := fun same => inRange (same ▸ holds)
      simp [inRange, other]
  · simp [wider, Word.wrap]

/-! ## Values -/

theorem Value.isNull_eq_false {v : Value} : v.isNull = false ↔ v ≠ .null := by
  cases v <;> simp [isNull]

namespace ColumnType

variable {v stored : Value}

/-- A value is stored exactly if it is one of the type, and as its stored form. -/
theorem toStorage_eq_ok {type : ColumnType} :
    type.toStorage v = .ok stored ↔ v.fits type = true ∧ v.toStorage = stored := by
  by_cases null : v.isNull = true
  · obtain rfl : v = .null := by cases v <;> simp [Value.isNull] at null ⊢
    simp [toStorage, Value.isNull, Value.fits, Value.toStorage]
  · by_cases fits : v.fits type = true
    · simp [toStorage, null, fits]
    · simp [toStorage, null, fits]

/-- The types whose values are stored as they are. -/
theorem toStorage_iff_of_plain {type : ColumnType}
    (reads : type.ofStorage stored = .ok v ↔ stored.fits type = true ∧ stored = v)
    (same : v.fits type = true → v.toStorage = v) :
    type.toStorage v = .ok stored ↔ type.ofStorage stored = .ok v := by
  rw [toStorage_eq_ok, reads]
  constructor
  · rintro ⟨fits, rfl⟩
    rw [same fits]
    exact ⟨fits, rfl⟩
  · rintro ⟨fits, rfl⟩
    exact ⟨fits, same fits⟩

theorem loadInt_eq_ok {t : IntType} {n : Word t.storage} :
    loadInt t (.int t.storage n) = .ok v ↔ ∃ m, t.load? n.val = some m ∧ v = .int t m := by
  cases loaded : t.load? n.val with
  | none => simp [loadInt, loaded]
  | some m => simp [loadInt, loaded, eq_comm]

/-- Storing an integer is the inverse of reading one. -/
theorem toStorage_int_iff {t : IntType} :
    (int t).toStorage v = .ok stored ↔ (int t).ofStorage stored = .ok v := by
  rw [toStorage_eq_ok]
  constructor
  · rintro ⟨fits, rfl⟩
    cases v with
    | null => rfl
    | int u n =>
      obtain rfl : u = t := by simpa [Value.fits] using fits
      exact loadInt_eq_ok.mpr ⟨n, IntType.load?_eq_some_iff.mpr rfl, rfl⟩
    | _ => simp [Value.fits] at fits
  · intro read
    cases stored with
    | null =>
      obtain rfl := Except.ok.inj read
      exact ⟨rfl, rfl⟩
    | int u n =>
      by_cases same : u = t.storage
      · subst same
        obtain ⟨m, loaded, rfl⟩ := loadInt_eq_ok.mp read
        refine ⟨by simp [Value.fits], ?_⟩
        rw [Value.toStorage, IntType.load?_eq_some_iff.mp loaded]
      · simp [ofStorage, loadInt, same] at read
    | _ => simp [ofStorage, loadInt] at read

/-- So it is for alternatives, which are stored as their numbers. -/
theorem toStorage_enum_iff {base : IntType} :
    (enum base).toStorage v = .ok stored ↔ (enum base).ofStorage stored = .ok v := by
  rw [toStorage_eq_ok]
  constructor
  · rintro ⟨fits, rfl⟩
    cases v with
    | null => rfl
    | enum number =>
      cases number with
      | int u n =>
        obtain rfl : u = base := by simpa [Value.fits, Value.isNull] using fits
        have loaded : loadInt u (.int u.storage (Word.wrap u.storage n.val)) = .ok (.int u n) :=
          loadInt_eq_ok.mpr ⟨n, IntType.load?_eq_some_iff.mpr rfl, rfl⟩
        simp [Value.toStorage, ofStorage, loaded, Except.map]
      | _ => simp [Value.fits, Value.isNull] at fits
    | _ => simp [Value.fits] at fits
  · intro read
    cases stored with
    | null =>
      obtain rfl := Except.ok.inj read
      exact ⟨rfl, rfl⟩
    | int u n =>
      -- A number of another width is refused, and of this width one that is not of the type.
      by_cases same : u = base.storage
      · subst same
        cases loaded : base.load? n.val with
        | none => simp [ofStorage, loadInt, loaded, Except.map] at read
        | some m =>
          obtain rfl : .enum (.int base m) = v := by
            simpa [ofStorage, loadInt, loaded, Except.map] using read
          refine ⟨by simp [Value.fits, Value.isNull], ?_⟩
          rw [Value.toStorage, Value.toStorage, IntType.load?_eq_some_iff.mp loaded]
      · simp [ofStorage, loadInt, same, Except.map] at read
    | _ => simp [ofStorage, loadInt, Except.map] at read

theorem ofStorage_char_text {s : String} :
    char.ofStorage (.text s) = .ok v ↔ ∃ c, s.toList = [c] ∧ v = .char c := by
  match h : s.toList with
  | [] => simp [ofStorage, h]
  | [c] => simp [ofStorage, h, eq_comm]
  | _ :: _ :: _ => simp [ofStorage, h]

/-- So it is for characters, which are stored as texts of one. -/
theorem toStorage_char_iff :
    char.toStorage v = .ok stored ↔ char.ofStorage stored = .ok v := by
  rw [toStorage_eq_ok]
  constructor
  · rintro ⟨fits, rfl⟩
    cases v with
    | null => rfl
    | char c => simp [Value.toStorage, ofStorage]
    | _ => simp [Value.fits] at fits
  · intro read
    cases stored with
    | null =>
      obtain rfl := Except.ok.inj read
      exact ⟨rfl, rfl⟩
    | text s =>
      obtain ⟨c, alone, rfl⟩ := ofStorage_char_text.mp read
      have text : c.toString = s := String.toList_injective (by simp [alone])
      exact ⟨rfl, by rw [Value.toStorage, text]⟩
    | _ => simp [ofStorage] at read

/-- A value of a known type is stored as another exactly if that one is read back as it. -/
theorem toStorage_eq_ok_iff {type : ColumnType} (known : ∀ name, type ≠ .custom name) :
    type.toStorage v = .ok stored ↔ type.ofStorage stored = .ok v := by
  cases type with
  | int t => exact toStorage_int_iff
  | char => exact toStorage_char_iff
  | enum base => exact toStorage_enum_iff
  | custom name => exact absurd rfl (known name)
  | bool | float32 | float64 | text | bytes | timestamp =>
    -- Values of these types are stored as they are.
    refine toStorage_iff_of_plain ?_ ?_
    · cases stored <;> simp [ofStorage, Value.fits]
    · cases v <;> simp [Value.fits, Value.toStorage]

end ColumnType

/-! ## Values stored as they are -/

namespace Value

/-- The kinds of the values that are stored as values of another kind: 8-bit integers, integers
without sign, characters and alternatives. -/
def Kind.converted : List Kind :=
  [.int .i8, .int .u8, .int .u16, .int .u32, .int .u64, .char, .enum]

/-- However deep alternatives are nested, what is stored is not of such a kind. -/
theorem kind_toStorage_not_mem (v : Value) : v.toStorage.kind ∉ Kind.converted := by
  induction v with
  | int t n => cases t <;> simp [toStorage, kind, IntType.storage, Kind.converted]
  | enum number ih => exact ih
  | _ => simp [toStorage, kind, Kind.converted]

/-- A value of a kind that is not converted is stored as it is. -/
theorem toStorage_of_not_mem {v : Value} (plain : v.kind ∉ Kind.converted) : v.toStorage = v := by
  cases v with
  | int t n =>
    have same : t.storage = t := by
      cases t <;> simp [kind, Kind.converted, IntType.storage] at plain ⊢
    have wrapped : ∀ u, u = t → Value.int u (Word.wrap u n.val) = .int t n := by
      rintro _ rfl
      rw [n.wrap_val]
    exact wrapped _ same
  | char c => simp [kind, Kind.converted] at plain
  | enum number => simp [kind, Kind.converted] at plain
  | _ => rfl

theorem toStorage_eq_self_iff {v : Value} : v.toStorage = v ↔ v.kind ∉ Kind.converted := by
  refine ⟨fun same => ?_, toStorage_of_not_mem⟩
  rw [← same]
  exact v.kind_toStorage_not_mem

/-- The stored form of a value is stored as it is. -/
theorem toStorage_toStorage (v : Value) : v.toStorage.toStorage = v.toStorage :=
  toStorage_of_not_mem v.kind_toStorage_not_mem

end Value

/-- Storing and reading are inverse to each other. For a known type, a value is stored as another
exactly if that one is read back as it, so no two values are stored alike and no two are read alike.
For a custom type every value is stored, and what is stored is read as it is; it is the value
itself unless the value is of a kind that is stored as another. -/
theorem ColumnType.storage_inverse :
    (∀ type : ColumnType, (∀ name, type ≠ .custom name) →
      (∀ v stored, type.toStorage v = .ok stored ↔ type.ofStorage stored = .ok v) ∧
      (∀ v w stored, type.toStorage v = .ok stored → type.toStorage w = .ok stored → v = w) ∧
      ∀ stored other v, type.ofStorage stored = .ok v → type.ofStorage other = .ok v →
        stored = other) ∧
    ∀ name v, ∃ stored, (custom name).toStorage v = .ok stored ∧
      (custom name).ofStorage stored = .ok stored ∧
      (stored = v ↔ v.kind ∉ Value.Kind.converted) := by
  constructor
  · intro type known
    have inverse (v stored : Value) :
        type.toStorage v = .ok stored ↔ type.ofStorage stored = .ok v := toStorage_eq_ok_iff known
    refine ⟨inverse, fun v w stored first second => ?_, fun stored other v first second => ?_⟩
    · rw [inverse] at first second
      exact Except.ok.inj (first.symm.trans second)
    · rw [← inverse] at first second
      exact Except.ok.inj (first.symm.trans second)
  · intro name v
    have accepts (w : Value) : w.fits (.custom name) = true := by cases w <;> rfl
    refine ⟨v.toStorage, toStorage_eq_ok.mpr ⟨accepts v, rfl⟩, ?_, Value.toStorage_eq_self_iff⟩
    cases stored : v.toStorage <;> rfl

/-- The greatest alternative of 64 bits is stored as the number before zero. -/
theorem ColumnType.storage_inverse_greatest :
    (∀ name, enum .u64 ≠ .custom name) ∧
      (enum .u64).toStorage (.enum (.int .u64 ⟨18446744073709551615, by decide⟩)) =
        .ok (.int .i64 ⟨-1, by decide⟩) ∧
      ∀ v, (enum .u64).toStorage v = .ok (.int .i64 ⟨-1, by decide⟩) →
        v = .enum (.int .u64 ⟨18446744073709551615, by decide⟩) := by
  have known : ∀ name, enum .u64 ≠ .custom name := by simp
  obtain ⟨inverse, injective, -⟩ := storage_inverse.1 (enum .u64) known
  have stored : (enum .u64).toStorage (.enum (.int .u64 ⟨18446744073709551615, by decide⟩)) =
      .ok (.int .i64 ⟨-1, by decide⟩) := (inverse _ _).mpr rfl
  exact ⟨known, stored, fun v same => injective v _ _ same stored⟩

end TableSql
