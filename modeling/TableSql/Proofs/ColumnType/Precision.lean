import Mathlib.Tactic.ByContra
import TableSql.Power
import TableSql.Proofs.TypeMap
import TableSql.Proofs.Value.Storage

/-!
# Numbers that are stored as others

The database has signed integers only, so an integer is stored as the one of its column that is
congruent to it modulo the width of its type. This is the integer itself up to the greatest of the
column, and the integer less `2 ^ bits` above it (`IntType.reduce_storage`). A type has integers
above it exactly if it has the precision caveat (`hasPrecisionCaveat_iff`), and it is then that some
numbers and the order of some change (`precision_caveat_exact`).
-/

namespace TableSql

/-- The width of an integer type of the database, all of which are signed. -/
def Sql.integerBits? : String → Option Nat
  | "SMALLINT" => some 16
  | "INTEGER" => some 32
  | "BIGINT" => some 64
  | _ => none

/-! ## Integers -/

namespace IntType

variable {t : IntType} {n : Int}

theorem count_eq_twoTo (t : IntType) : t.count = twoTo t.bits := by cases t <;> rfl

/-- An integer above the greatest of its column is stored as the negative one that is congruent to
it, and any other as itself. -/
theorem reduce_storage (holds : t.Holds n) :
    t.storage.reduce n = if t.storage.greatest < n then n - t.count else n := by
  cases t <;>
    simp only [Holds, reduce, storage, least, greatest, isSigned, count, Int.bmod, if_true] at * <;>
    omega

/-- A column holds the integers of a width in two's complement. -/
theorem holds_storage_iff :
    t.storage.Holds n ↔
      -(twoTo (t.storage.bits - 1) : Int) ≤ n ∧ n < twoTo (t.storage.bits - 1) := by
  cases t <;>
    simp only [Holds, storage, least, greatest, bits, twoTo, Nat.pow_eq, Nat.reduceSub,
      Nat.reducePow] <;>
    omega

/-- The integers of a type that lie above the greatest of its column, if there are any, are the
upper half of the type. -/
theorem greatest_lt_iff (above : t.storage.greatest < t.greatest) :
    t.storage.greatest < n ↔ (twoTo (t.bits - 1) : Int) ≤ n := by
  cases t <;>
    simp only [storage, greatest, bits, twoTo, Nat.pow_eq, Nat.reduceSub, Nat.reducePow] at * <;>
    omega

/-- Zero and the greatest integer are integers of every type, and the number of integers is greater
than both. -/
theorem holds_ends (t : IntType) :
    t.Holds 0 ∧ t.Holds t.greatest ∧ 0 < t.greatest ∧ t.greatest < t.count ∧
      0 ≤ t.storage.greatest := by
  cases t <;> decide

theorem integerBits?_ofInt (t : IntType) :
    Sql.integerBits? (TypeMap.ofInt t) = some t.storage.bits := by
  cases t <;> rfl

end IntType

/-! ## Columns of integers -/

/-- The number that a value stands for: an integer, or the number of an alternative. -/
def Value.number? : Value → Option Int
  | .int _ n => some n.val
  | .enum number => number.number?
  | _ => none

namespace ColumnType

/-- The integers that the values of a column type stand for, if they stand for any. -/
def integers? : ColumnType → Option IntType
  | .int t | .enum t => some t
  | _ => none

/-- A column of a type stores a number for a number. -/
def Stores (type : ColumnType) (n stored : Int) : Prop :=
  ∃ v w, type.toStorage v = .ok w ∧ v.number? = some n ∧ w.number? = some stored

variable {type : ColumnType} {t : IntType} {n stored : Int}

/-- What is stored for a value is null, or the integer of the column that is congruent to it. -/
theorem fits_cases {v : Value} (integers : type.integers? = some t) (fits : v.fits type = true) :
    v = .null ∨ ∃ n : Word t, v.number? = some n.val ∧
      v.toStorage = .int t.storage (Word.wrap t.storage n.val) := by
  cases type with
  | int u =>
    obtain rfl := Option.some.inj integers
    cases v with
    | null => exact .inl rfl
    | int _ n =>
      obtain rfl := eq_of_beq fits
      exact .inr ⟨n, rfl, rfl⟩
    | _ => simp [Value.fits] at fits
  | enum u =>
    obtain rfl := Option.some.inj integers
    cases v with
    | null => exact .inl rfl
    | enum number =>
      cases number with
      | int _ n =>
        obtain rfl : _ = u := by simpa [Value.fits, Value.isNull] using fits
        exact .inr ⟨n, rfl, rfl⟩
      | _ => simp [Value.fits, Value.isNull] at fits
    | _ => simp [Value.fits] at fits
  | _ => simp [integers?] at integers

/-- Each integer of its type is the number of a value of the column, be it the integer or an
alternative of the enumeration. -/
theorem exists_fits (integers : type.integers? = some t) (n : Word t) :
    ∃ v : Value, v.fits type = true ∧ v.number? = some n.val := by
  cases type with
  | int u =>
    obtain rfl := Option.some.inj integers
    exact ⟨.int u n, beq_self_eq_true u, rfl⟩
  | enum u =>
    obtain rfl := Option.some.inj integers
    exact ⟨.enum (.int u n), by simp [Value.fits, Value.isNull], rfl⟩
  | _ => simp [integers?] at integers

/-- A value that a column accepts is null and stored as null, or stands for a number that the column
stores a number for. -/
theorem stores_of_toStorage {v w : Value} (integers : type.integers? = some t)
    (accepted : type.toStorage v = .ok w) :
    v = .null ∧ w = .null ∨
      ∃ n stored, v.number? = some n ∧ w.number? = some stored ∧ type.Stores n stored := by
  obtain ⟨fits, same⟩ := toStorage_eq_ok.mp accepted
  rcases fits_cases integers fits with rfl | ⟨n, number, converted⟩
  · exact .inl ⟨rfl, same.symm⟩
  · have storedNumber : w.number? = some (t.storage.reduce n.val) := by
      rw [← same, converted]
      rfl
    exact .inr ⟨_, _, number, storedNumber, v, w, accepted, number, storedNumber⟩

/-- The numbers of a column are those of its integer type, each stored as the integer that its
signed type has for it. -/
theorem stores_iff (integers : type.integers? = some t) :
    type.Stores n stored ↔ t.Holds n ∧ t.storage.reduce n = stored := by
  constructor
  · rintro ⟨v, w, accepted, number, storedNumber⟩
    obtain ⟨fits, rfl⟩ := toStorage_eq_ok.mp accepted
    rcases fits_cases integers fits with rfl | ⟨word, ofWord, converted⟩
    · cases number
    · rw [converted] at storedNumber
      obtain rfl := Option.some.inj (ofWord.symm.trans number)
      exact ⟨word.holds, Option.some.inj storedNumber⟩
  · rintro ⟨holds, rfl⟩
    obtain ⟨v, fits, number⟩ := exists_fits integers ⟨n, holds⟩
    rcases fits_cases integers fits with rfl | ⟨word, ofWord, converted⟩
    · cases number
    · have same : n = word.val := Option.some.inj (number.symm.trans ofWord)
      refine ⟨v, v.toStorage, toStorage_eq_ok.mpr ⟨fits, rfl⟩, number, ?_⟩
      rw [converted, same]
      rfl

/-- A type has the caveat exactly if it has integers above the greatest of its column. -/
theorem hasPrecisionCaveat_iff (integers : type.integers? = some t) :
    type.hasPrecisionCaveat = true ↔ t.storage.greatest < t.greatest := by
  cases type with
  | int u | enum u =>
    obtain rfl := Option.some.inj integers
    cases u <;> decide
  | _ => simp [integers?] at integers

/-- A type map without an entry for a column of integers has a signed type for it that holds what is
stored in the column. -/
theorem exists_signed {m : TypeMap} (integers : type.integers? = some t)
    (plain : ∀ name ∈ TypeMap.entryNames type, m.overrides[name]? = none)
    (stores : type.Stores n stored) :
    ∃ sql bits, m.sqlType? type = some sql ∧ Sql.integerBits? sql = some bits ∧
      -(twoTo (bits - 1) : Int) ≤ stored ∧ stored < twoTo (bits - 1) := by
  obtain ⟨-, rfl⟩ := (stores_iff integers).mp stores
  have builtin : TypeMap.builtin? type = some (TypeMap.ofInt t) := by
    cases type with
    | int u | enum u =>
      obtain rfl := Option.some.inj integers
      rfl
    | _ => simp [integers?] at integers
  have resolved : m.sqlType? type = some (TypeMap.ofInt t) := by
    rw [TypeMap.sqlType?_eq_findSome?, List.findSome?_eq_none_iff.mpr plain, builtin]
    rfl
  exact ⟨_, _, resolved, t.integerBits?_ofInt,
    IntType.holds_storage_iff.mp (t.storage.holds_reduce n)⟩

/-- A type without the precision caveat stores each number as itself. -/
theorem stored_eq_self (integers : type.integers? = some t)
    (exact : type.hasPrecisionCaveat = false) (stores : type.Stores n stored) : stored = n := by
  obtain ⟨holds, rfl⟩ := (stores_iff integers).mp stores
  have below : ¬t.storage.greatest < t.greatest := by
    rw [← hasPrecisionCaveat_iff integers, exact]
    exact Bool.false_ne_true
  rw [IntType.reduce_storage holds, if_neg]
  exact fun above => below (Int.lt_of_lt_of_le above holds.2)

/-- With the caveat, zero is stored as itself and the greatest integer as a negative one. -/
theorem exists_reversed (integers : type.integers? = some t)
    (caveat : type.hasPrecisionCaveat = true) :
    ∃ stored, type.Stores 0 0 ∧ type.Stores t.greatest stored ∧ 0 < t.greatest ∧ stored < 0 := by
  have above := (hasPrecisionCaveat_iff integers).mp caveat
  obtain ⟨holdsZero, holdsGreatest, positive, lessThanCount, notNegative⟩ := t.holds_ends
  refine ⟨t.greatest - t.count, (stores_iff integers).mpr ⟨holdsZero, ?_⟩,
    (stores_iff integers).mpr ⟨holdsGreatest, ?_⟩, positive, Int.sub_neg_of_lt lessThanCount⟩
  · rw [IntType.reduce_storage holdsZero, if_neg (Int.not_lt.mpr notNegative)]
  · rw [IntType.reduce_storage holdsGreatest, if_pos above]

/-- A column of integers accepts null and all numbers of its type. It stores each number as one that
is congruent to it modulo `2 ^ bits`, in the range of the database type that the column has unless a
type map replaces it. A type without the caveat is exactly one of which every number is stored as
itself, and exactly one of which the order of any two numbers is kept. Of a type with the caveat
exactly the numbers above the greatest signed one change, and they are stored less `2 ^ bits`. -/
theorem precision_caveat_exact (integers : type.integers? = some t) :
    (∀ v w, type.toStorage v = .ok w → v = .null ∧ w = .null ∨
      ∃ n stored, v.number? = some n ∧ w.number? = some stored ∧ type.Stores n stored) ∧
    (∀ n, t.Holds n ↔ ∃ stored, type.Stores n stored) ∧
    (∀ n stored, type.Stores n stored →
      (twoTo t.bits : Int) ∣ n - stored ∧
      (∀ m : TypeMap, (∀ name ∈ TypeMap.entryNames type, m.overrides[name]? = none) →
        ∃ sql bits, m.sqlType? type = some sql ∧ Sql.integerBits? sql = some bits ∧
          -(twoTo (bits - 1) : Int) ≤ stored ∧ stored < twoTo (bits - 1)) ∧
      (type.hasPrecisionCaveat = true →
        stored = if (twoTo (t.bits - 1) : Int) ≤ n then n - twoTo t.bits else n)) ∧
    (type.hasPrecisionCaveat = false ↔ ∀ n stored, type.Stores n stored → stored = n) ∧
    (type.hasPrecisionCaveat = false ↔ ∀ n stored other storedOther,
      type.Stores n stored → type.Stores other storedOther →
        (n < other ↔ stored < storedOther)) := by
  refine ⟨fun v w => stores_of_toStorage integers, fun n => ?_, fun n stored stores => ?_, ?_, ?_⟩
  · simp only [stores_iff integers, exists_and_left, exists_eq', and_true]
  · obtain ⟨holds, same⟩ := (stores_iff integers).mp stores
    rw [IntType.reduce_storage holds, t.count_eq_twoTo] at same
    refine ⟨?_, fun m plain => exists_signed integers plain stores, fun caveat => ?_⟩
    · rw [← same]
      split
      · exact ⟨1, by omega⟩
      · exact ⟨0, by omega⟩
    · rw [← same]
      simp only [IntType.greatest_lt_iff ((hasPrecisionCaveat_iff integers).mp caveat)]
  · refine ⟨fun exact n stored => stored_eq_self integers exact, fun kept => ?_⟩
    -- With the caveat the greatest integer would be stored as a negative one.
    by_contra caveat
    obtain ⟨stored, -, stores, positive, negative⟩ :=
      exists_reversed integers (Bool.not_eq_false _ ▸ caveat)
    have same := kept _ _ stores
    omega
  · constructor
    · intro exact n stored other storedOther stores storesOther
      rw [stored_eq_self integers exact stores, stored_eq_self integers exact storesOther]
    · intro kept
      by_contra caveat
      obtain ⟨stored, storesZero, stores, positive, negative⟩ :=
        exists_reversed integers (Bool.not_eq_false _ ▸ caveat)
      have ordered := (kept _ _ _ _ storesZero stores).mp positive
      omega

/-- The greatest alternative of 64 bits is stored as the number before zero. -/
theorem precision_caveat_exact_greatest :
    (enum .u64).integers? = some .u64 ∧ (enum .u64).hasPrecisionCaveat = true ∧
      (enum .u64).Stores 18446744073709551615 (-1) ∧
      ¬∀ n stored, (enum .u64).Stores n stored → stored = n := by
  have integers : (enum .u64).integers? = some .u64 := rfl
  have caveat : (enum .u64).hasPrecisionCaveat = true := rfl
  obtain ⟨-, all, each, values, -⟩ := precision_caveat_exact integers
  obtain ⟨stored, stores⟩ := (all 18446744073709551615).mp (by decide)
  have below : stored = -1 := (each _ _ stores).2.2 caveat
  subst below
  refine ⟨integers, caveat, stores, fun kept => ?_⟩
  have exact := values.mpr kept
  rw [caveat] at exact
  cases exact

end ColumnType

end TableSql
