import Mathlib.Data.Nat.ModEq
import TableSql.Text.Blank
import TableSql.Text.Lower

/-!
# Lower case is final

What is in lower case has no capital letters left, so it is its own lower case
(`lowerAfter_of_isSmall`). For the characters of the table that is a fact about its runs: the small
forms of a run miss every run (`misses_capitalRuns`), by lying outside of it or between its steps.
The other two rules, for `İ` and `Σ`, give small characters too, and a sigma that was decided by
what stands around it is not decided again, since neither form of it is a capital.

The small forms keep clear of the blanks as well, so no character of a word becomes one.
-/

namespace TableSql.Text

/-! ## Runs -/

namespace CapitalRun

/-- The first small form of the run. -/
def low (r : CapitalRun) : Nat := (r.first + r.shift).toNat

/-- The last small form of the run. -/
def high (r : CapitalRun) : Nat := (r.last + r.shift).toNat

/-- Whether the small forms of the run lie outside of a range. -/
def avoids (r : CapitalRun) (range : Nat × Nat) : Bool := r.high.blt range.1 || range.2.blt r.low

/-- Whether the small forms of the run lie outside of another run, or between its steps. -/
def misses (r q : CapitalRun) : Bool :=
  r.avoids (q.first, q.last) ||
    (r.step % q.step == 0 || r.low == r.high) && r.low % q.step != q.first % q.step

variable {r q : CapitalRun} {n m : Nat}

theorem has_iff : r.has n = true ↔ r.first ≤ n ∧ n ≤ r.last ∧ (n - r.first) % r.step = 0 := by
  simp [has, and_assoc]

/-- The small form of a capital letter of the run is as far from the first one as the letter. -/
theorem exists_small (start : 0 ≤ r.first + r.shift) (capital : r.has n = true)
    (small : (m : Int) = n + r.shift) : m = r.low + (n - r.first) ∧ m ≤ r.high := by
  obtain ⟨lower, upper, -⟩ := has_iff.mp capital
  unfold low high
  omega

theorem not_mem_of_avoids {range : Nat × Nat} (avoids : r.avoids range = true) (lower : r.low ≤ m)
    (upper : m ≤ r.high) : ¬(range.1 ≤ m ∧ m ≤ range.2) := by
  simp only [CapitalRun.avoids, Bool.or_eq_true, Nat.blt_eq] at avoids
  omega

/-- No small form of a run is a capital of a run that it misses, be it that they lie outside of it
or between its steps. -/
theorem not_has_of_misses (misses : r.misses q = true) (start : 0 ≤ r.first + r.shift)
    (capital : r.has n = true) (small : (m : Int) = n + r.shift) : q.has m = false := by
  obtain ⟨fromLow, upper⟩ := exists_small start capital small
  have lower : r.low ≤ m := fromLow ▸ Nat.le_add_right _ _
  rw [Bool.eq_false_iff]
  intro again
  obtain ⟨lower', upper', onStep'⟩ := has_iff.mp again
  simp only [CapitalRun.misses, Bool.or_eq_true, Bool.and_eq_true, beq_iff_eq, bne_iff_ne] at misses
  rcases misses with outside | ⟨steps, between⟩
  · exact not_mem_of_avoids outside lower upper ⟨lower', upper'⟩
  · -- The small form is on a step of the other run, and so is the first one with it.
    have toFirst : q.step ∣ m - r.low := by
      rcases steps with divides | single
      · obtain ⟨-, -, onStep⟩ := has_iff.mp capital
        have distance : m - r.low = n - r.first := by omega
        rw [distance]
        exact Nat.dvd_trans (Nat.dvd_of_mod_eq_zero divides) (Nat.dvd_of_mod_eq_zero onStep)
      · have first : m - r.low = 0 := by omega
        rw [first]
        exact Nat.dvd_zero _
    apply between
    calc r.low % q.step = m % q.step :=
          ((Nat.modEq_iff_dvd' lower).mpr toFirst)
      _ = q.first % q.step :=
          ((Nat.modEq_iff_dvd' lower').mpr (Nat.dvd_of_mod_eq_zero onStep')).symm

end CapitalRun

/-- The blanks, the capital that has a rule of its own, and what is no character. -/
def outOfReach : Ranges := (0x130, 0x130) :: (0xD800, 0xDFFF) :: blanks

/-- The small forms of the table are characters out of reach of the other rules. -/
theorem avoids_outOfReach : ∀ r ∈ capitalRuns,
    0 ≤ r.first + r.shift ∧ r.high < 0x110000 ∧ ∀ range ∈ outOfReach, r.avoids range = true := by
  decide +kernel

theorem all_misses : (capitalRuns.all fun r => capitalRuns.all r.misses) = true := by
  decide +kernel

/-- No small form of the table is a capital letter of it. -/
theorem misses_capitalRuns {r q : CapitalRun} (hr : r ∈ capitalRuns) (hq : q ∈ capitalRuns) :
    r.misses q = true :=
  List.all_eq_true.mp (List.all_eq_true.mp all_misses r hr) q hq

/-! ## Characters -/

/-- A character that is its own lower case. -/
structure IsSmall (c : Char) : Prop where
  noCapital : ∀ r ∈ capitalRuns, r.has c.toNat = false
  noDotted : c ≠ 'İ'

instance (c : Char) : Decidable (IsSmall c) :=
  decidable_of_iff ((∀ r ∈ capitalRuns, r.has c.toNat = false) ∧ c ≠ 'İ')
    ⟨fun both => ⟨both.1, both.2⟩, fun small => ⟨small.noCapital, small.noDotted⟩⟩

theorem ne_sigma_of_isSmall {c : Char} (small : IsSmall c) : c ≠ 'Σ' := by
  rintro rfl
  exact absurd small (by decide +kernel)

/-- The lower case of a character of the table is the one that its run has for it. -/
theorem lowerOne_cases (c : Char) :
    (∀ r ∈ capitalRuns, r.has c.toNat = false) ∧ lowerOne c = c ∨
      ∃ r ∈ capitalRuns, r.has c.toNat = true ∧ ((lowerOne c).toNat : Int) = c.toNat + r.shift := by
  cases found : capitalRuns.find? (·.has c.toNat) with
  | none =>
    refine .inl ⟨fun r member => ?_, by simp [lowerOne, found]⟩
    exact Bool.eq_false_iff.mpr (List.find?_eq_none.mp found r member)
  | some r =>
    have member := List.mem_of_find?_eq_some found
    have capital : r.has c.toNat = true := by simpa using List.find?_some found
    obtain ⟨start, finish, avoids⟩ := avoids_outOfReach r member
    have natural : ((c.toNat + r.shift).toNat : Int) = c.toNat + r.shift := by
      obtain ⟨lower, -, -⟩ := CapitalRun.has_iff.mp capital
      omega
    obtain ⟨fromLow, upper⟩ := CapitalRun.exists_small start capital natural
    have noSurrogate := CapitalRun.not_mem_of_avoids
      (avoids (0xD800, 0xDFFF) (List.mem_cons_of_mem _ List.mem_cons_self))
      (fromLow ▸ Nat.le_add_right _ _) upper
    have valid : (c.toNat + r.shift).toNat.isValidChar := by
      unfold Nat.isValidChar
      omega
    refine .inr ⟨r, member, capital, ?_⟩
    simp only [lowerOne, found]
    rw [Char.ofNat, dif_pos valid]
    exact natural

/-- What a capital letter of the table becomes is out of reach of all rules. -/
theorem not_mem_outOfReach {c : Char} {r : CapitalRun} (member : r ∈ capitalRuns)
    (capital : r.has c.toNat = true) (small : ((lowerOne c).toNat : Int) = c.toNat + r.shift)
    {range : Nat × Nat} (reach : range ∈ outOfReach) :
    ¬(range.1 ≤ (lowerOne c).toNat ∧ (lowerOne c).toNat ≤ range.2) := by
  obtain ⟨start, -, avoids⟩ := avoids_outOfReach r member
  obtain ⟨fromLow, upper⟩ := CapitalRun.exists_small start capital small
  exact CapitalRun.not_mem_of_avoids (avoids range reach) (fromLow ▸ Nat.le_add_right _ _) upper

theorem isSmall_lowerOne {c : Char} (plain : c ≠ 'İ') : IsSmall (lowerOne c) := by
  rcases lowerOne_cases c with ⟨noCapital, same⟩ | ⟨r, member, capital, small⟩
  · rw [same]
    exact ⟨noCapital, plain⟩
  · refine ⟨fun q other => ?_, fun dotted => ?_⟩
    · exact CapitalRun.not_has_of_misses (misses_capitalRuns member other)
        (avoids_outOfReach r member).1 capital small
    · apply not_mem_outOfReach member capital small List.mem_cons_self
      rw [dotted]
      decide

theorem lowerOne_of_isSmall {c : Char} (small : IsSmall c) : lowerOne c = c := by
  rcases lowerOne_cases c with ⟨-, same⟩ | ⟨r, member, capital, -⟩
  · exact same
  · rw [small.noCapital r member] at capital
    exact absurd capital Bool.false_ne_true

theorem isBlank_lowerOne {c : Char} (letter : isBlank c = false) :
    isBlank (lowerOne c) = false := by
  rcases lowerOne_cases c with ⟨-, same⟩ | ⟨r, member, capital, small⟩
  · rw [same]
    exact letter
  · rw [isBlank, Ranges.has, List.any_eq_false]
    intro range blank
    have outside := not_mem_outOfReach member capital small
      (List.mem_cons_of_mem _ (List.mem_cons_of_mem _ blank))
    simpa using outside

/-! ## ASCII -/

/-- Whether a character is a visible one of ASCII, and no capital letter. -/
def isPlain (c : Char) : Bool :=
  0x21 ≤ c.toNat && c.toNat ≤ 0x7E && !(0x41 ≤ c.toNat && c.toNat ≤ 0x5A)

theorem ascii_capitalRuns :
    (∃ r ∈ capitalRuns, r.first = 0x41 ∧ r.last = 0x5A ∧ r.step = 1) ∧
      ∀ r ∈ capitalRuns, 0x41 ≤ r.first ∧ r.last ≤ 0x5A ∨ 0x80 ≤ r.first := by
  decide +kernel

/-- A visible character of ASCII is small unless it is a capital letter. -/
theorem isSmall_of_isPlain {c : Char} (plain : isPlain c = true) : IsSmall c := by
  simp only [isPlain, Bool.and_eq_true, decide_eq_true_eq, Bool.not_eq_true',
    Bool.and_eq_false_iff, decide_eq_false_iff_not] at plain
  constructor
  · intro r member
    rw [Bool.eq_false_iff]
    intro capital
    obtain ⟨lower, upper, -⟩ := CapitalRun.has_iff.mp capital
    have ascii := ascii_capitalRuns.2 r member
    omega
  · rintro rfl
    exact absurd plain.1.2 (by decide)

theorem isBlank_of_isPlain {c : Char} (plain : isPlain c = true) : isBlank c = false := by
  simp only [isPlain, Bool.and_eq_true, decide_eq_true_eq] at plain
  rw [isBlank, Ranges.has, List.any_eq_false]
  intro range blank
  have outside : ∀ range ∈ blanks, range.2 < 0x21 ∨ 0x7E < range.1 := by decide
  have apart := outside range blank
  simp only [Bool.and_eq_true, decide_eq_true_eq]
  omega

/-- The letters `A` to `Z` are not small. -/
theorem toLower_of_isSmall {c : Char} (small : IsSmall c) : c.toLower = c := by
  obtain ⟨⟨r, member, first, last, step⟩, -⟩ := ascii_capitalRuns
  have noCapital : ¬r.has c.toNat = true := Bool.eq_false_iff.mp (small.noCapital r member)
  rw [CapitalRun.has_iff, first, last, step] at noCapital
  refine dif_neg ?_
  rintro ⟨lower, upper⟩
  exact noCapital ⟨UInt32.le_iff_toNat_le.mp lower, UInt32.le_iff_toNat_le.mp upper, Nat.mod_one _⟩

theorem lowerAscii_of_isSmall {cs : List Char} (small : ∀ c ∈ cs, IsSmall c) :
    lowerAscii (String.ofList cs) = String.ofList cs := by
  have same : cs.map Char.toLower = cs.map id :=
    List.map_congr_left fun c member => toLower_of_isSmall (small c member)
  rw [lowerAscii, String.toList_ofList, same, List.map_id]

/-! ## Texts -/

/-- What is known of the lower case of one character in a text. -/
structure Lowers (c : Char) (small : List Char) : Prop where
  filled : small ≠ []
  isSmall : ∀ d ∈ small, IsSmall d
  letters : isBlank c = false → ∀ d ∈ small, isBlank d = false
  same : IsSmall c → small = [c]

theorem lowers_lowerOne {c : Char} (plain : c ≠ 'İ') : Lowers c [lowerOne c] where
  filled := List.cons_ne_nil _ _
  isSmall := List.forall_mem_singleton.mpr (isSmall_lowerOne plain)
  letters letter := List.forall_mem_singleton.mpr (isBlank_lowerOne letter)
  same small := by rw [lowerOne_of_isSmall small]

theorem lowers_dotted : Lowers 'İ' ['i', '\u0307'] where
  filled := List.cons_ne_nil _ _
  isSmall := List.forall_mem_cons.mpr
    ⟨by decide +kernel, List.forall_mem_singleton.mpr (by decide +kernel)⟩
  letters _ := List.forall_mem_cons.mpr ⟨by decide, List.forall_mem_singleton.mpr (by decide)⟩
  same small := absurd rfl small.noDotted

/-- Both forms of a sigma are small. -/
theorem lowers_sigma (before after : List Char) : Lowers 'Σ' [lowerSigma before after] where
  filled := List.cons_ne_nil _ _
  isSmall := by
    rw [List.forall_mem_singleton, lowerSigma]
    split <;> decide +kernel
  letters _ := by
    rw [List.forall_mem_singleton, lowerSigma]
    split <;> decide
  same small := absurd rfl (ne_sigma_of_isSmall small)

/-- Lower case goes character by character. -/
theorem exists_lowers (before : List Char) (c : Char) (cs : List Char) :
    ∃ small, lowerAfter before (c :: cs) = small ++ lowerAfter (c :: before) cs ∧
      Lowers c small := by
  refine ⟨_, rfl, ?_⟩
  by_cases sigma : c = 'Σ'
  · subst sigma
    exact lowers_sigma before cs
  · by_cases dotted : c = 'İ'
    · subst dotted
      exact lowers_dotted
    · rw [if_neg sigma, if_neg dotted]
      exact lowers_lowerOne dotted

/-- All that is in lower case is small. -/
theorem isSmall_of_mem_lowerAfter {before cs : List Char} :
    ∀ c ∈ lowerAfter before cs, IsSmall c := by
  induction cs generalizing before with
  | nil => exact fun _ member => absurd member List.not_mem_nil
  | cons c cs ih =>
    obtain ⟨small, split, lowers⟩ := exists_lowers before c cs
    rw [split]
    exact List.forall_mem_append.mpr ⟨lowers.isSmall, ih⟩

/-- What is small is its own lower case. -/
theorem lowerAfter_of_isSmall {before cs : List Char} (small : ∀ c ∈ cs, IsSmall c) :
    lowerAfter before cs = cs := by
  induction cs generalizing before with
  | nil => rfl
  | cons c cs ih =>
    obtain ⟨first, rest⟩ := List.forall_mem_cons.mp small
    obtain ⟨_, split, lowers⟩ := exists_lowers before c cs
    rw [split, lowers.same first, ih rest, List.singleton_append]

end TableSql.Text
