import TableSql.Proofs.Text.Lower
import TableSql.Proofs.Text.Trim

/-!
# Words one space apart

A text is `Spaced` if it is made of words with one space between two of them, so it neither begins
nor ends with a blank. That is what joining words gives (`spaced_intercalate`), and joining the
words of such a text gives it back (`Spaced.intercalate_words`). Lower case keeps the shape:
characters of words stay characters of words, and a space stays a space (`Spaced.lowerAfter`).
-/

namespace TableSql.Text

/-- Words with one space between two of them. There is at least one word, and no word is empty. -/
inductive Spaced : List Char → Prop
  | single {c : Char} (letter : isBlank c = false) : Spaced [c]
  | next {c : Char} {cs : List Char} (letter : isBlank c = false) (rest : Spaced cs) :
      Spaced (c :: cs)
  | gap {c : Char} {cs : List Char} (letter : isBlank c = false) (rest : Spaced cs) :
      Spaced (c :: ' ' :: cs)

/-- A word is not empty and has no blanks. -/
def IsWord (word : List Char) : Prop := word ≠ [] ∧ ∀ c ∈ word, isBlank c = false

instance (word : List Char) : Decidable (IsWord word) :=
  decidable_of_iff (word ≠ [] ∧ (word.all fun c => !isBlank c) = true) (by simp [IsWord])

/-! ## Joining -/

section

variable {cs word : List Char}

theorem Spaced.append (spaced : Spaced cs) (letters : ∀ c ∈ word, isBlank c = false) :
    Spaced (word ++ cs) := by
  induction word with
  | nil => exact spaced
  | cons c word ih =>
    obtain ⟨first, rest⟩ := List.forall_mem_cons.mp letters
    exact .next first (ih rest)

theorem IsWord.exists_last (isWord : IsWord word) :
    ∃ before last, word = before ++ [last] ∧ (∀ c ∈ before, isBlank c = false) ∧
      isBlank last = false := by
  obtain ⟨filled, letters⟩ := isWord
  obtain ⟨before, last, rfl⟩ := (List.eq_nil_or_concat word).resolve_left filled
  rw [List.concat_eq_append, List.forall_mem_append, List.forall_mem_singleton] at letters
  exact ⟨before, last, List.concat_eq_append, letters⟩

/-- A word, and a space before words that follow it. -/
theorem Spaced.append_gap (spaced : Spaced cs) (isWord : IsWord word) :
    Spaced (word ++ ' ' :: cs) := by
  obtain ⟨before, last, rfl, letters, letter⟩ := isWord.exists_last
  rw [List.append_assoc]
  exact (Spaced.gap letter spaced).append letters

theorem IsWord.spaced (isWord : IsWord word) : Spaced word := by
  obtain ⟨before, last, rfl, letters, letter⟩ := isWord.exists_last
  exact (Spaced.single letter).append letters

/-- Words are spaced when they are joined with a space between them. -/
theorem spaced_intercalate {ws : List (List Char)} (filled : ws ≠ []) (each : ∀ w ∈ ws, IsWord w) :
    Spaced ([' '].intercalate ws) := by
  induction ws with
  | nil => exact absurd rfl filled
  | cons w ws ih =>
    obtain ⟨first, rest⟩ := List.forall_mem_cons.mp each
    cases ws with
    | nil =>
      rw [List.intercalate_singleton]
      exact first.spaced
    | cons next ws =>
      rw [List.intercalate_cons_cons, List.append_assoc]
      exact (ih (List.cons_ne_nil _ _) rest).append_gap first

end

/-! ## Words -/

theorem isWord_singleton {c : Char} (letter : isBlank c = false) : IsWord [c] :=
  ⟨List.cons_ne_nil _ _, List.forall_mem_singleton.mpr letter⟩

/-- A text is cut into words. -/
theorem isWord_of_mem_words {cs : List Char} : ∀ w ∈ words cs, IsWord w := by
  fun_induction words cs with
  | case1 => exact fun _ member => absurd member List.not_mem_nil
  | case2 c cs blank ih => exact ih
  | case3 c letter =>
    exact List.forall_mem_singleton.mpr (isWord_singleton (Bool.eq_false_iff.mpr letter))
  | case4 c letter d cs blank ih =>
    exact List.forall_mem_cons.mpr ⟨isWord_singleton (Bool.eq_false_iff.mpr letter), ih⟩
  | case5 c letter d cs letter' none ih =>
    rw [none]
    exact List.forall_mem_singleton.mpr (isWord_singleton (Bool.eq_false_iff.mpr letter))
  | case6 c letter d cs letter' w ws some ih =>
    rw [some, List.forall_mem_cons] at ih
    obtain ⟨⟨-, letters⟩, others⟩ := ih
    rw [some]
    refine List.forall_mem_cons.mpr ⟨⟨List.cons_ne_nil _ _, ?_⟩, others⟩
    exact List.forall_mem_cons.mpr ⟨Bool.eq_false_iff.mpr letter, letters⟩

theorem Spaced.exists_cons {cs : List Char} (spaced : Spaced cs) :
    ∃ c rest, cs = c :: rest ∧ isBlank c = false := by
  cases spaced with
  | single letter => exact ⟨_, _, rfl, letter⟩
  | next letter _ => exact ⟨_, _, rfl, letter⟩
  | gap letter _ => exact ⟨_, _, rfl, letter⟩

/-- A text of words one space apart is made of its words. -/
theorem Spaced.intercalate_words {cs : List Char} (spaced : Spaced cs) :
    [' '].intercalate (words cs) = cs := by
  have space : isBlank ' ' = true := by decide
  induction spaced with
  | single letter => simp [words, letter]
  | @next c cs letter rest ih =>
    obtain ⟨d, ds, rfl, letter'⟩ := rest.exists_cons
    cases found : words (d :: ds) with
    | nil => simp [found] at ih
    | cons w ws =>
      rw [found] at ih
      have joined : words (c :: d :: ds) = (c :: w) :: ws := by
        rw [words]
        simp [letter, letter', found]
      rw [joined, ← ih]
      cases ws with
      | nil => simp
      | cons next ws => simp [List.intercalate_cons_cons]
  | @gap c cs letter rest ih =>
    obtain ⟨d, ds, rfl, letter'⟩ := rest.exists_cons
    have apart : words (c :: ' ' :: d :: ds) = [c] :: words (d :: ds) := by
      rw [words, words]
      simp [letter, space]
    cases found : words (d :: ds) with
    | nil => simp [found] at ih
    | cons w ws =>
      rw [apart, found, List.intercalate_cons_cons, ← found, ih]
      rfl

/-! ## Ends -/

/-- A spaced text ends with a character of a word. -/
theorem Spaced.not_isBlank_of_getLast? {cs : List Char} (spaced : Spaced cs) {c : Char}
    (last : cs.getLast? = some c) : isBlank c = false := by
  induction spaced with
  | single letter =>
    obtain rfl := Option.some.inj last
    exact letter
  | next letter rest ih | gap letter rest ih =>
    obtain ⟨d, ds, rfl, -⟩ := rest.exists_cons
    exact ih (by simpa using last)

/-- Only what stands before the first word is trimmed. -/
theorem Spaced.trim {cs lead : List Char} (spaced : Spaced cs)
    (blank : ∀ c ∈ lead, isBlank c = true) :
    trim (String.ofList (lead ++ cs)) = String.ofList cs := by
  obtain ⟨c, rest, rfl, letter⟩ := spaced.exists_cons
  rw [Text.trim, String.toList_ofList, List.dropWhile_append_of_pos blank,
    List.dropWhile_cons_of_neg (by simp [letter]),
    dropEndWhile_of_getLast? fun c last => spaced.not_isBlank_of_getLast? last]

/-- What follows the beginning of a word: nothing, more of the text, or a space and the next
word. -/
theorem Spaced.rest_cases {word rest : List Char} (spaced : Spaced (word ++ rest))
    (isWord : IsWord word) : rest = [] ∨ Spaced rest ∨ ∃ cs, rest = ' ' :: cs ∧ Spaced cs := by
  obtain ⟨filled, letters⟩ := isWord
  induction word with
  | nil => exact absurd rfl filled
  | cons c word ih =>
    obtain ⟨-, letters⟩ := List.forall_mem_cons.mp letters
    cases word with
    | nil =>
      cases spaced with
      | single letter => exact .inl rfl
      | next letter spaced => exact .inr (.inl spaced)
      | gap letter spaced => exact .inr (.inr ⟨_, rfl, spaced⟩)
    | cons d word =>
      cases spaced with
      | next letter spaced => exact ih spaced (List.cons_ne_nil _ _) letters
      | gap letter spaced =>
        have blank : isBlank ' ' = false := letters ' ' List.mem_cons_self
        exact absurd blank (by decide)

/-! ## Lower case -/

/-- Lower case keeps words and the spaces between them. -/
theorem Spaced.lowerAfter {cs : List Char} (spaced : Spaced cs) (before : List Char) :
    Spaced (lowerAfter before cs) := by
  induction spaced generalizing before with
  | @single c letter =>
    obtain ⟨small, split, lowers⟩ := exists_lowers before c []
    rw [split]
    have isWord : IsWord small := ⟨lowers.filled, lowers.letters letter⟩
    exact (List.append_nil small).symm ▸ isWord.spaced
  | @next c cs letter _ ih =>
    obtain ⟨small, split, lowers⟩ := exists_lowers before c cs
    rw [split]
    exact (ih _).append (lowers.letters letter)
  | @gap c cs letter _ ih =>
    obtain ⟨small, split, lowers⟩ := exists_lowers before c (' ' :: cs)
    obtain ⟨space, splitRest, lowersSpace⟩ := exists_lowers (c :: before) ' ' cs
    have same : space = [' '] := lowersSpace.same (by decide +kernel)
    rw [split, splitRest, same]
    exact (ih _).append_gap ⟨lowers.filled, lowers.letters letter⟩

end TableSql.Text
