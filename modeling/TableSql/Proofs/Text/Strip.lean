import TableSql.Proofs.Text.Trim

/-!
# Marks at the end of a text

Some texts of SQL end in a mark that the statement around them sets itself: a raw clause in a comma,
a condition in a semicolon. `strip` trims such a text, drops the marks at its end, and then the
blanks before those. It does each once, so of marks with blanks between them it drops the last run
alone, and a mark is left at the end (`getLast?_strip`). In all other texts nothing is left of the
blanks and marks at the end (`toList_strip`), and stripping again changes nothing (`strip_strip`).
-/

namespace TableSql.Text

/-- The text without the blanks around it, the marks at its end and the blanks before those. -/
def strip (mark : Char) (s : String) : String := trimEnd (trimEndOf (· == mark) (trim s))

/-- What may be dropped at the end of a text: blanks, and marks of one kind. -/
def isFiller (mark c : Char) : Bool := isBlank c || c == mark

/-- Among the blanks and marks that end a text, a blank stands between two marks. -/
def Scattered (mark : Char) (s : String) : Prop :=
  ∃ before ending, s.toList = before ++ ending ∧ (∀ c ∈ ending, isFiller mark c = true) ∧
    ∃ blank, isBlank blank = true ∧ [mark, blank, mark].Sublist ending

theorem isFiller_of_isBlank {mark c : Char} (blank : isBlank c = true) :
    isFiller mark c = true := by
  rw [isFiller, blank, Bool.true_or]

theorem isFiller_self (mark : Char) : isFiller mark mark = true := by
  rw [isFiller, beq_self_eq_true, Bool.or_true]

/-! ## What is left, and what is dropped -/

/-- The parts of a text that is stripped: what is left of it, the blanks before that, and after it
the blanks before the last run of marks, that run, and the blanks after it. -/
structure Parts (mark : Char) (s : String) (lead kept gap run rest : List Char) : Prop where
  whole : s.toList = lead ++ kept ++ (gap ++ run ++ rest)
  /-- Before the last step the blanks before the run are still there. -/
  unmarked : (trimEndOf (· == mark) (trim s)).toList = kept ++ gap
  blankLead : ∀ c ∈ lead, isBlank c = true
  blankGap : ∀ c ∈ gap, isBlank c = true
  marks : ∀ c ∈ run, c = mark
  blankRest : ∀ c ∈ rest, isBlank c = true
  begins : ∀ c, kept.head? = some c → isBlank c = false
  ends : ∀ c, kept.getLast? = some c → isBlank c = false
  /-- A mark is left at the end only before a blank and a mark that are dropped. -/
  leaves : kept.getLast? = some mark → gap ≠ [] ∧ run ≠ []

/-- Every text has such parts, where what is left of it is what `strip` leaves. They come of the
three steps, each of which drops something at an end. -/
theorem exists_parts (mark : Char) (s : String) :
    ∃ lead gap run rest, Parts mark s lead (strip mark s).toList gap run rest := by
  obtain ⟨rest, outer, blankRest⟩ := dropEndWhile_eq isBlank (s.toList.dropWhile isBlank)
  obtain ⟨run, middle, marks⟩ := dropEndWhile_eq (· == mark) (trim s).toList
  obtain ⟨gap, inner, blankGap⟩ :=
    dropEndWhile_eq isBlank (trimEndOf (· == mark) (trim s)).toList
  have kept : (strip mark s).toList =
      dropEndWhile isBlank (trimEndOf (· == mark) (trim s)).toList := toList_trimEndOf _ _
  rw [← kept] at inner
  rw [← toList_trimEndOf, inner] at middle
  rw [← toList_trim, middle] at outer
  refine ⟨s.toList.takeWhile isBlank, gap, run, rest, ?_⟩
  constructor
  case whole =>
    calc s.toList = s.toList.takeWhile isBlank ++ s.toList.dropWhile isBlank :=
          List.takeWhile_append_dropWhile.symm
      _ = s.toList.takeWhile isBlank ++ (strip mark s).toList ++ (gap ++ run ++ rest) := by
          rw [outer]
          simp only [List.append_assoc]
  case unmarked => exact inner
  case blankLead => exact fun c member => List.mem_takeWhile_imp member
  case blankGap => exact blankGap
  case marks => exact fun c member => beq_iff_eq.mp (marks c member)
  case blankRest => exact blankRest
  case begins =>
    intro c head
    exact not_isBlank_of_head?_trim (head?_of_trimEndOf (head?_of_trimEndOf head))
  case ends =>
    intro c last
    rw [kept] at last
    exact not_of_getLast?_dropEndWhile last
  case leaves =>
    intro last
    have filled : gap ≠ [] := by
      rintro rfl
      rw [← List.append_nil (strip mark s).toList, ← inner, toList_trimEndOf] at last
      exact absurd (not_of_getLast?_dropEndWhile last) (by simp)
    refine ⟨filled, ?_⟩
    rintro rfl
    -- The trimmed text would end in the gap, which is blank.
    obtain ⟨before, c, rfl⟩ := (List.eq_nil_or_concat gap).resolve_left filled
    rw [List.concat_eq_append] at middle blankGap
    have ended : (trim s).toList.getLast? = some c := by
      rw [middle]
      simp
    rw [toList_trim] at ended
    have blank := blankGap c (List.mem_append_right _ (List.mem_singleton_self c))
    rw [not_of_getLast?_dropEndWhile ended] at blank
    exact Bool.false_ne_true blank

section

variable {mark : Char} {s : String} {lead kept gap run rest : List Char}

theorem Parts.filler (parts : Parts mark s lead kept gap run rest) :
    ∀ c ∈ gap ++ run ++ rest, isFiller mark c = true := by
  rw [List.forall_mem_append, List.forall_mem_append]
  refine ⟨⟨?_, ?_⟩, ?_⟩
  · exact fun c member => isFiller_of_isBlank (parts.blankGap c member)
  · exact fun c member => parts.marks c member ▸ isFiller_self mark
  · exact fun c member => isFiller_of_isBlank (parts.blankRest c member)

/-- In one run of marks between blanks, no blank stands between two marks. -/
theorem not_sublist_of_one_run {blank : Char} (apart : isBlank mark = false)
    (isBlank_blank : isBlank blank = true) (blankGap : ∀ c ∈ gap, isBlank c = true)
    (marks : ∀ c ∈ run, c = mark) (blankRest : ∀ c ∈ rest, isBlank c = true) :
    ¬[mark, blank, mark].Sublist (gap ++ run ++ rest) := by
  have noMark {cs : List Char} (blanks : ∀ c ∈ cs, isBlank c = true) : mark ∉ cs := by
    intro member
    rw [blanks mark member] at apart
    exact Bool.false_ne_true apart.symm
  intro sublist
  obtain ⟨front, back, split, inFront, inRest⟩ := List.sublist_append_iff.mp sublist
  obtain ⟨first, middle, rfl, inGap, inRun⟩ := List.sublist_append_iff.mp inFront
  -- Both marks are in the run, and so is the blank between them.
  cases first with
  | cons c first =>
    simp only [List.cons_append, List.cons.injEq] at split
    exact noMark blankGap (inGap.subset (split.1 ▸ List.mem_cons_self))
  | nil =>
    cases middle with
    | nil =>
      simp only [List.nil_append] at split
      exact noMark blankRest (inRest.subset (split ▸ List.mem_cons_self))
    | cons c middle =>
      simp only [List.nil_append, List.cons_append, List.cons.injEq] at split
      cases middle with
      | nil =>
        obtain rfl : [blank, mark] = back := split.2
        exact noMark blankRest (inRest.subset (List.mem_cons_of_mem _ List.mem_cons_self))
      | cons d middle =>
        simp only [List.cons_append, List.cons.injEq] at split
        have same : blank = mark :=
          marks blank (inRun.subset (split.2.1 ▸ List.mem_cons_of_mem _ List.mem_cons_self))
        rw [same, apart] at isBlank_blank
        exact Bool.false_ne_true isBlank_blank

/-- What ends a text and is nothing but blanks and marks goes no further back than to the last
character that is neither. -/
theorem suffix_of_filler {before ending front back : List Char}
    (same : front ++ back = before ++ ending) (filler : ∀ c ∈ ending, isFiller mark c = true)
    (stops : ∀ c, front.getLast? = some c → isFiller mark c = false) : ending <:+ back := by
  rcases List.append_eq_append_iff.mp same with ⟨more, -, split⟩ | ⟨more, split, rest⟩
  · exact ⟨more, split.symm⟩
  · rcases List.eq_nil_or_concat more with rfl | ⟨more, c, rfl⟩
    · exact ⟨[], rest⟩
    · have last : front.getLast? = some c := by simp [split]
      have isEnding : c ∈ ending := by simp [rest]
      have filled := filler c isEnding
      rw [stops c last] at filled
      exact absurd filled Bool.false_ne_true

/-- What is left ends with a character that would not be dropped, if it does not end with a mark. -/
theorem Parts.stops (parts : Parts mark s lead kept gap run rest)
    (unmarked : kept.getLast? ≠ some mark) :
    ∀ c, kept.getLast? = some c → isFiller mark c = false := by
  intro c last
  have other : c ≠ mark := by
    rintro rfl
    exact unmarked last
  rw [isFiller, parts.ends c last, Bool.false_or, beq_eq_false_iff_ne]
  exact other

/-- A mark is left at the end of exactly the texts in which a blank stands between two marks
there. -/
theorem Parts.getLast?_eq_mark (parts : Parts mark s lead kept gap run rest)
    (apart : isBlank mark = false) : kept.getLast? = some mark ↔ Scattered mark s := by
  constructor
  · intro last
    obtain ⟨gapFilled, runFilled⟩ := parts.leaves last
    obtain ⟨before, rfl⟩ := List.getLast?_eq_some_iff.mp last
    obtain ⟨blank, moreGap, rfl⟩ := List.exists_cons_of_ne_nil gapFilled
    obtain ⟨c, moreRun, rfl⟩ := List.exists_cons_of_ne_nil runFilled
    obtain rfl := parts.marks c List.mem_cons_self
    refine ⟨lead ++ before, c :: (blank :: moreGap ++ c :: moreRun ++ rest), ?_, ?_, blank, ?_, ?_⟩
    · rw [parts.whole]
      simp only [List.append_assoc, List.singleton_append]
    · exact List.forall_mem_cons.mpr ⟨isFiller_self c, parts.filler⟩
    · exact parts.blankGap blank List.mem_cons_self
    · simp
  · rintro ⟨before, ending, split, filler, blank, isBlank_blank, sublist⟩
    by_contra unmarked
    have stops := parts.stops unmarked
    rw [parts.whole] at split
    cases kept with
    | nil =>
      -- Nothing is left, so all of the text is blanks and one run of marks.
      rw [List.append_nil, ← List.append_assoc, ← List.append_assoc] at split
      have suffix : ending <:+ lead ++ gap ++ run ++ rest := ⟨before, split.symm⟩
      exact not_sublist_of_one_run apart isBlank_blank
        (List.forall_mem_append.mpr ⟨parts.blankLead, parts.blankGap⟩) parts.marks parts.blankRest
        (sublist.trans suffix.sublist)
    | cons c kept =>
      have suffix := suffix_of_filler split filler (by simpa using stops)
      exact not_sublist_of_one_run apart isBlank_blank parts.blankGap parts.marks parts.blankRest
        (sublist.trans suffix.sublist)

/-- If no mark is left at the end, nothing is left of the blanks and marks there. -/
theorem Parts.kept_eq (parts : Parts mark s lead kept gap run rest)
    (unmarked : kept.getLast? ≠ some mark) :
    kept = (dropEndWhile (isFiller mark) s.toList).dropWhile isBlank := by
  rw [parts.whole, dropEndWhile_append parts.filler]
  cases kept with
  | nil =>
    rw [List.append_nil, dropEndWhile_of_all]
    · rfl
    · exact fun c member => isFiller_of_isBlank (parts.blankLead c member)
  | cons c kept =>
    rw [dropEndWhile_of_getLast? (by simpa using parts.stops unmarked),
      List.dropWhile_append_of_pos parts.blankLead,
      List.dropWhile_cons_of_neg (by simp [parts.begins c rfl])]

end

/-! ## What is known of the text that is left -/

section

variable {mark : Char} {s : String}

theorem trimmed_strip (mark : Char) (s : String) : Trimmed (strip mark s) := by
  obtain ⟨_, _, _, _, parts⟩ := exists_parts mark s
  exact ⟨parts.begins, parts.ends⟩

/-- What is left is part of the text, between blanks on the one side and blanks and marks on the
other. -/
theorem toList_eq_strip (mark : Char) (s : String) :
    ∃ before after, s.toList = before ++ (strip mark s).toList ++ after ∧
      (∀ c ∈ before, isBlank c = true) ∧ ∀ c ∈ after, isFiller mark c = true := by
  obtain ⟨before, _, _, _, parts⟩ := exists_parts mark s
  exact ⟨before, _, parts.whole, parts.blankLead, parts.filler⟩

/-- A text with no blank at its start and no blank or mark at its end stays as it is. -/
theorem strip_of_ends (begins : ∀ c, s.toList.head? = some c → isBlank c = false)
    (ends : ∀ c, s.toList.getLast? = some c → isFiller mark c = false) : strip mark s = s := by
  have notBlank (c : Char) (last : s.toList.getLast? = some c) : isBlank c = false :=
    (Bool.or_eq_false_iff.mp (ends c last)).1
  have notMark (c : Char) (last : s.toList.getLast? = some c) : (c == mark) = false :=
    (Bool.or_eq_false_iff.mp (ends c last)).2
  have started : s.toList.dropWhile isBlank = s.toList := by
    cases same : s.toList with
    | nil => rfl
    | cons c cs => rw [List.dropWhile_cons_of_neg (by simp [begins c (by simp [same])])]
  rw [← String.toList_inj, strip, trimEnd, toList_trimEndOf, toList_trimEndOf, toList_trim, started,
    dropEndWhile_of_getLast? notBlank, dropEndWhile_of_getLast? notMark,
    dropEndWhile_of_getLast? notBlank]

/-- Where a mark is left at the end, stripping again drops it. -/
theorem strip_ne_self (marked : (strip mark s).toList.getLast? = some mark) : strip mark s ≠ s := by
  intro same
  obtain ⟨lead, gap, run, rest, parts⟩ := exists_parts mark s
  obtain ⟨filled, -⟩ := parts.leaves marked
  have length := congrArg List.length parts.whole
  rw [same] at length
  simp only [List.length_append] at length
  have positive := List.length_pos_iff.mpr filled
  omega

theorem Scattered.append (scattered : Scattered mark s) {ending : String}
    (filler : ∀ c ∈ ending.toList, isFiller mark c = true) : Scattered mark (s ++ ending) := by
  obtain ⟨before, last, split, isFiller_last, blank, isBlank_blank, sublist⟩ := scattered
  refine ⟨before, last ++ ending.toList, ?_, ?_, blank, isBlank_blank, ?_⟩
  · rw [String.toList_append, split, List.append_assoc]
  · exact List.forall_mem_append.mpr ⟨isFiller_last, filler⟩
  · exact sublist.trans (List.sublist_append_left _ _)

variable (apart : isBlank mark = false)

include apart

theorem getLast?_strip : (strip mark s).toList.getLast? = some mark ↔ Scattered mark s := by
  obtain ⟨_, _, _, _, parts⟩ := exists_parts mark s
  exact parts.getLast?_eq_mark apart

theorem toList_strip (once : ¬Scattered mark s) :
    (strip mark s).toList = (dropEndWhile (isFiller mark) s.toList).dropWhile isBlank := by
  obtain ⟨_, _, _, _, parts⟩ := exists_parts mark s
  exact parts.kept_eq fun last => once ((parts.getLast?_eq_mark apart).mp last)

/-- Nothing is left of blanks and marks, unless a blank stands between two marks. -/
theorem strip_eq_empty_iff :
    strip mark s = "" ↔ (∀ c ∈ s.toList, isFiller mark c = true) ∧ ¬Scattered mark s := by
  obtain ⟨lead, gap, run, rest, parts⟩ := exists_parts mark s
  rw [← parts.getLast?_eq_mark apart, ← String.toList_inj, String.toList_empty]
  constructor
  · intro empty
    refine ⟨?_, by simp [empty]⟩
    rw [parts.whole, empty, List.append_nil, List.forall_mem_append]
    exact ⟨fun c member => isFiller_of_isBlank (parts.blankLead c member), parts.filler⟩
  · rintro ⟨filler, unmarked⟩
    by_contra filled
    obtain ⟨before, c, split⟩ := (List.eq_nil_or_concat _).resolve_left filled
    have last : (strip mark s).toList.getLast? = some c := by simp [split]
    have member : c ∈ s.toList := by
      rw [parts.whole]
      exact List.mem_append_left _ (List.mem_append_right _ (List.mem_of_getLast? last))
    have filled := filler c member
    rw [parts.stops unmarked c last] at filled
    exact Bool.false_ne_true filled

/-- Stripping again changes nothing exactly if no blank stands between two marks. -/
theorem strip_strip : strip mark (strip mark s) = strip mark s ↔ ¬Scattered mark s := by
  rw [← getLast?_strip apart]
  constructor
  · intro same marked
    have again : (strip mark (strip mark s)).toList.getLast? = some mark := by
      rw [same]
      exact marked
    exact strip_ne_self again same
  · intro unmarked
    obtain ⟨_, _, _, _, parts⟩ := exists_parts mark s
    exact strip_of_ends parts.begins (parts.stops unmarked)

/-- Blanks and marks may be added at the end, as long as no blank is then between two marks. -/
theorem strip_append {ending : String} (filler : ∀ c ∈ ending.toList, isFiller mark c = true)
    (once : ¬Scattered mark (s ++ ending)) : strip mark (s ++ ending) = strip mark s := by
  have before : ¬Scattered mark s := fun scattered => once (scattered.append filler)
  rw [← String.toList_inj, toList_strip apart once, toList_strip apart before,
    String.toList_append, dropEndWhile_append filler]

end

end TableSql.Text
