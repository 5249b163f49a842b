import TableSql.Sql.Delimited

/-!
# Quoted text reads back

What was put between quotes is taken out of them again, whatever characters it has and whatever
follows, as long as what follows does not begin with the quote (`delimited?_eq_some_iff`). So no
text reaches out of its quotes, and a list of quoted names is read as the names that were put into
it (`quotedNames?_eq_some_iff`): two lists are never written alike.
-/

namespace TableSql.Sql

variable {quote : Char} {cs rest : List Char} {s name : String} {names : List String}

/-! ## One quoted token -/

theorem undouble?_cons_of_ne {c : Char} (other : c ≠ quote) (seen cs : List Char) :
    undouble? quote seen (c :: cs) = undouble? quote (seen ++ [c]) cs := by
  cases cs with
  | nil => exact if_neg other
  | cons d ds => exact if_neg other

/-- Doubled text is read to its end: each quote in it is followed by its double, which the quote
that closes is not. -/
theorem undouble?_doubled (seen cs : List Char) (apart : rest.head? ≠ some quote) :
    undouble? quote seen (doubled quote cs ++ quote :: rest) =
      some (String.ofList (seen ++ cs), rest) := by
  induction cs generalizing seen with
  | nil =>
    rw [List.append_nil]
    cases rest with
    | nil => simp [doubled, undouble?]
    | cons d ds =>
      have other : d ≠ quote := by simpa using apart
      simp [doubled, undouble?, other]
  | cons c cs ih =>
    rw [doubled_cons, List.append_assoc]
    by_cases isQuote : c = quote
    · simp [isQuote, undouble?, ih]
    · simp [isQuote, undouble?_cons_of_ne, ih]

/-- Only doubled text is read, up to the first quote that is not followed by another. -/
theorem eq_doubled_of_undouble? {seen : List Char}
    (read : undouble? quote seen cs = some (s, rest)) :
    ∃ between, s = String.ofList (seen ++ between) ∧ cs = doubled quote between ++ quote :: rest ∧
      rest.head? ≠ some quote := by
  fun_induction undouble? quote seen cs with
  | case1 => cases read
  | case2 seen =>
    cases read
    exact ⟨[], by simp, rfl, by simp⟩
  | case3 seen ds ih =>
    obtain ⟨between, rfl, rfl, apart⟩ := ih read
    exact ⟨quote :: between, by simp, by simp [doubled_cons], apart⟩
  | case4 seen d ds other =>
    cases read
    exact ⟨[], by simp, rfl, by simpa using other⟩
  | case5 seen c ds other ih =>
    obtain ⟨between, rfl, rfl, apart⟩ := ih read
    exact ⟨c :: between, by simp, by simp [doubled_cons, other], apart⟩

/-- A quoted token is read in front exactly where it was written and the quote behind it closes. -/
theorem delimited?_eq_some_iff :
    delimited? quote cs = some (s, rest) ↔
      cs = (delimited quote s).toList ++ rest ∧ rest.head? ≠ some quote := by
  constructor
  · intro read
    cases cs with
    | nil => cases read
    | cons c cs =>
      obtain ⟨rfl, inside⟩ := Option.ite_none_right_eq_some.mp read
      obtain ⟨between, rfl, rfl, apart⟩ := eq_doubled_of_undouble? inside
      exact ⟨by simp [toList_delimited], apart⟩
  · rintro ⟨rfl, apart⟩
    have inside := undouble?_doubled [] s.toList apart
    rw [toList_delimited, List.cons_append, delimited?, if_pos rfl, List.append_assoc]
    simpa using inside

example : delimited? '\'' "'''; --'' ', ''".toList = some ("'; --' ", ", ''".toList) := by
  cbv

/-! ## Lists of names -/

theorem toList_quoteNames_singleton (name : String) :
    (quoteNames [name]).toList = (quoteName name).toList ++ [] := by
  simp [quoteNames]

theorem toList_quoteNames_cons_cons (name next : String) (names : List String) :
    (quoteNames (name :: next :: names)).toList =
      (quoteName name).toList ++ ',' :: ' ' :: (quoteNames (next :: names)).toList := by
  simp [quoteNames]

theorem namesFrom?_last (read : delimited? '"' cs = some (name, [])) :
    namesFrom? cs = some [name] := by
  fun_cases namesFrom? cs with
  | case1 _ last =>
    cases read.symm.trans last
    rfl
  | case2 _ _ more => cases read.symm.trans more
  | case3 notLast _ => exact absurd read (notLast name)

/-- Behind a comma and a space the list goes on. -/
theorem namesFrom?_more {others : List Char}
    (read : delimited? '"' cs = some (name, ',' :: ' ' :: others)) :
    namesFrom? cs = (namesFrom? others).map (name :: ·) := by
  fun_cases namesFrom? cs with
  | case1 _ last => cases read.symm.trans last
  | case2 _ _ more =>
    cases read.symm.trans more
    rfl
  | case3 _ notMore => exact absurd read (notMore name others)

/-- A list of quoted names is read as the names, by induction on the names. -/
theorem namesFrom?_quoteNames (name : String) (names : List String) :
    namesFrom? (quoteNames (name :: names)).toList = some (name :: names) := by
  induction names generalizing name with
  | nil =>
    exact namesFrom?_last (delimited?_eq_some_iff.mpr ⟨toList_quoteNames_singleton name, by simp⟩)
  | cons next names ih =>
    -- The comma behind a name is not a quote, so the name ends there.
    have read : delimited? '"' (quoteNames (name :: next :: names)).toList =
        some (name, ',' :: ' ' :: (quoteNames (next :: names)).toList) :=
      delimited?_eq_some_iff.mpr ⟨toList_quoteNames_cons_cons name next names, by simp⟩
    rw [namesFrom?_more read, ih next, Option.map_some]

/-- Only a list of quoted names is read as names, by induction along the reader. -/
theorem eq_quoteNames_of_namesFrom? (read : namesFrom? cs = some names) :
    cs = (quoteNames names).toList ∧ names ≠ [] := by
  fun_induction namesFrom? cs generalizing names with
  | case1 cs name last =>
    cases read
    obtain ⟨rfl, -⟩ := delimited?_eq_some_iff.mp last
    exact ⟨(toList_quoteNames_singleton name).symm, List.cons_ne_nil _ _⟩
  | case2 cs name others more ih =>
    obtain ⟨later, behind, rfl⟩ := Option.map_eq_some_iff.mp read
    obtain ⟨rfl, nonempty⟩ := ih behind
    obtain ⟨next, names, rfl⟩ := List.exists_cons_of_ne_nil nonempty
    obtain ⟨rfl, -⟩ := delimited?_eq_some_iff.mp more
    exact ⟨(toList_quoteNames_cons_cons name next names).symm, List.cons_ne_nil _ _⟩
  | case3 => cases read

theorem quoteNames_cons_ne_empty (name : String) (names : List String) :
    quoteNames (name :: names) ≠ "" := by
  cases names <;> simp [quoteNames, quoteName, delimited]

/-- A text is read as names exactly if it is the list of these names, where no text is the empty
list. -/
theorem quotedNames?_eq_some_iff {sql : String} :
    quotedNames? sql = some names ↔ sql = quoteNames names := by
  constructor
  · intro read
    by_cases empty : sql = ""
    · rw [quotedNames?, if_pos empty] at read
      cases read
      exact empty
    · rw [quotedNames?, if_neg empty] at read
      obtain ⟨same, -⟩ := eq_quoteNames_of_namesFrom? read
      exact String.toList_inj.mp same
  · rintro rfl
    cases names with
    | nil => rfl
    | cons name names =>
      rw [quotedNames?, if_neg (quoteNames_cons_ne_empty name names)]
      exact namesFrom?_quoteNames name names

example : quotedNames? "\"a\"\", \"\"b\", \"\"" = some ["a\", \"b", ""] := by cbv

/-- Two lists of names are never written alike. -/
theorem quoteNames_injective : Function.Injective quoteNames := by
  intro names others same
  have read := quotedNames?_eq_some_iff.mpr same
  rw [quotedNames?_eq_some_iff.mpr rfl] at read
  exact Option.some.inj read

/-! ## Quoting -/

/-- Quoting can be undone in front of every text that does not begin with the quote, and there only:
a quoted name or text is read as itself and up to its end. A list of quoted names is read as its
names, so lists that are written alike are the same. -/
theorem quoting_invertible :
    (∀ (cs rest : List Char) (name : String),
      delimited? '"' cs = some (name, rest) ↔
        cs = (quoteName name).toList ++ rest ∧ rest.head? ≠ some '"') ∧
    (∀ (cs rest : List Char) (s : String),
      delimited? '\'' cs = some (s, rest) ↔
        cs = (quoteText s).toList ++ rest ∧ rest.head? ≠ some '\'') ∧
    (∀ (sql : String) (names : List String),
      quotedNames? sql = some names ↔ sql = quoteNames names) ∧
    Function.Injective quoteNames := by
  refine ⟨?name, ?text, ?list, quoteNames_injective⟩
  case name =>
    intro cs rest name
    exact delimited?_eq_some_iff
  case text =>
    intro cs rest s
    exact delimited?_eq_some_iff
  case list =>
    intro sql names
    exact quotedNames?_eq_some_iff

end TableSql.Sql
