import TableSql.Sql.Token

/-!
# Reading text in parts

`Reads cs ts m` says that the reader, started between tokens, takes the characters `cs` for the
tokens `ts` and ends in mode `m`, the token under way counted among `ts`. Two such parts compose
when the first character of the second does not extend the last token of the first
(`Reads.append`), so the tokens of a long text come from those of its parts.

* a quoted name is one token, whatever characters the name has (`reads_quoteName`);
* the text of a numbered placeholder gives its number back (`reads_numbered`).
-/

namespace TableSql.Sql

/-- The reader, between tokens, takes `cs` for the tokens `ts` and is in mode `m` after it. The
last of the tokens may still be under way. -/
def Reads (cs : List Char) (ts : List Token) (m : Mode) : Prop :=
  ∃ ended pending, Mode.between.run? cs = some (ended, m) ∧ m.close? = some pending ∧
    ts = ended ++ pending

/-! ## Runs of the reader -/

/-- The reader takes one character, and then the others from where that leads. -/
theorem Mode.run?_cons (m : Mode) (c : Char) (cs : List Char) :
    m.run? (c :: cs) = (m.step? c).bind fun here =>
      (here.2.run? cs).map fun rest => (here.1 ++ rest.1, rest.2) := by
  rw [Mode.run?]
  cases m.step? c with
  | none => rfl
  | some here =>
    obtain ⟨ts, next⟩ := here
    cases h : next.run? cs <;> simp [h]

/-- A text is read in two parts, the second from where the first leads. -/
theorem Mode.run?_append {m n last : Mode} {cs ds : List Char} {ts us : List Token}
    (first : m.run? cs = some (ts, n)) (second : n.run? ds = some (us, last)) :
    m.run? (cs ++ ds) = some (ts ++ us, last) := by
  induction cs generalizing m ts with
  | nil =>
    simp only [Mode.run?, Option.some.injEq, Prod.mk.injEq] at first
    obtain ⟨rfl, rfl⟩ := first
    simpa using second
  | cons c cs ih =>
    rw [Mode.run?_cons, Option.bind_eq_some_iff] at first
    obtain ⟨here, step, rest⟩ := first
    rw [Option.map_eq_some_iff] at rest
    obtain ⟨⟨tail, stop⟩, tailRun, equal⟩ := rest
    simp only [Prod.mk.injEq] at equal
    obtain ⟨rfl, rfl⟩ := equal
    rw [List.cons_append, Mode.run?_cons, step, Option.bind_some, ih tailRun]
    simp

/-- A character that does not extend the token under way ends it, and is then read as between
tokens. -/
theorem Mode.step?_of_extend?_none {m : Mode} {c : Char} {pending : List Token}
    (apart : m.extend? c = none) (closed : m.close? = some pending) :
    m.step? c = (Mode.between.step? c).map fun here => (pending ++ here.1, here.2) := by
  have fromBetween : Mode.between.step? c = Mode.start? c := by
    show (Mode.start? c).bind (fun here => some ([] ++ here.1, here.2)) = Mode.start? c
    cases Mode.start? c <;> rfl
  rw [fromBetween, Mode.step?, apart, closed]
  cases Mode.start? c <;> rfl

/-- Where a character does not extend the token under way, the token ends, and the reader goes on as
it does between tokens. -/
theorem Mode.run?_of_extend?_none {m : Mode} {c : Char} {cs : List Char} {pending : List Token}
    (apart : m.extend? c = none) (closed : m.close? = some pending) :
    m.run? (c :: cs) =
      (Mode.between.run? (c :: cs)).map fun rest => (pending ++ rest.1, rest.2) := by
  rw [Mode.run?_cons, Mode.run?_cons, Mode.step?_of_extend?_none apart closed]
  cases Mode.between.step? c with
  | none => rfl
  | some here => cases h : here.2.run? cs <;> simp [h]

/-! ## Parts of a text -/

/-- Two texts are read by themselves if the first character of the second does not extend the last
token of the first. -/
theorem Reads.append {cs ds : List Char} {ts us : List Token} {m n : Mode} {c : Char}
    (first : Reads cs ts m) (second : Reads ds us n) (head : ds.head? = some c)
    (apart : m.extend? c = none) : Reads (cs ++ ds) (ts ++ us) n := by
  obtain ⟨ended, pending, firstRun, closed, rfl⟩ := first
  obtain ⟨laterEnded, laterPending, secondRun, laterClosed, rfl⟩ := second
  obtain ⟨tail, rfl⟩ := List.head?_eq_some_iff.mp head
  -- `c` ends what is pending in `m`, so both parts can be read on from there.
  have joined : m.run? (c :: tail) = some (pending ++ laterEnded, n) := by
    rw [Mode.run?_of_extend?_none apart closed, secondRun, Option.map_some]
  refine ⟨ended ++ (pending ++ laterEnded), laterPending, ?_, laterClosed, by simp⟩
  exact Mode.run?_append firstRun joined

/-- After text that ends between tokens any other may follow. -/
theorem Reads.append_free {cs ds : List Char} {ts us : List Token} {m : Mode}
    (first : Reads cs ts .between) (second : Reads ds us m) (nonempty : ds ≠ []) :
    Reads (cs ++ ds) (ts ++ us) m := by
  obtain ⟨c, tail, rfl⟩ := List.exists_cons_of_ne_nil nonempty
  exact first.append second rfl rfl

theorem tokens?_of_reads {sql : String} {ts : List Token} {m : Mode}
    (reads : Reads sql.toList ts m) : tokens? sql = some ts := by
  obtain ⟨ended, pending, run, closed, rfl⟩ := reads
  simp [tokens?, run, closed]

/-! ## Quoted names -/

/-- The names that can stand between quotes. -/
def IsName (name : String) : Prop := name ≠ "" ∧ '\x00' ∉ name.toList

instance (name : String) : Decidable (IsName name) := by
  unfold IsName; infer_instance

/-- Between quotes every doubled character comes back: a doubled quote leads through `closing` and
back, so no quote of the text ends it. -/
theorem run?_doubled (kind : Quoted) (seen cs : List Char) (noNul : '\x00' ∉ cs) :
    (Mode.inside kind seen).run? (doubled kind.quote cs) =
      some ([], .inside kind (seen ++ cs)) := by
  induction cs generalizing seen with
  | nil => simp [doubled, Mode.run?]
  | cons c cs ih =>
    simp only [List.mem_cons, not_or] at noNul
    obtain ⟨headNul, tailNul⟩ := noNul
    have rest := ih (seen ++ [c]) tailNul
    -- A quote is read twice, by way of `closing`; any other character is read as itself.
    have head : (Mode.inside kind seen).run? (if c = kind.quote then [kind.quote, kind.quote]
        else [c]) = some ([], .inside kind (seen ++ [c])) := by
      by_cases isQuote : c = kind.quote
      · simp [isQuote, Mode.run?, Mode.step?, Mode.extend?]
      · simp [isQuote, Mode.run?, Mode.step?, Mode.extend?, Ne.symm headNul]
    rw [doubled_cons]
    simpa using Mode.run?_append head rest

/-- A quoted name is one token, and ends with a quote that one more would double. -/
theorem reads_quoteName {name : String} (isName : IsName name) :
    Reads (quoteName name).toList [.name name] (.closing .name name.toList) := by
  obtain ⟨nonempty, noNul⟩ := isName
  have opening : Mode.between.run? ['"'] = some ([], .inside .name []) := by decide
  have body := run?_doubled .name [] name.toList noNul
  have ending : (Mode.inside .name name.toList).run? ['"'] =
      some ([], .closing .name name.toList) := by
    simp [Mode.run?, Mode.step?, Mode.extend?, Quoted.quote]
  have whole := Mode.run?_append (Mode.run?_append opening body) ending
  refine ⟨[], [.name name], ?_, ?_, rfl⟩
  · simpa [quoteName, delimited, Quoted.quote] using whole
  · simp [Mode.close?, nonempty]

/-! ## Placeholders -/

/-- A placeholder takes all digits that follow. -/
theorem run?_parameter (seen digits : List Char) (allDigits : ∀ c ∈ digits, c.isDigit = true) :
    (Mode.parameter seen).run? digits = some ([], .parameter (seen ++ digits)) := by
  induction digits generalizing seen with
  | nil => simp [Mode.run?]
  | cons c digits ih =>
    have here : c.isDigit = true := allDigits c List.mem_cons_self
    have rest := ih (seen ++ [c]) fun d member => allDigits d (List.mem_cons_of_mem c member)
    rw [Mode.run?_cons]
    simp [Mode.step?, Mode.extend?, here, rest]

/-- A numbered placeholder is read as its number. -/
theorem reads_numbered (n : Nat) :
    Reads ("$" ++ toString n).toList [.numbered n] (.parameter (Nat.toDigits 10 n)) := by
  have opening : Mode.between.run? ['$'] = some ([], .parameter []) := by decide
  have body := run?_parameter [] (Nat.toDigits 10 n)
    fun c member => Nat.isDigit_of_mem_toDigits (by decide) (by decide) member
  have whole := Mode.run?_append opening body
  refine ⟨[], [.numbered n], ?_, ?_, rfl⟩
  · simpa [Nat.toString_eq_repr, Nat.toList_repr] using whole
  · simp [Mode.close?, Nat.ofDigitChars_ten_toDigits, Nat.toDigits_ne_nil]

theorem reads_positional : Reads "?".toList [.positional] .between :=
  ⟨[.positional], [], by decide, rfl, rfl⟩

end TableSql.Sql
