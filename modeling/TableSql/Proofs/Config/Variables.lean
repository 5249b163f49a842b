import Mathlib.Data.List.Basic
import TableSql.Config.Checked
import TableSql.Proofs.Except

/-!
# Replacing variables

A text with references is expanded in one pass from left to right (`Expands`, `expand_eq_iff`): an
opening `${` begins a reference that runs to the next `}`, the reference becomes the value of its
variable, and every other character is copied. Nothing that was written is looked at again, so the
parts of a text are expanded by themselves (`Expands.append`), and the pass fails at the first
reference that is bad (`expands_error_iff`).
-/

namespace TableSql.Config

/-- What begins a reference. -/
def opening : List Char := ['$', '\x7b']

/-- A text begins with a reference that can not be replaced. -/
inductive BadReference (value? : String → Option String) : List Char → ExpansionFault → Prop
  | unclosed {name : List Char} (endless : '\x7d' ∉ name) :
      BadReference value? (opening ++ name) (.unclosed (String.ofList name))
  | noName {rest : List Char} : BadReference value? (opening ++ '\x7d' :: rest) .noName
  | unset {name rest : List Char} (named : name ≠ []) (single : '\x7d' ∉ name)
      (absent : value? (String.ofList name) = none) :
      BadReference value? (opening ++ name ++ '\x7d' :: rest) (.unset (String.ofList name))

/-- The pass over a text, and what it gives. -/
inductive Expands (value? : String → Option String) :
    List Char → Except ExpansionFault String → Prop
  | done : Expands value? [] (.ok "")
  | copied {c : Char} {cs : List Char} {result : Except ExpansionFault String}
      (plain : ¬opening <+: c :: cs) (rest : Expands value? cs result) :
      Expands value? (c :: cs) (result.map (c.toString ++ ·))
  | replaced {name cs : List Char} {value : String} {result : Except ExpansionFault String}
      (named : name ≠ []) (single : '\x7d' ∉ name) (set : value? (String.ofList name) = some value)
      (rest : Expands value? cs result) :
      Expands value? (opening ++ name ++ '\x7d' :: cs) (result.map (value ++ ·))
  | failed {cs : List Char} {fault : ExpansionFault} (bad : BadReference value? cs fault) :
      Expands value? cs (.error fault)

/-- A text has a `${` without a `}` behind it. -/
def Unterminated (cs : List Char) : Prop :=
  ∃ before name, cs = before ++ opening ++ name ∧ '\x7d' ∉ name

/-! ## The parts of a text -/

section

variable {c : Char} {cs name : List Char}

theorem partsAfter_plain (plain : ¬opening <+: c :: cs) :
    partsAfter none (c :: cs) = .plain c :: partsAfter none cs := by
  rw [partsAfter]
  rintro after rfl rfl
  exact plain ⟨after, rfl⟩

/-- Inside a reference the characters up to the next `}` are its name. -/
theorem partsAfter_name (single : '\x7d' ∉ name) (before : List Char) :
    partsAfter (some before) (name ++ '\x7d' :: cs) =
      .variable (String.ofList (before.reverse ++ name)) :: partsAfter none cs := by
  induction name generalizing before with
  | nil => simp [partsAfter]
  | cons c name ih =>
    obtain ⟨other, single⟩ := not_or.mp (mt List.mem_cons.mpr single)
    rw [List.cons_append, partsAfter, ih single, List.reverse_cons, List.append_assoc,
      List.singleton_append]
    exact fun same => other same.symm

/-- Without a `}` they are the name of a reference that is not closed. -/
theorem partsAfter_endless (endless : '\x7d' ∉ name) (before : List Char) :
    partsAfter (some before) name = [.unclosed (String.ofList (before.reverse ++ name))] := by
  induction name generalizing before with
  | nil => simp [partsAfter]
  | cons c name ih =>
    obtain ⟨other, endless⟩ := not_or.mp (mt List.mem_cons.mpr endless)
    rw [partsAfter, ih endless, List.reverse_cons, List.append_assoc, List.singleton_append]
    exact fun same => other same.symm

/-- A reference is one part of a text, and the rest of the text is divided by itself. -/
theorem partsAfter_reference (single : '\x7d' ∉ name) :
    partsAfter none (opening ++ name ++ '\x7d' :: cs) =
      .variable (String.ofList name) :: partsAfter none cs := by
  rw [List.append_assoc]
  exact partsAfter_name single []

theorem partsAfter_unclosed (endless : '\x7d' ∉ name) :
    partsAfter none (opening ++ name) = [.unclosed (String.ofList name)] :=
  partsAfter_endless endless []

/-- A text begins with a character that is copied, or with a reference. -/
theorem reference_cases (cs : List Char) :
    cs = [] ∨ (∃ c rest, cs = c :: rest ∧ ¬opening <+: c :: rest) ∨
      (∃ name, cs = opening ++ name ∧ '\x7d' ∉ name) ∨
      ∃ name rest, cs = opening ++ name ++ '\x7d' :: rest ∧ '\x7d' ∉ name := by
  by_cases opens : opening <+: cs
  · obtain ⟨after, rfl⟩ := opens
    by_cases closes : '\x7d' ∈ after
    · obtain ⟨name, rest, rfl, single⟩ := List.eq_append_cons_of_mem closes
      exact .inr (.inr (.inr ⟨name, rest, by rw [List.append_assoc], single⟩))
    · exact .inr (.inr (.inl ⟨after, rfl, closes⟩))
  · cases cs with
    | nil => exact .inl rfl
    | cons c rest => exact .inr (.inl ⟨c, rest, rfl, opens⟩)

end

variable {value? : String → Option String}

/-! ## The pass -/

/-- The text of some parts. -/
def expandParts (value? : String → Option String) (ps : List Part) :
    Except ExpansionFault String := do
  return String.join (← ps.mapM (·.text value?))

/-- The text of some parts begins with that of the first, and fails if that fails. -/
theorem expandParts_cons (p : Part) (ps : List Part) :
    expandParts value? (p :: ps) =
      p.text value? >>= fun s => (expandParts value? ps).map (s ++ ·) := by
  rw [expandParts, List.mapM_cons, expandParts]
  cases p.text value? with
  | error fault => rfl
  | ok s =>
    cases h : ps.mapM (·.text value?) with
    | error fault => simp [bind, Except.bind, Except.map]
    | ok texts => simp [bind, Except.bind, Except.map, pure, Except.pure, String.join_cons]

/-- A text that begins with a bad reference is refused for it. -/
theorem BadReference.expandParts_eq {cs : List Char} {fault : ExpansionFault}
    (bad : BadReference value? cs fault) :
    expandParts value? (partsAfter none cs) = .error fault := by
  cases bad with
  | unclosed endless =>
    rw [partsAfter_unclosed endless, expandParts_cons]
    rfl
  | @noName rest =>
    rw [show partsAfter none (opening ++ '\x7d' :: rest) = _ from
      partsAfter_reference (List.not_mem_nil), expandParts_cons]
    rfl
  | unset named single absent =>
    rw [partsAfter_reference single, expandParts_cons, Part.text, if_neg (by simpa using named),
      absent]
    rfl

/-- What the pass over a text gives is the text of its parts, by induction on the pass. -/
theorem Expands.expandParts_eq {cs : List Char} {result : Except ExpansionFault String}
    (expands : Expands value? cs result) :
    expandParts value? (partsAfter none cs) = result := by
  induction expands with
  | done => rfl
  | copied plain _ ih =>
    rw [partsAfter_plain plain, expandParts_cons, ih]
    rfl
  | replaced named single set _ ih =>
    rw [partsAfter_reference single, expandParts_cons, Part.text, if_neg (by simpa using named),
      set, ih]
    rfl
  | failed bad => exact bad.expandParts_eq

/-- The pass goes over every text, and it ends: each step leaves a shorter one. -/
theorem exists_expands (value? : String → Option String) (cs : List Char) :
    ∃ result, Expands value? cs result := by
  rcases reference_cases cs with
    rfl | ⟨c, rest, rfl, plain⟩ | ⟨name, rfl, endless⟩ | ⟨name, rest, rfl, single⟩
  · exact ⟨_, .done⟩
  · obtain ⟨result, expands⟩ := exists_expands value? rest
    exact ⟨_, .copied plain expands⟩
  · exact ⟨_, .failed (.unclosed endless)⟩
  · cases name with
    | nil => exact ⟨_, .failed .noName⟩
    | cons c name =>
      have named : c :: name ≠ [] := List.cons_ne_nil c name
      cases found : value? (String.ofList (c :: name)) with
      | none => exact ⟨_, .failed (.unset named single found)⟩
      | some value =>
        obtain ⟨result, expands⟩ := exists_expands value? rest
        exact ⟨_, .replaced named single found expands⟩
termination_by cs.length
decreasing_by
  · subst_vars
    simp
  · subst_vars
    simp
    omega

/-- Expanding a text is the pass over it. -/
theorem expand_eq_iff {text : String} {result : Except ExpansionFault String} :
    expand value? text = result ↔ Expands value? text.toList result := by
  constructor
  · rintro rfl
    obtain ⟨result, expands⟩ := exists_expands value? text.toList
    rw [show expand value? text = result from expands.expandParts_eq]
    exact expands
  · exact fun expands => expands.expandParts_eq

/-! ## Texts one after the other -/

theorem Unterminated.append {cs : List Char} (endless : Unterminated cs) (before : List Char) :
    Unterminated (before ++ cs) := by
  obtain ⟨middle, name, rfl, single⟩ := endless
  exact ⟨before ++ middle, name, by simp, single⟩

/-- What a text begins with stays so when more follows, unless a dollar sign at its end is followed
by a brace. -/
theorem plain_append {c : Char} {cs more : List Char} (plain : ¬opening <+: c :: cs)
    (apart : ¬(['$'] <:+ c :: cs ∧ ['\x7b'] <+: more)) : ¬opening <+: c :: (cs ++ more) := by
  rintro ⟨after, same⟩
  obtain ⟨rfl, rest⟩ := List.cons.inj same
  cases cs with
  | nil => exact apart ⟨List.suffix_rfl, after, rest⟩
  | cons d cs =>
    obtain ⟨rfl, -⟩ := List.cons.inj rest
    exact plain ⟨cs, rfl⟩

/-- What two texts become, one after the other, or the first failure from the left. -/
def inTurn (first second : Except ExpansionFault String) : Except ExpansionFault String := do
  return (← first) ++ (← second)

/-- What is put in front of the first text is in front of both. -/
theorem inTurn_map (first second : Except ExpansionFault String) (s : String) :
    inTurn (first.map (s ++ ·)) second = (inTurn first second).map (s ++ ·) := by
  cases first with
  | error fault => rfl
  | ok u =>
    cases second with
    | error fault => rfl
    | ok v =>
      show Except.ok (s ++ u ++ v) = Except.ok (s ++ (u ++ v))
      rw [String.append_assoc]

theorem inTurn_empty (second : Except ExpansionFault String) : inTurn (.ok "") second = second := by
  cases second with
  | error fault => rfl
  | ok v =>
    show Except.ok ("" ++ v) = Except.ok v
    rw [String.empty_append]

/-- A bad reference stays bad when more follows, unless it is not closed. -/
theorem BadReference.append {cs : List Char} {fault : ExpansionFault}
    (bad : BadReference value? cs fault) (closed : ¬Unterminated cs) (more : List Char) :
    BadReference value? (cs ++ more) fault := by
  cases bad with
  | unclosed endless => exact absurd ⟨[], _, rfl, endless⟩ closed
  | noName =>
    rw [List.append_assoc]
    exact .noName
  | unset named single absent =>
    rw [List.append_assoc]
    exact .unset named single absent

/-- Two texts are expanded one after the other if no reference goes from the first into the
second. -/
theorem Expands.append {cs more : List Char} {first second : Except ExpansionFault String}
    (expands : Expands value? cs first) (next : Expands value? more second)
    (closed : ¬Unterminated cs) (apart : ¬(['$'] <:+ cs ∧ ['\x7b'] <+: more)) :
    Expands value? (cs ++ more) (inTurn first second) := by
  induction expands with
  | done =>
    rw [inTurn_empty]
    exact next
  | @copied c cs result plain _ ih =>
    -- The rest of the first text ends as the whole does, so it meets both conditions.
    have rest := ih (fun endless => closed (endless.append [c]))
      (fun ⟨ends, begins⟩ => apart ⟨ends.trans (List.suffix_cons c cs), begins⟩)
    rw [inTurn_map]
    exact .copied (plain_append plain apart) rest
  | @replaced name cs value result named single set _ ih =>
    have longer : opening ++ name ++ '\x7d' :: cs = (opening ++ name ++ ['\x7d']) ++ cs := by simp
    have rest := ih (fun endless => closed (longer ▸ endless.append _))
      (fun ⟨ends, begins⟩ => apart ⟨longer ▸ ends.trans (List.suffix_append _ cs), begins⟩)
    rw [inTurn_map, List.append_assoc, List.cons_append]
    exact .replaced named single set rest
  | failed bad => exact .failed (bad.append closed more)

/-- Only what stands behind a closing brace can be an open reference. -/
theorem Unterminated.of_closed {before cs : List Char}
    (endless : Unterminated (before ++ '\x7d' :: cs)) : Unterminated cs := by
  obtain ⟨front, name, same, single⟩ := endless
  rw [List.append_assoc] at same
  rcases List.append_eq_append_iff.mp same with ⟨middle, -, split⟩ | ⟨middle, -, split⟩
  · cases middle with
    | nil => exact absurd (List.cons.inj split).1 (by decide)
    | cons d middle => exact ⟨middle, name, by simpa using (List.cons.inj split).2, single⟩
  · have member : '\x7d' ∈ opening ++ name := split ▸ by simp
    rcases List.mem_append.mp member with inOpening | inName
    · exact absurd inOpening (by decide)
    · exact absurd inName single

/-- What can be expanded has no reference that is not closed. -/
theorem Expands.not_unterminated {cs : List Char} {s : String}
    (expands : Expands value? cs (.ok s)) : ¬Unterminated cs := by
  generalize success : Except.ok s = result at expands
  induction expands generalizing s with
  | done =>
    rintro ⟨before, name, same, -⟩
    simp [opening] at same
  | @copied c cs result plain _ ih =>
    cases result with
    | error fault => cases success
    | ok rest =>
      rintro ⟨before, name, same, endless⟩
      cases before with
      | nil => exact plain ⟨name, same.symm⟩
      | cons d before => exact ih rfl ⟨before, name, (List.cons.inj same).2, endless⟩
  | @replaced name cs value result _ _ _ _ ih =>
    cases result with
    | error fault => cases success
    | ok rest => exact fun endless => ih rfl endless.of_closed
  | failed => cases success

/-! ## Failures -/

theorem BadReference.opens {cs : List Char} {fault : ExpansionFault}
    (bad : BadReference value? cs fault) : opening <+: cs := by
  cases bad with
  | unclosed | noName => exact List.prefix_append _ _
  | unset =>
    rw [List.append_assoc]
    exact List.prefix_append _ _

/-- The pass fails exactly if all before some bad reference can be expanded, and with what is wrong
with that one. -/
theorem expands_error_iff {cs : List Char} {fault : ExpansionFault} :
    Expands value? cs (.error fault) ↔
      ∃ before rest s, cs = before ++ rest ∧ Expands value? before (.ok s) ∧
        BadReference value? rest fault := by
  constructor
  · intro expands
    generalize failure : Except.error fault = result at expands
    induction expands with
    | done => cases failure
    | @copied c cs result plain _ ih =>
      cases result with
      | ok s => cases failure
      | error other =>
        obtain ⟨before, rest, s, rfl, expanded, bad⟩ := ih (by cases failure; rfl)
        have here : ¬opening <+: c :: before := fun opens =>
          plain (opens.trans (List.prefix_append (c :: before) rest))
        exact ⟨c :: before, rest, _, rfl, .copied here expanded, bad⟩
    | @replaced name cs value result named single set _ ih =>
      cases result with
      | ok s => cases failure
      | error other =>
        obtain ⟨before, rest, s, rfl, expanded, bad⟩ := ih (by cases failure; rfl)
        exact ⟨opening ++ name ++ '\x7d' :: before, rest, _, by simp,
          .replaced named single set expanded, bad⟩
    | failed bad =>
      cases failure
      exact ⟨[], _, "", rfl, .done, bad⟩
  · rintro ⟨before, rest, s, rfl, expanded, bad⟩
    -- What was expanded has no open reference, and the bad one begins with its own dollar sign.
    refine expanded.append (.failed bad) expanded.not_unterminated ?_
    rintro ⟨-, after, rfl⟩
    obtain ⟨more, same⟩ := bad.opens
    exact absurd (List.cons.inj same).1 (by decide)

/-- A text without references is copied. -/
theorem expands_plain {cs : List Char} (plain : ¬opening <:+: cs) :
    Expands value? cs (.ok (String.ofList cs)) := by
  induction cs with
  | nil => exact .done
  | cons c cs ih =>
    have rest := ih fun inside => plain (inside.trans (List.suffix_cons c cs).isInfix)
    have copied := Expands.copied (fun opens => plain opens.isInfix) rest
    rwa [show (Except.ok (String.ofList cs) : Except ExpansionFault String).map (c.toString ++ ·) =
      .ok (String.ofList (c :: cs)) by simp [Except.map, String.ofList_cons]] at copied

/-! ## Configurations -/

/-- Parts with the same text under two assignments of values have it together. -/
theorem expandParts_congr {other? : String → Option String} {ps : List Part}
    (each : ∀ p ∈ ps, p.text other? = p.text value?) :
    expandParts other? ps = expandParts value? ps := by
  induction ps with
  | nil => rfl
  | cons p ps ih =>
    obtain ⟨here, later⟩ := List.forall_mem_cons.mp each
    rw [expandParts_cons, expandParts_cons, here, ih later]

/-- Only the variables that a text refers to count. -/
theorem expand_congr {other? : String → Option String} {text : String}
    (same : ∀ name ∈ variableNames text, other? name = value? name) :
    expand other? text = expand value? text := by
  refine expandParts_congr fun p (member : p ∈ parts text) => ?_
  match p with
  | .plain _ | .unclosed _ => rfl
  | .variable name =>
    have referred : name ∈ variableNames text :=
      List.mem_filterMap.mpr ⟨.variable name, member, rfl⟩
    rw [Part.text, Part.text, same name referred]

/-- The checks on tables know nothing of references. -/
theorem checkTables_ne_expansion {before : List String} {tables : List TableSpec}
    {fault : ExpansionFault} : checkTables before tables ≠ .error (.expansion fault) := by
  induction tables generalizing before with
  | nil => simp [checkTables]
  | cons t tables ih =>
    unfold checkTables
    split
    · simp
    · split
      · simp
      · exact ih

/-- A configuration that was expanded is never refused for a reference by what is checked then. -/
theorem check_ne_expansion {c : Config} {fault : ExpansionFault} :
    check c ≠ .error (.expansion fault) := by
  intro failed
  unfold check at failed
  rcases guard_eq_error.mp failed with ⟨-, impossible⟩ | ⟨-, failed⟩
  · cases impossible
  · rcases guard_eq_error.mp failed with ⟨-, impossible⟩ | ⟨-, failed⟩
    · cases impossible
    · exact checkTables_ne_expansion failed

/-- A configuration has a bad reference exactly if its output directory has. -/
theorem resolve_eq_expansion_iff {c : Config} {fault : ExpansionFault} :
    c.resolve value? = .error (.expansion fault) ↔ expand value? c.out = .error fault := by
  unfold resolve
  rw [bind_eq_error, mapError_eq_error]
  constructor
  · rintro (⟨_, failed, same⟩ | ⟨out, -, failed⟩)
    · cases same
      exact failed
    · rcases bind_eq_error.mp failed with failed | ⟨_, -, impossible⟩
      · exact absurd failed check_ne_expansion
      · cases impossible
  · exact fun failed => .inl ⟨fault, failed, rfl⟩

/-- A configuration that can be used has its output directory expanded and is else as it was. -/
theorem out_of_resolve {c resolved : Config} (ok : c.resolve value? = .ok resolved) :
    ∃ out, expand value? c.out = .ok out ∧ resolved = { c with out } := by
  unfold resolve at ok
  obtain ⟨out, expanded, rest⟩ := bind_eq_ok.mp ok
  obtain ⟨-, -, same⟩ := bind_eq_ok.mp rest
  cases same
  exact ⟨out, mapError_eq_ok.mp expanded, rfl⟩

/-- A text is expanded in one pass from left to right, in which nothing that was written is looked
at again. So two texts are expanded one after the other, unless a reference goes from the first into
the second. The pass fails exactly if all that stands before some reference can be expanded and that
reference is not closed, has no name or is of a variable without a value; a text without references
stays as it is. The output directory of a configuration is expanded so, once and before anything
else is checked, with the values of the variables that it refers to. -/
theorem expansion_single_pass (value? : String → Option String) :
    (∀ text result, expand value? text = result ↔ Expands value? text.toList result) ∧
    (∀ first second : String, ¬Unterminated first.toList →
      ¬(['$'] <:+ first.toList ∧ ['\x7b'] <+: second.toList) →
      expand value? (first ++ second) =
        do return (← expand value? first) ++ (← expand value? second)) ∧
    (∀ text fault, expand value? text = .error fault ↔
      ∃ before rest s, text = before ++ rest ∧ expand value? before = .ok s ∧
        BadReference value? rest.toList fault) ∧
    (∀ text, ¬opening <:+: text.toList → expand value? text = .ok text) ∧
    (∀ text,
      let found := (variableNames text).map fun name => (name, value? name)
      expand (fun name => (found.lookup name).join) text = expand value? text) ∧
    ∀ c : Config,
      (∀ fault, c.resolve value? = .error (.expansion fault) ↔ expand value? c.out = .error fault) ∧
      ∀ resolved, c.resolve value? = .ok resolved →
        ∃ out, expand value? c.out = .ok out ∧ resolved = { c with out } := by
  refine ⟨fun text result => expand_eq_iff, ?_, fun text fault => ?_, fun text plain => ?_, ?_,
    fun c => ⟨fun fault => resolve_eq_expansion_iff, fun resolved => out_of_resolve⟩⟩
  · intro first second closed apart
    rw [expand_eq_iff, String.toList_append]
    exact (expand_eq_iff.mp rfl).append (expand_eq_iff.mp rfl) closed apart
  · rw [expand_eq_iff, expands_error_iff]
    constructor
    · rintro ⟨before, rest, s, split, expanded, bad⟩
      refine ⟨String.ofList before, String.ofList rest, s, ?_, expand_eq_iff.mpr ?_, ?_⟩
      · rw [← String.ofList_append, ← split, String.ofList_toList]
      · rwa [String.toList_ofList]
      · rwa [String.toList_ofList]
    · rintro ⟨before, rest, s, rfl, expanded, bad⟩
      exact ⟨_, _, s, String.toList_append, expand_eq_iff.mp expanded, bad⟩
  · rw [expand_eq_iff]
    have copied : Expands value? text.toList _ := expands_plain plain
    rwa [String.ofList_toList] at copied
  · intro text found
    refine expand_congr fun name member => ?_
    rw [List.lookup_graph _ member]
    rfl

/-- A dollar sign before a reference and a brace behind it stay, and so does a value that reads as a
reference. -/
example : expand (fun name => if name = "A" then some "$\x7bB\x7d" else none) "$$\x7bA\x7d\x7d" =
    .ok "$$\x7bB\x7d\x7d" := by cbv

end TableSql.Config
