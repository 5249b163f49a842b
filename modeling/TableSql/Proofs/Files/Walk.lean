import TableSql.Files.Tree
import TableSql.Proofs.Except
import TableSql.Proofs.Files.Path

/-!
# Walking through directories

A path leads from directory to directory (`Tree.Way`). Which way it takes depends on the directories
alone, so it stays the same in every tree that keeps them (`Way.mono`, `Opens.mono`). What a path
in a directory names is found where the directory's own path leads (`find_join_eq_ok`,
`spot_join_eq_ok`).
-/

namespace TableSql.Files

namespace Tree

/-! ## Ways -/

/-- `t.Way place pieces last`: the pieces lead from the directory `place` to the directory
`last`. -/
inductive Way (t : Tree) : Location → List String → Location → Prop
  | done {place : Location} (here : t.entry? place = some .directory) : Way t place [] place
  | idle {place last : Location} {piece : String} {pieces : List String}
      (here : t.entry? place = some .directory) (idle : Path.isIdle piece = true)
      (rest : Way t place pieces last) :
      Way t place (piece :: pieces) last
  | up {place last : Location} {pieces : List String} (here : t.entry? place = some .directory)
      (rest : Way t place.dropLast pieces last) : Way t place (".." :: pieces) last
  | down {place last : Location} {piece : String} {pieces : List String}
      (here : t.entry? place = some .directory) (names : Path.isIdle piece = false)
      (notUp : piece ≠ "..") (short : checkName piece = .ok ())
      (rest : Way t (place ++ [piece]) pieces last) : Way t place (piece :: pieces) last

variable {t t' : Tree} {place last : Location} {piece name : String} {pieces : List String}

theorem Way.first_isDirectory (way : t.Way place pieces last) :
    t.entry? place = some .directory := by
  cases way with
  | done here => exact here
  | idle here => exact here
  | up here => exact here
  | down here => exact here

theorem Way.last_isDirectory (way : t.Way place pieces last) : t.entry? last = some .directory := by
  induction way with
  | done here => exact here
  | idle _ _ _ ih => exact ih
  | up _ _ ih => exact ih
  | down _ _ _ _ _ ih => exact ih

/-- A way is taken again wherever its directories are there. -/
theorem Way.mono (stay : ∀ place, t.entry? place = some .directory →
    t'.entry? place = some .directory) (way : t.Way place pieces last) :
    t'.Way place pieces last := by
  induction way with
  | done here => exact .done (stay _ here)
  | idle here names _ ih => exact .idle (stay _ here) names ih
  | up here _ ih => exact .up (stay _ here) ih
  | down here names notUp short _ ih => exact .down (stay _ here) names notUp short ih

theorem enter_eq_ok {next : Location} :
    t.enter place = .ok next ↔ t.entry? place = some .directory ∧ place = next := by
  rw [enter]
  cases found : t.entry? place with
  | none => simp
  | some entry => cases entry <;> simp

/-- A step stays where it is, goes up, or goes down to an entry. -/
theorem step_eq_ok {next : Location} :
    t.step place piece = .ok next ↔ t.entry? place = some .directory ∧
      ((Path.isIdle piece = true ∧ place = next) ∨
        (piece = ".." ∧ place.dropLast = next) ∨
        (Path.isIdle piece = false ∧ piece ≠ ".." ∧ checkName piece = .ok () ∧
          t.entry? (place ++ [piece]) ≠ none ∧ place ++ [piece] = next)) := by
  rw [step, bind_eq_ok]
  simp only [enter_eq_ok, and_assoc, exists_eq_left', exists_and_left]
  refine and_congr_right fun here => ?_
  by_cases idle : Path.isIdle piece = true
  · have notUp : piece ≠ ".." := by rintro rfl; exact absurd idle (by decide)
    simp [idle, notUp, pure, Except.pure]
  by_cases up : piece = ".."
  · simp [up, pure, Except.pure, show Path.isIdle ".." = false from rfl]
  · simp only [idle, up, if_false, check_eq_ok, false_and, false_or, not_false_eq_true, true_and,
      ne_eq, Bool.false_eq_true]
    cases t.entry? (place ++ [piece]) with
    | none => simp [throw, throwThe, MonadExceptOf.throw]
    | some entry => simp [pure, Except.pure]

/-- Walking the pieces of a way ends in its last directory. -/
theorem foldlM_step_eq_ok :
    (pieces.foldlM t.step place >>= t.enter) = .ok last ↔ t.Way place pieces last := by
  induction pieces generalizing place with
  | nil =>
    constructor
    · intro entered
      obtain ⟨here, rfl⟩ := enter_eq_ok.mp entered
      exact .done here
    · rintro ⟨here⟩
      exact enter_eq_ok.mpr ⟨here, rfl⟩
  | cons piece pieces ih =>
    rw [List.foldlM_cons, bind_assoc, bind_eq_ok]
    simp only [ih, step_eq_ok]
    constructor
    · rintro ⟨next, ⟨here, ⟨idle, rfl⟩ | ⟨rfl, rfl⟩ | ⟨names, notUp, short, -, rfl⟩⟩, rest⟩
      · exact .idle here idle rest
      · exact .up here rest
      · exact .down here names notUp short rest
    · intro way
      cases way with
      | idle here idle rest => exact ⟨place, ⟨here, .inl ⟨idle, rfl⟩⟩, rest⟩
      | up here rest => exact ⟨_, ⟨here, .inr (.inl ⟨rfl, rfl⟩)⟩, rest⟩
      | down here names notUp short rest =>
        have present : t.entry? (place ++ [piece]) ≠ none := by
          rw [rest.first_isDirectory]
          simp
        exact ⟨_, ⟨here, .inr (.inr ⟨names, notUp, short, present, rfl⟩)⟩, rest⟩

theorem Way.unique {last' : Location} (way : t.Way place pieces last)
    (other : t.Way place pieces last') : last = last' :=
  Except.ok.inj ((foldlM_step_eq_ok.mpr way).symm.trans (foldlM_step_eq_ok.mpr other))

/-- A way along pieces and others is one along the pieces and then one along the others. -/
theorem way_append {pieces' : List String} :
    t.Way place (pieces ++ pieces') last ↔
      ∃ middle, t.Way place pieces middle ∧ t.Way middle pieces' last := by
  constructor
  · intro way
    induction pieces generalizing place with
    | nil => exact ⟨place, .done way.first_isDirectory, way⟩
    | cons piece pieces ih =>
      cases way with
      | idle here idle rest =>
        obtain ⟨middle, first, second⟩ := ih rest
        exact ⟨middle, .idle here idle first, second⟩
      | up here rest =>
        obtain ⟨middle, first, second⟩ := ih rest
        exact ⟨middle, .up here first, second⟩
      | down here names notUp short rest =>
        obtain ⟨middle, first, second⟩ := ih rest
        exact ⟨middle, .down here names notUp short first, second⟩
  · rintro ⟨middle, first, second⟩
    induction first with
    | done _ => exact second
    | idle here idle _ ih => exact .idle here idle (ih second)
    | up here _ ih => exact .up here (ih second)
    | down here names notUp short _ ih => exact .down here names notUp short (ih second)

/-- Pieces that name nothing lead nowhere else. -/
theorem way_idle_iff (idle : ∀ piece ∈ pieces, Path.isIdle piece = true) :
    t.Way place pieces last ↔ t.entry? place = some .directory ∧ place = last := by
  induction pieces with
  | nil =>
    constructor
    · rintro ⟨here⟩
      exact ⟨here, rfl⟩
    · rintro ⟨here, rfl⟩
      exact .done here
  | cons piece pieces ih =>
    obtain ⟨first, others⟩ := List.forall_mem_cons.mp idle
    rw [← ih others]
    constructor
    · intro way
      cases way with
      | idle _ _ rest => exact rest
      | up => exact absurd first (by decide)
      | down _ names => simp [first] at names
    · exact fun rest => .idle rest.first_isDirectory first rest

/-! ## The directory that a path names -/

/-- The path `p` names the directory at `place`. -/
def Opens (t : Tree) (p : Path) (place : Location) : Prop := t.Way (t.start p) p.pieces place

theorem Opens.isDirectory {p : Path} (opens : t.Opens p place) :
    t.entry? place = some .directory := opens.last_isDirectory

theorem Opens.unique {p : Path} {place' : Location} (opens : t.Opens p place)
    (other : t.Opens p place') : place = place' := Way.unique opens other

/-- Pieces at the end that name nothing can be left out. -/
theorem way_append_idle {idle : List String} (names : ∀ piece ∈ idle, Path.isIdle piece = true) :
    t.Way place (pieces ++ idle) last ↔ t.Way place pieces last := by
  rw [way_append]
  simp only [way_idle_iff names]
  constructor
  · rintro ⟨middle, first, -, rfl⟩
    exact first
  · exact fun way => ⟨last, way, way.last_isDirectory, rfl⟩

theorem start_eq {p q : Path} (same : p.isAbsolute = q.isAbsolute) : t.start p = t.start q := by
  rw [start, start, same]

theorem opens_congr {p q : Path} (alike : p.Alike q) : t.Opens p place ↔ t.Opens q place := by
  obtain ⟨core, idle, idle', ofP, ofQ, names, names'⟩ := alike.pieces
  rw [Opens, Opens, start_eq alike.absolute, ofP, ofQ, way_append_idle names,
    way_append_idle names']

theorem checkPath_eq_ok {p : Path} : checkPath p = .ok () ↔
    '\x00' ∉ p.text.toList ∧ p.text ≠ "" ∧ p.text.utf8ByteSize < maxPath := by
  rw [checkPath]
  by_cases nul : '\x00' ∈ p.text.toList
  · simp [nul]
  by_cases empty : p.text = ""
  · simp [empty]
  by_cases long : maxPath ≤ p.text.utf8ByteSize
  · simp [nul, empty, long]
  · simp [nul, empty, long, Nat.lt_of_not_le long]

/-- A beginning of a path that can be a path can be one too, unless it is empty. -/
theorem checkPath_of_prefix {p q : Path} (checked : checkPath p = .ok ()) (filled : q.text ≠ "")
    (isPrefix : q.text.toList <+: p.text.toList) : checkPath q = .ok () := by
  obtain ⟨noNul, -, short⟩ := checkPath_eq_ok.mp checked
  obtain ⟨tail, whole⟩ := isPrefix
  have text : p.text = q.text ++ String.ofList tail := by
    rw [← String.toList_inj, String.toList_append, String.toList_ofList, whole]
  refine checkPath_eq_ok.mpr ⟨fun nul => noNul ?_, filled, ?_⟩
  · rw [← whole]
    exact List.mem_append_left _ nul
  · rw [text, String.utf8ByteSize_append] at short
    omega

theorem find_eq_ok {p : Path} :
    (∃ place, t.find p = .ok place ∧ t.enter place = .ok last) ↔
      checkPath p = .ok () ∧ t.Opens p last := by
  rw [Opens, ← foldlM_step_eq_ok, bind_eq_ok]
  simp only [find, check_eq_ok, and_assoc, exists_and_left]

/-- Listing succeeds exactly at a directory, with the names of what stands in it. -/
theorem names_eq_ok {p : Path} {names : List String} :
    t.names p = .ok names ↔ checkPath p = .ok () ∧
      ∃ place, t.Opens p place ∧ t.entries.keys.filterMap (nameIn? place) = names := by
  have entered (last : Location) : (∃ place, t.find p = .ok place ∧ t.enter place = .ok last) ↔
      checkPath p = .ok () ∧ t.Opens p last := find_eq_ok
  rw [Tree.names]
  simp only [bind_eq_ok, pure, Except.pure, Except.ok.injEq]
  constructor
  · rintro ⟨place, found, directory, enters, same⟩
    obtain ⟨checked, opens⟩ := (entered _).mp ⟨place, found, enters⟩
    exact ⟨checked, directory, opens, same⟩
  · rintro ⟨checked, directory, opens, same⟩
    obtain ⟨place, found, enters⟩ := (entered _).mpr ⟨checked, opens⟩
    exact ⟨place, found, directory, enters, same⟩

theorem names_of_checkPath_error {p : Path} {fault : Fault} (refused : checkPath p = .error fault) :
    t.names p = .error fault := by
  rw [Tree.names, find, refused]
  rfl

/-! ## Names in a directory -/

/-- What a plain name in a directory names is found behind the way to the directory. -/
theorem way_join (base : Path) (plain : IsPlain name) :
    ∃ before, (base.join ⟨name⟩).pieces = before ++ [name] ∧
      ∀ (t : Tree) place,
        t.Way (t.start (base.join ⟨name⟩)) before place ↔ t.Opens base place := by
  obtain ⟨before, baseIs, joined, absolute⟩ := Path.pieces_join base plain
  refine ⟨before, joined, fun t place => ?_⟩
  rw [Opens, start_eq absolute]
  rcases baseIs with same | longer
  · rw [same]
  · rw [longer, way_append_idle (by decide)]

/-- To a directory, walking the pieces one by one is the way along them. -/
theorem foldlM_eq_ok_iff_way (here : t.entry? last = some .directory) :
    pieces.foldlM t.step place = .ok last ↔ t.Way place pieces last := by
  rw [← foldlM_step_eq_ok, bind_eq_ok]
  simp only [enter_eq_ok]
  constructor
  · exact fun walked => ⟨last, walked, here, rfl⟩
  · rintro ⟨_, walked, -, rfl⟩
    exact walked

/-- What a name in a directory finds stands below the directory that the path names. -/
theorem find_join_eq_ok {base : Path} (plain : IsPlain name) {found : Location} :
    t.find (base.join ⟨name⟩) = .ok found ↔
      checkPath (base.join ⟨name⟩) = .ok () ∧ checkName name = .ok () ∧
        ∃ place, t.Opens base place ∧ t.entry? (place ++ [name]) ≠ none ∧
          place ++ [name] = found := by
  obtain ⟨before, joined, ways⟩ := way_join base plain
  rw [find, check_eq_ok, joined, List.foldlM_append, bind_eq_ok]
  simp only [List.foldlM_cons, List.foldlM_nil, bind_pure, step_eq_ok, ← ways t]
  refine and_congr_right fun _ => ?_
  constructor
  · rintro ⟨place, walked, here, ⟨idle, -⟩ | ⟨up, -⟩ | ⟨-, -, short, present, same⟩⟩
    · rw [plain.not_isIdle] at idle
      contradiction
    · exact absurd up plain.noDots
    · exact ⟨short, place, (foldlM_eq_ok_iff_way here).mp walked, present, same⟩
  · rintro ⟨short, place, way, present, same⟩
    have here := way.last_isDirectory
    exact ⟨place, (foldlM_eq_ok_iff_way here).mpr way, here,
      .inr (.inr ⟨plain.not_isIdle, plain.noDots, short, present, same⟩)⟩

/-- The spot of a path is in the directory that the pieces before the last one lead to. -/
theorem spot_eq_ok {p : Path} {s : Spot} :
    t.spot p = .ok s ↔ checkPath p = .ok () ∧
      t.Way (t.start p) (Text.dropEndWhile (· == "") p.pieces).dropLast s.directory ∧
      (Text.dropEndWhile (· == "") p.pieces).getLast?.getD "." = s.name ∧
      (p.text.toList.getLast? == some '/') = s.slash := by
  rw [spot, check_eq_ok]
  dsimp only
  rw [← bind_assoc, bind_eq_ok]
  simp only [foldlM_step_eq_ok, pure, Except.pure, Except.ok.injEq]
  refine and_congr_right fun _ => ?_
  constructor
  · rintro ⟨place, way, rfl⟩
    exact ⟨way, rfl, rfl⟩
  · rintro ⟨way, named, slash⟩
    exact ⟨_, way, by rw [named, slash]⟩

/-- The spot of a name in a directory is below the directory that the path names. -/
theorem spot_join_eq_ok {base : Path} (plain : IsPlain name) {s : Spot} :
    t.spot (base.join ⟨name⟩) = .ok s ↔ checkPath (base.join ⟨name⟩) = .ok () ∧
      ∃ place, t.Opens base place ∧ ⟨place, name, false⟩ = s := by
  obtain ⟨before, joined, ways⟩ := way_join base plain
  have noSlash : ((base.join ⟨name⟩).text.toList.getLast? == some '/') = false := by
    obtain ⟨cs, c, whole⟩ := List.eq_nil_or_concat name.toList |>.resolve_left
      (by simpa using plain.filled)
    have last : c ≠ '/' := by
      rintro rfl
      exact plain.noSlash (by simp [whole])
    simp [Path.text_join base plain.noSlash, whole, last]
  rw [spot_eq_ok, joined, Text.dropEndWhile_concat before (by simpa using plain.filled), noSlash,
    List.dropLast_concat, List.getLast?_concat, Option.getD_some]
  refine and_congr_right fun _ => ?_
  constructor
  · rintro ⟨way, named, slash⟩
    exact ⟨_, (ways t _).mp way, by rw [named, slash]⟩
  · rintro ⟨place, opens, rfl⟩
    exact ⟨(ways t _).mpr opens, rfl, rfl⟩

/-! ## Reading -/

/-- The entry that a name in a directory leads to is the one below the directory. -/
theorem lookup_join_eq_ok {base : Path} (plain : IsPlain name) {entry : Entry} :
    t.lookup (base.join ⟨name⟩) = .ok entry ↔
      checkPath (base.join ⟨name⟩) = .ok () ∧ checkName name = .ok () ∧
        ∃ place, t.Opens base place ∧ t.entry? (place ++ [name]) = some entry := by
  rw [lookup, bind_eq_ok]
  simp only [find_join_eq_ok plain]
  constructor
  · rintro ⟨_, ⟨checked, short, place, opens, -, rfl⟩, found⟩
    refine ⟨checked, short, place, opens, ?_⟩
    cases here : t.entry? (place ++ [name]) with
    | none => simp [here, throw, throwThe, MonadExceptOf.throw] at found
    | some other => simpa [here, pure, Except.pure] using found
  · rintro ⟨checked, short, place, opens, here⟩
    exact ⟨_, ⟨checked, short, place, opens, by simp [here], rfl⟩,
      by simp [here, pure, Except.pure]⟩

/-- Nothing is found where the directory has no entry of the name. -/
theorem lookup_join_absent {base : Path} (plain : IsPlain name)
    (checked : checkPath (base.join ⟨name⟩) = .ok ()) (short : checkName name = .ok ())
    (opens : t.Opens base place) (missing : t.entry? (place ++ [name]) = none) :
    t.lookup (base.join ⟨name⟩) = .error .absent := by
  obtain ⟨before, joined, ways⟩ := way_join base plain
  have way := (ways t place).mpr opens
  have here := way.last_isDirectory
  have stop : t.step place name = .error .absent := by
    have entered := enter_eq_ok.mpr ⟨here, rfl⟩
    rw [step, entered]
    simp [bind, Except.bind, plain.not_isIdle, plain.noDots, short, missing, throw, throwThe,
      MonadExceptOf.throw]
  have missed : t.find (base.join ⟨name⟩) = .error .absent := by
    rw [find, checked, joined, List.foldlM_append, (foldlM_eq_ok_iff_way here).mpr way]
    simp [bind, Except.bind, stop]
  rw [lookup, missed]
  rfl

theorem readText_eq_ok {p : Path} {content : String} :
    t.readText p = .ok content ↔
      ∃ bytes, t.lookup p = .ok (.file bytes) ∧ Text.Utf8.decode? bytes = some content := by
  rw [readText, bind_eq_ok]
  constructor
  · rintro ⟨entry, found, read⟩
    cases entry with
    | directory => simp [throw, throwThe, MonadExceptOf.throw] at read
    | file bytes =>
      refine ⟨bytes, found, ?_⟩
      cases decoded : Text.Utf8.decode? bytes with
      | none => simp [decoded, throw, throwThe, MonadExceptOf.throw] at read
      | some text => simpa [decoded, pure, Except.pure] using read
  · rintro ⟨bytes, found, decoded⟩
    exact ⟨_, found, by simp [decoded, pure, Except.pure]⟩

/-- A file that can not be read for want of it is not there. -/
theorem readText_eq_absent {p : Path} :
    t.readText p = .error .absent ↔ t.lookup p = .error .absent := by
  rw [readText]
  cases t.lookup p with
  | error fault => simp [bind, Except.bind]
  | ok entry =>
    cases entry with
    | directory => simp [bind, Except.bind, throw, throwThe, MonadExceptOf.throw]
    | file bytes =>
      cases decoded : Text.Utf8.decode? bytes <;>
        simp [bind, Except.bind, decoded, pure, Except.pure, throw, throwThe, MonadExceptOf.throw]

theorem readText_of_lookup_error {p : Path} {fault : Fault} (failed : t.lookup p = .error fault) :
    t.readText p = .error fault := by
  rw [readText, failed]
  rfl

/-- A text is read by a name in a directory if the file below the directory holds one. -/
theorem readText_join_eq_ok {base : Path} (plain : IsPlain name) {content : String} :
    t.readText (base.join ⟨name⟩) = .ok content ↔
      checkPath (base.join ⟨name⟩) = .ok () ∧ checkName name = .ok () ∧
        ∃ place bytes, t.Opens base place ∧ t.entry? (place ++ [name]) = some (.file bytes) ∧
          Text.Utf8.decode? bytes = some content := by
  rw [readText_eq_ok]
  simp only [lookup_join_eq_ok plain]
  constructor
  · rintro ⟨bytes, ⟨checked, short, place, opens, here⟩, decoded⟩
    exact ⟨checked, short, place, bytes, opens, here, decoded⟩
  · rintro ⟨checked, short, place, bytes, opens, here, decoded⟩
    exact ⟨bytes, ⟨checked, short, place, opens, here⟩, decoded⟩

/-! ## Where a path leads -/

/-- The path leads to `place`, whether something is there or not. -/
def Leads (t : Tree) (p : Path) (place : Location) : Prop :=
  ∃ s, t.spot p = .ok s ∧ s.place = place

instance (t : Tree) (p : Path) (place : Location) : Decidable (t.Leads p place) :=
  decidable_of_iff ((t.spot p).toOption.map Spot.place = some place) (by
    unfold Leads
    cases t.spot p <;> simp [Except.toOption])

/-- A name in a directory leads below the directory that the path names, whether something is there
or not. -/
theorem leads_join_iff {base : Path} (plain : IsPlain name) {goal : Location} :
    t.Leads (base.join ⟨name⟩) goal ↔ checkPath (base.join ⟨name⟩) = .ok () ∧
      ∃ place, t.Opens base place ∧ place ++ [name] = goal := by
  rw [Leads]
  simp only [spot_join_eq_ok plain]
  constructor
  · rintro ⟨_, ⟨checked, place, opens, rfl⟩, same⟩
    exact ⟨checked, place, opens, same⟩
  · rintro ⟨checked, place, opens, same⟩
    exact ⟨_, ⟨checked, place, opens, rfl⟩, same⟩

end Tree

end TableSql.Files
