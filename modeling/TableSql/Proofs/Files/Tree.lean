import Mathlib.Data.List.Induction
import TableSql.Proofs.Files.Walk

/-!
# Changing trees

What a change does to the entries of a tree. No change takes a directory away or puts something in
its place (`DirectoriesStay`), so a path that names a directory names it after any change. A file
changes only where a path leads that is written, moved or removed (`Spares`), and a tree stays
well-formed: names are plain, and what stands in a directory stands in one that is there.
-/

namespace TableSql.Files

namespace Tree

variable {t t' t'' : Tree} {place : Location} {name : String} {p : Path}

/-! ## Entries -/

@[simp] theorem entry?_root (t : Tree) : t.entry? [] = some .directory := rfl

theorem entry?_of_ne_root (notRoot : place ≠ []) : t.entry? place = t.entries[place]? := by
  unfold entry?
  rw [if_neg (by simpa using notRoot)]

theorem entry?_set (notRoot : place ≠ []) (entry : Entry) (other : Location) :
    Tree.entry? (t.set place entry) other =
      if other = place then some entry else t.entry? other := by
  by_cases root : other = []
  · subst root
    rw [if_neg (Ne.symm notRoot)]
    rfl
  · rw [entry?_of_ne_root root, entry?_of_ne_root root, set, Std.TreeMap.getElem?_insert]
    by_cases same : other = place
    · simp [same]
    · simp [same, Ne.symm same]

theorem entry?_erase (notRoot : place ≠ []) (other : Location) :
    Tree.entry? (t.erase place) other = if other = place then none else t.entry? other := by
  by_cases root : other = []
  · subst root
    rw [if_neg (Ne.symm notRoot)]
    rfl
  · rw [entry?_of_ne_root root, entry?_of_ne_root root, erase, Std.TreeMap.getElem?_erase]
    by_cases same : other = place
    · simp [same]
    · simp [same, Ne.symm same]

theorem Spot.place_ne_root (s : Spot) : s.place ≠ [] := by simp [Spot.place]

/-! ## Directories stay -/

/-- Every directory of `t` is one of `t'`, and relative paths begin in the same directory. -/
structure DirectoriesStay (t t' : Tree) : Prop where
  home : t'.home = t.home
  stay : ∀ place, t.entry? place = some .directory → t'.entry? place = some .directory

theorem DirectoriesStay.refl (t : Tree) : t.DirectoriesStay t := ⟨rfl, fun _ => id⟩

theorem DirectoriesStay.trans (first : t.DirectoriesStay t') (second : t'.DirectoriesStay t'') :
    t.DirectoriesStay t'' :=
  ⟨second.home.trans first.home, fun place here => second.stay place (first.stay place here)⟩

theorem DirectoriesStay.start_eq (stays : t.DirectoriesStay t') (p : Path) :
    t'.start p = t.start p := by
  rw [start, start, stays.home]

theorem Opens.mono (stays : t.DirectoriesStay t') (opens : t.Opens p place) : t'.Opens p place := by
  rw [Opens, stays.start_eq]
  exact Way.mono stays.stay opens

/-- Where a path leads in a tree it leads wherever the directories stay. -/
theorem spot_mono (stays : t.DirectoriesStay t') {s : Spot} (found : t.spot p = .ok s) :
    t'.spot p = .ok s := by
  obtain ⟨checked, way, named, slash⟩ := spot_eq_ok.mp found
  refine spot_eq_ok.mpr ⟨checked, ?_, named, slash⟩
  rw [stays.start_eq]
  exact way.mono stays.stay

theorem Leads.mono (stays : t.DirectoriesStay t') (leads : t.Leads p place) : t'.Leads p place := by
  obtain ⟨s, found, same⟩ := leads
  exact ⟨s, spot_mono stays found, same⟩

/-- Setting an entry keeps all directories if there is none in its place. -/
theorem directoriesStay_set (notRoot : place ≠ []) (entry : Entry)
    (free : t.entry? place ≠ some .directory) : t.DirectoriesStay (t.set place entry) := by
  refine ⟨rfl, fun other here => ?_⟩
  have apart : other ≠ place := by
    rintro rfl
    exact free here
  rw [entry?_set notRoot, if_neg apart, here]

theorem directoriesStay_erase (notRoot : place ≠ []) (free : t.entry? place ≠ some .directory) :
    t.DirectoriesStay (t.erase place) := by
  refine ⟨rfl, fun other here => ?_⟩
  have apart : other ≠ place := by
    rintro rfl
    exact free here
  rw [entry?_erase notRoot, if_neg apart, here]

/-! ## Changes that succeed -/

/-- Writing succeeds exactly at a spot whose name can be that of a file, where no directory is, and
sets the entry there. -/
theorem write_eq_ok {content : List UInt8} :
    t.write p content = .ok t' ↔ ∃ s, t.spot p = .ok s ∧ (s.isDots = false ∧ s.slash = false) ∧
      checkName s.name = .ok () ∧ t.entry? s.place ≠ some .directory ∧
      t.set s.place (.file content) = t' := by
  rw [write, bind_eq_ok]
  refine exists_congr fun s => and_congr_right fun _ => ?_
  rw [guard_eq_ok, check_eq_ok]
  simp only [Bool.or_eq_true, not_or, Bool.not_eq_true]
  refine and_congr_right fun _ => and_congr_right fun _ => ?_
  cases t.entry? s.place with
  | none => simp [pure, Except.pure]
  | some entry => cases entry <;> simp [pure, Except.pure, throw, throwThe, MonadExceptOf.throw]

/-- Making a directory succeeds exactly where nothing is. -/
theorem makeDirectory_eq_ok :
    t.makeDirectory p = .ok t' ↔ ∃ s, t.spot p = .ok s ∧ s.isDots = false ∧
      checkName s.name = .ok () ∧ t.entry? s.place = none ∧ t.set s.place .directory = t' := by
  rw [makeDirectory, bind_eq_ok]
  refine exists_congr fun s => and_congr_right fun _ => ?_
  rw [guard_eq_ok, check_eq_ok, Bool.not_eq_true]
  refine and_congr_right fun _ => and_congr_right fun _ => ?_
  cases t.entry? s.place with
  | none => simp [pure, Except.pure]
  | some entry => simp [throw, throwThe, MonadExceptOf.throw]

/-- The file that a path names is the one at its spot. -/
theorem fileAt_eq_ok {content : List UInt8} :
    t.fileAt p = .ok (place, content) ↔ ∃ s, t.spot p = .ok s ∧
      (s.isDots = false ∧ s.slash = false) ∧ checkName s.name = .ok () ∧
      t.entry? s.place = some (.file content) ∧ s.place = place := by
  rw [fileAt, bind_eq_ok]
  refine exists_congr fun s => and_congr_right fun _ => ?_
  rw [guard_eq_ok, check_eq_ok, Bool.not_eq_true, and_assoc]
  refine and_congr_right fun _ => ?_
  cases t.entry? s.place with
  | none => simp [throw, throwThe, MonadExceptOf.throw]
  | some entry =>
    cases entry with
    | directory => simp [throw, throwThe, MonadExceptOf.throw]
    | file bytes => cases s.slash <;> simp [pure, Except.pure, throw, throwThe,
        MonadExceptOf.throw, bind, Except.bind, and_comm]

theorem rename_eq_ok {source target : Path} :
    t.rename source target = .ok t' ↔ ∃ place content, t.fileAt source = .ok (place, content) ∧
      (t.erase place).write target content = .ok t' := by
  rw [rename, bind_eq_ok]
  simp

theorem remove_eq_ok :
    t.remove p = .ok t' ↔ ∃ place content, t.fileAt p = .ok (place, content) ∧
      t.erase place = t' := by
  rw [remove, bind_eq_ok]
  simp [pure, Except.pure]

/-! ## Well-formed trees -/

/-- What stands in a tree has plain names and stands in a directory that is there. -/
structure WellFormed (t : Tree) : Prop where
  plain : ∀ place ∈ t.entries.keys, ∀ name ∈ place, IsPlain name
  above : ∀ place ∈ t.entries.keys, t.entry? place.dropLast = some .directory

instance (t : Tree) : Decidable t.WellFormed :=
  decidable_of_iff ((∀ place ∈ t.entries.keys, ∀ name ∈ place, IsPlain name) ∧
      ∀ place ∈ t.entries.keys, t.entry? place.dropLast = some .directory)
    ⟨fun ⟨a, b⟩ => ⟨a, b⟩, fun ⟨a, b⟩ => ⟨a, b⟩⟩

theorem mem_keys_of_present {entry : Entry} (notRoot : place ≠ [])
    (here : t.entry? place = some entry) : place ∈ t.entries.keys := by
  rw [entry?_of_ne_root notRoot] at here
  rw [Std.TreeMap.mem_keys, Std.TreeMap.mem_iff_isSome_getElem?, here]
  rfl

theorem exists_entry?_of_mem_keys (member : place ∈ t.entries.keys) :
    ∃ entry, t.entry? place = some entry := by
  by_cases root : place = []
  · exact ⟨.directory, by rw [root]; rfl⟩
  · rw [entry?_of_ne_root root]
    rw [Std.TreeMap.mem_keys, Std.TreeMap.mem_iff_isSome_getElem?] at member
    exact Option.isSome_iff_exists.mp member

theorem WellFormed.plain_of_present (wf : t.WellFormed) {entry : Entry}
    (here : t.entry? (place ++ [name]) = some entry) : IsPlain name :=
  wf.plain _ (mem_keys_of_present (by simp) here) name (by simp)

theorem WellFormed.above_of_present (wf : t.WellFormed) {entry : Entry}
    (here : t.entry? (place ++ [name]) = some entry) : t.entry? place = some .directory := by
  simpa using wf.above _ (mem_keys_of_present (by simp) here)

theorem WellFormed.plain_of_directory (wf : t.WellFormed)
    (here : t.entry? place = some .directory) : ∀ name ∈ place, IsPlain name := by
  by_cases root : place = []
  · simp [root]
  · exact wf.plain place (mem_keys_of_present root here)

/-- A way that never goes up was there before its last directory was. -/
theorem Way.of_last {pieces : List String} {last : Location} (wf : t.WellFormed)
    (way : t'.Way place pieces last) (noUp : ".." ∉ pieces)
    (there : t.entry? last = some .directory) : t.Way place pieces last := by
  induction way with
  | done _ => exact .done there
  | idle _ idle _ ih =>
    have rest := ih (fun up => noUp (List.mem_cons_of_mem _ up)) there
    exact .idle rest.first_isDirectory idle rest
  | up => exact absurd List.mem_cons_self noUp
  | down _ names notUp short _ ih =>
    have rest := ih (fun up => noUp (List.mem_cons_of_mem _ up)) there
    exact .down (wf.above_of_present rest.first_isDirectory) names notUp short rest

/-- The name of a spot is plain unless it is one of the names that directories have for certain. -/
theorem isPlain_of_spot {s : Spot} (found : t.spot p = .ok s) (noDots : s.isDots = false) :
    IsPlain s.name := by
  obtain ⟨-, -, named, -⟩ := spot_eq_ok.mp found
  rw [Spot.isDots, Bool.or_eq_false_iff, beq_eq_false_iff_ne, beq_eq_false_iff_ne] at noDots
  obtain ⟨noDot, noDots⟩ := noDots
  cases last : (Text.dropEndWhile (· == "") p.pieces).getLast? with
  | none =>
    rw [last] at named
    exact absurd named.symm noDot
  | some piece =>
    rw [last, Option.getD_some] at named
    have filled := Text.not_of_getLast?_dropEndWhile last
    obtain ⟨dropped, split, -⟩ := Text.dropEndWhile_eq (· == "") p.pieces
    have member : piece ∈ p.pieces := by
      rw [split]
      exact List.mem_append_left _ (List.mem_of_getLast? last)
    rw [← named] at noDot noDots ⊢
    exact ⟨Path.noSlash_of_mem_pieces member, by simpa using filled, noDot, noDots⟩

/-- A new entry at a spot, where there is no directory yet, keeps a tree well-formed. -/
theorem WellFormed.set (wf : t.WellFormed) {s : Spot} (found : t.spot p = .ok s)
    (noDots : s.isDots = false) (entry : Entry) (free : t.entry? s.place ≠ some .directory) :
    (t.set s.place entry).WellFormed := by
  have stays := directoriesStay_set s.place_ne_root entry free
  have directory : t.entry? s.directory = some .directory := by
    obtain ⟨-, way, -, -⟩ := spot_eq_ok.mp found
    exact way.last_isDirectory
  have named : ∀ place ∈ (t.set s.place entry).entries.keys,
      place = s.place ∨ place ∈ t.entries.keys := by
    intro place member
    rw [Tree.set, Std.TreeMap.mem_keys, Std.TreeMap.mem_insert] at member
    rw [Std.TreeMap.mem_keys]
    exact member.imp_left fun same => (Std.LawfulEqCmp.eq_of_compare same).symm
  refine ⟨fun place member => ?_, fun place member => ?_⟩
  · rcases named place member with rfl | old
    · intro piece inPlace
      rcases List.mem_append.mp inPlace with inDirectory | last
      · exact wf.plain_of_directory directory piece inDirectory
      · rw [List.mem_singleton.mp last]
        exact isPlain_of_spot found noDots
    · exact wf.plain place old
  · rcases named place member with rfl | old
    · rw [Spot.place, List.dropLast_concat]
      exact stays.stay _ directory
    · exact stays.stay _ (wf.above place old)

/-- A tree stays well-formed when something other than a directory is taken away, as nothing stands
in it. -/
theorem WellFormed.erase (wf : t.WellFormed) (notRoot : place ≠ [])
    (free : t.entry? place ≠ some .directory) : (t.erase place).WellFormed := by
  have stays := directoriesStay_erase notRoot free
  have old : ∀ other ∈ (t.erase place).entries.keys, other ∈ t.entries.keys := by
    intro other member
    rw [Tree.erase, Std.TreeMap.mem_keys, Std.TreeMap.mem_erase] at member
    exact Std.TreeMap.mem_keys.mpr member.2
  exact ⟨fun other member => wf.plain other (old other member),
    fun other member => stays.stay _ (wf.above other (old other member))⟩

theorem WellFormed.write (wf : t.WellFormed) {content : List UInt8}
    (written : t.write p content = .ok t') : t'.WellFormed := by
  obtain ⟨s, found, ⟨noDots, -⟩, -, free, rfl⟩ := write_eq_ok.mp written
  exact wf.set found noDots _ free

theorem WellFormed.makeDirectory (wf : t.WellFormed) (made : t.makeDirectory p = .ok t') :
    t'.WellFormed := by
  obtain ⟨s, found, noDots, -, missing, rfl⟩ := makeDirectory_eq_ok.mp made
  exact wf.set found noDots _ (by simp [missing])

theorem WellFormed.remove (wf : t.WellFormed) (removed : t.remove p = .ok t') :
    t'.WellFormed := by
  obtain ⟨place, content, atFile, rfl⟩ := remove_eq_ok.mp removed
  obtain ⟨s, found, -, -, here, rfl⟩ := fileAt_eq_ok.mp atFile
  exact wf.erase s.place_ne_root (by simp [here])

/-! ## Files that are left alone -/

/-- Between `t` and `t'` only some paths were written: a file stays as it is where none of them
leads. -/
structure Spares (paths : List Path) (t t' : Tree) : Prop extends t.DirectoriesStay t' where
  wellFormed : t.WellFormed → t'.WellFormed
  files : ∀ place content, t.entry? place = some (.file content) →
    (∀ p ∈ paths, ¬t'.Leads p place) → t'.entry? place = some (.file content)

variable {paths : List Path}

theorem Spares.refl (paths : List Path) (t : Tree) : Spares paths t t :=
  ⟨.refl t, id, fun _ _ here _ => here⟩

/-- What two changes leave, one after the other, is left by both. -/
theorem Spares.trans (first : Spares paths t t') (second : Spares paths t' t'') :
    Spares paths t t'' := by
  refine ⟨first.toDirectoriesStay.trans second.toDirectoriesStay,
    fun wf => second.wellFormed (first.wellFormed wf), ?_⟩
  intro place content here apart
  -- Where a path leads in between, it leads in the end.
  have between := first.files place content here fun p member leads =>
    apart p member (leads.mono second.toDirectoriesStay)
  exact second.files place content between apart

theorem Spares.mono {more : List Path} (spares : Spares paths t t') (subset : paths ⊆ more) :
    Spares more t t' :=
  ⟨spares.toDirectoriesStay, spares.wellFormed, fun place content here apart =>
    spares.files place content here fun p member => apart p (subset member)⟩

/-- Writing changes no file but the one that the path leads to. -/
theorem spares_of_write {content : List UInt8} (written : t.write p content = .ok t') :
    Spares [p] t t' := by
  obtain ⟨s, found, -, -, free, same⟩ := write_eq_ok.mp written
  have stays := directoriesStay_set s.place_ne_root (.file content) free
  rw [same] at stays
  refine ⟨stays, fun wf => wf.write written, fun place content here apart => ?_⟩
  have elsewhere : place ≠ s.place := fun same =>
    apart p List.mem_cons_self ⟨s, spot_mono stays found, same.symm⟩
  rw [← same, entry?_set s.place_ne_root, if_neg elsewhere, here]

theorem spares_of_makeDirectory (made : t.makeDirectory p = .ok t') : Spares [] t t' := by
  obtain ⟨s, found, -, -, missing, same⟩ := makeDirectory_eq_ok.mp made
  have free : t.entry? s.place ≠ some .directory := by simp [missing]
  have stays := directoriesStay_set s.place_ne_root .directory free
  rw [same] at stays
  refine ⟨stays, fun wf => wf.makeDirectory made, fun place content here _ => ?_⟩
  have elsewhere : place ≠ s.place := by
    rintro rfl
    rw [missing] at here
    contradiction
  rw [← same, entry?_set s.place_ne_root, if_neg elsewhere, here]

theorem spares_of_remove (removed : t.remove p = .ok t') : Spares [p] t t' := by
  obtain ⟨place, content, atFile, same⟩ := remove_eq_ok.mp removed
  obtain ⟨s, found, -, -, here, rfl⟩ := fileAt_eq_ok.mp atFile
  have free : t.entry? s.place ≠ some .directory := by simp [here]
  have stays := directoriesStay_erase s.place_ne_root free
  rw [same] at stays
  refine ⟨stays, fun wf => wf.remove removed, fun place content here apart => ?_⟩
  have elsewhere : place ≠ s.place := fun same =>
    apart p List.mem_cons_self ⟨s, spot_mono stays found, same.symm⟩
  rw [← same, entry?_erase s.place_ne_root, if_neg elsewhere, here]

/-- Moving a file changes no others but those that the two paths lead to. -/
theorem spares_of_rename {source target : Path} (renamed : t.rename source target = .ok t') :
    Spares [source, target] t t' := by
  obtain ⟨place, content, atFile, written⟩ := rename_eq_ok.mp renamed
  -- Moving a file is removing it and writing what it held.
  have removed : t.remove source = .ok (t.erase place) := remove_eq_ok.mpr ⟨_, _, atFile, rfl⟩
  exact ((spares_of_remove removed).mono (by simp)).trans ((spares_of_write written).mono (by simp))

/-! ## Changes in a directory -/

/-- What is written by a name in a directory is set where the directory is. -/
theorem write_join {base : Path} (plain : IsPlain name) {content : List UInt8}
    (written : t.write (base.join ⟨name⟩) content = .ok t') :
    checkPath (base.join ⟨name⟩) = .ok () ∧ checkName name = .ok () ∧
      ∃ place, t.Opens base place ∧ t.entry? (place ++ [name]) ≠ some .directory ∧
        t.set (place ++ [name]) (.file content) = t' := by
  obtain ⟨s, found, -, short, free, rfl⟩ := write_eq_ok.mp written
  obtain ⟨checked, place, opens, rfl⟩ := (spot_join_eq_ok plain).mp found
  exact ⟨checked, short, place, opens, free, rfl⟩

/-- What is removed by a name in a directory was a file there. -/
theorem remove_join {base : Path} (plain : IsPlain name)
    (removed : t.remove (base.join ⟨name⟩) = .ok t') :
    ∃ place content, t.Opens base place ∧ t.entry? (place ++ [name]) = some (.file content) ∧
      t.erase (place ++ [name]) = t' := by
  obtain ⟨_, content, atFile, rfl⟩ := remove_eq_ok.mp removed
  obtain ⟨s, found, -, -, here, rfl⟩ := fileAt_eq_ok.mp atFile
  obtain ⟨-, place, opens, rfl⟩ := (spot_join_eq_ok plain).mp found
  exact ⟨place, content, opens, here, rfl⟩

/-- A file that is moved within a directory is taken away under one name and set under the other. -/
theorem rename_join {base : Path} {source target : String} (plain : IsPlain source)
    (plain' : IsPlain target)
    (renamed : t.rename (base.join ⟨source⟩) (base.join ⟨target⟩) = .ok t') :
    checkPath (base.join ⟨target⟩) = .ok () ∧ checkName target = .ok () ∧
      ∃ place content, t.Opens base place ∧ t.entry? (place ++ [source]) = some (.file content) ∧
        (t.erase (place ++ [source])).set (place ++ [target]) (.file content) = t' := by
  obtain ⟨_, content, atFile, written⟩ := rename_eq_ok.mp renamed
  obtain ⟨s, found, -, -, here, rfl⟩ := fileAt_eq_ok.mp atFile
  obtain ⟨-, place, opens, rfl⟩ := (spot_join_eq_ok plain).mp found
  obtain ⟨checked, short, place', opens', -, rfl⟩ := write_join plain' written
  -- The file that goes away is no directory, so the path leads there as before.
  have stays : t.DirectoriesStay (t.erase (place ++ [source])) :=
    directoriesStay_erase (by simp) (by rw [show t.entry? (place ++ [source]) = _ from here]; simp)
  obtain rfl := opens'.unique (opens.mono stays)
  exact ⟨checked, short, place', content, opens, here, rfl⟩

/-- In the directory at `place` some names were given entries or lost theirs, and nothing else was
done. -/
structure Edited (place : Location) (edits : List (String × Option Entry)) (t t' : Tree) : Prop
    extends t.DirectoriesStay t' where
  made : ∀ edit ∈ edits, t'.entry? (place ++ [edit.1]) = edit.2
  others : ∀ other, (∀ edit ∈ edits, other ≠ place ++ [edit.1]) →
    t'.entry? other = t.entry? other

variable {edits edits' : List (String × Option Entry)}

theorem Edited.refl (place : Location) (t : Tree) : Edited place [] t t :=
  ⟨.refl t, by simp, fun _ _ => rfl⟩

theorem Edited.of_nil (edited : Edited place [] t t') (other : Location) : Edited other [] t t' :=
  ⟨edited.toDirectoriesStay, by simp, fun _ _ => edited.others _ (by simp)⟩

/-- Changes one after the other are all made, unless they contradict each other. -/
theorem Edited.append (first : Edited place edits t t') (second : Edited place edits' t' t'')
    (agree : ∀ edit ∈ edits, ∀ edit' ∈ edits', edit.1 = edit'.1 → edit.2 = edit'.2) :
    Edited place (edits ++ edits') t t'' := by
  refine ⟨first.toDirectoriesStay.trans second.toDirectoriesStay, fun edit member => ?_, ?_⟩
  · rcases List.mem_append.mp member with early | late
    · by_cases again : ∃ edit' ∈ edits', edit.1 = edit'.1
      · obtain ⟨edit', late, same⟩ := again
        rw [same, second.made edit' late, agree edit early edit' late same]
      · rw [← first.made edit early]
        apply second.others
        intro edit' late same
        exact again ⟨edit', late, by simpa using same⟩
    · exact second.made edit late
  · intro other apart
    rw [List.forall_mem_append] at apart
    rw [second.others other apart.2, first.others other apart.1]

/-- Removing a file takes its name out of the directory. -/
theorem edited_of_remove {base : Path} (plain : IsPlain name)
    (removed : t.remove (base.join ⟨name⟩) = .ok t') :
    ∃ place, t.Opens base place ∧ Edited place [(name, none)] t t' := by
  obtain ⟨place, content, opens, here, rfl⟩ := remove_join plain removed
  have notRoot : place ++ [name] ≠ [] := by simp
  have free : t.entry? (place ++ [name]) ≠ some .directory := by simp [here]
  refine ⟨place, opens, directoriesStay_erase notRoot free, ?_, ?_⟩
  · simp [entry?_erase notRoot]
  · intro other apart
    rw [entry?_erase notRoot, if_neg (apart _ List.mem_cons_self)]

/-- Writing a file beside its place and moving it there changes these two names. -/
theorem edited_of_replace {base : Path} {beside : String} (plain : IsPlain name)
    (plain' : IsPlain beside) (apart : name ≠ beside) {content : List UInt8}
    (written : t.write (base.join ⟨beside⟩) content = .ok t')
    (renamed : t'.rename (base.join ⟨beside⟩) (base.join ⟨name⟩) = .ok t'') :
    ∃ place, t.Opens base place ∧
      Edited place [(beside, none), (name, some (.file content))] t t'' := by
  have stays := (spares_of_write written).toDirectoriesStay.trans
    (spares_of_rename renamed).toDirectoriesStay
  obtain ⟨-, -, place, opens, -, rfl⟩ := write_join plain' written
  obtain ⟨-, -, place', content', opens', here, rfl⟩ := rename_join plain' plain renamed
  obtain rfl := opens'.unique (opens.mono (spares_of_write written).toDirectoriesStay)
  have root (last : String) : place' ++ [last] ≠ [] := by simp
  have same : content' = content := by
    rw [entry?_set (root beside), if_pos rfl, Option.some.injEq, Entry.file.injEq] at here
    exact here.symm
  subst same
  refine ⟨place', opens, stays, ?_, ?_⟩
  · rw [List.forall_mem_cons, List.forall_mem_singleton]
    constructor
    · rw [entry?_set (root name), if_neg (by simpa using Ne.symm apart), entry?_erase (root beside),
        if_pos rfl]
    · rw [entry?_set (root name), if_pos rfl]
  · intro other elsewhere
    rw [List.forall_mem_cons, List.forall_mem_singleton] at elsewhere
    rw [entry?_set (root name), if_neg elsewhere.2, entry?_erase (root beside), if_neg elsewhere.1,
      entry?_set (root beside), if_neg elsewhere.1]

/-! ## Trees with the same entries -/

/-- Two trees hold the same, and relative paths begin in the same directory. -/
structure Same (t t' : Tree) : Prop where
  home : t'.home = t.home
  entries : ∀ place, t'.entry? place = t.entry? place

theorem Same.refl (t : Tree) : t.Same t := ⟨rfl, fun _ => rfl⟩

/-- Trees that hold the same have the same at every path. -/
theorem Same.lookup_eq (same : t.Same t') (p : Path) : t'.lookup p = t.lookup p := by
  have enter : t'.enter = t.enter := by
    funext place
    rw [Tree.enter, Tree.enter, same.entries]
  have step : t'.step = t.step := by
    funext place piece
    rw [Tree.step, Tree.step, enter]
    simp only [same.entries]
  rw [lookup, lookup, find, find, step, start, start, same.home]
  simp only [same.entries]

theorem Same.readText_eq (same : t.Same t') (p : Path) : t'.readText p = t.readText p := by
  rw [readText, readText, same.lookup_eq]

/-! ## Directories that are made -/

/-- A directory that is made is where its path leads. -/
theorem opens_of_makeDirectory (made : t.makeDirectory p = .ok t') :
    ∃ place, t'.Opens p place ∧ t.entry? place = none ∧ t.set place .directory = t' := by
  have stays := (spares_of_makeDirectory made).toDirectoriesStay
  obtain ⟨s, found, noDots, short, missing, rfl⟩ := makeDirectory_eq_ok.mp made
  refine ⟨s.place, ?_, missing, rfl⟩
  have plain := isPlain_of_spot found noDots
  obtain ⟨-, way, named, -⟩ := spot_eq_ok.mp found
  obtain ⟨dropped, split, empty⟩ := Text.dropEndWhile_eq (· == "") p.pieces
  -- The name is the last piece: a path without pieces would have been taken for a dot.
  have last : Text.dropEndWhile (· == "") p.pieces =
      (Text.dropEndWhile (· == "") p.pieces).dropLast ++ [s.name] := by
    cases found : (Text.dropEndWhile (· == "") p.pieces).getLast? with
    | none =>
      rw [found] at named
      exact absurd named.symm plain.noDot
    | some piece =>
      rw [found, Option.getD_some] at named
      obtain ⟨before, whole⟩ := List.getLast?_eq_some_iff.mp found
      rw [whole, List.dropLast_concat, named]
  have down : (t.set s.place .directory).Way s.directory [s.name] s.place := by
    have here : Tree.entry? (t.set s.place .directory) s.place = some .directory := by
      rw [entry?_set s.place_ne_root, if_pos rfl]
    exact .down (stays.stay _ way.last_isDirectory) plain.not_isIdle plain.noDots short (.done here)
  rw [Opens, stays.start_eq, split, last]
  refine (way_append_idle fun piece member => ?_).mpr
    (way_append.mpr ⟨s.directory, way.mono stays.stay, down⟩)
  simp [Path.isIdle, empty piece member]

/-- A directory that is there is taken. -/
theorem makeDirectory_of_opens (checked : checkPath p = .ok ()) (opens : t.Opens p place) :
    t.makeDirectory p = .error .taken := by
  obtain ⟨dropped, split, empty⟩ := Text.dropEndWhile_eq (· == "") p.pieces
  have way : t.Way (t.start p) (Text.dropEndWhile (· == "") p.pieces) place := by
    rw [Opens, split] at opens
    exact (way_append_idle fun piece member => by simp [Path.isIdle, empty piece member]).mp opens
  have found (directory : Location) (name : String)
      (first : t.Way (t.start p) (Text.dropEndWhile (· == "") p.pieces).dropLast directory)
      (named : (Text.dropEndWhile (· == "") p.pieces).getLast?.getD "." = name) :
      t.spot p = .ok ⟨directory, name, p.text.toList.getLast? == some '/'⟩ :=
    spot_eq_ok.mpr ⟨checked, first, named, rfl⟩
  rw [makeDirectory]
  -- The spot is known by the last piece: none, one that stays in place or goes up, or a name.
  cases last : (Text.dropEndWhile (· == "") p.pieces).getLast? with
  | none =>
    rw [List.getLast?_eq_none_iff] at last
    rw [last] at way found
    rw [found _ "." way rfl]
    rfl
  | some name =>
    have filled := Text.not_of_getLast?_dropEndWhile last
    obtain ⟨before, whole⟩ := List.getLast?_eq_some_iff.mp last
    rw [whole] at way found
    obtain ⟨middle, first, step⟩ := way_append.mp way
    rw [found middle name (by simpa using first) (by simp)]
    cases step with
    | idle _ idle =>
      have dot : name = "." := by simpa [Path.isIdle, filled] using idle
      rw [dot]
      rfl
    | up =>
      rfl
    | down _ names notUp short rest =>
      have noDots : (name == "." || name == "..") = false := by
        simp_all [Path.isIdle]
      have here := rest.first_isDirectory
      simp [bind, Except.bind, Spot.isDots, Spot.place, noDots, short, here, throw, throwThe,
        MonadExceptOf.throw]

/-! ## Names in a directory -/

/-- What has a name in a directory stands one level below it. -/
theorem nameIn?_eq_some {directory : Location} :
    nameIn? directory place = some name ↔ place = directory ++ [name] := by
  unfold nameIn?
  constructor
  · intro found
    split at found
    · next below =>
      obtain ⟨length, isPrefix⟩ := below
      obtain ⟨rest, rfl⟩ := List.isPrefixOf_iff_prefix.mp isPrefix
      rw [List.length_append] at length
      obtain ⟨last, rfl⟩ := List.length_eq_one_iff.mp (show rest.length = 1 by omega)
      rw [List.getLast?_concat] at found
      rw [Option.some.inj found]
    · contradiction
  · rintro rfl
    rw [if_pos ⟨by simp, by simp⟩, List.getLast?_concat]

/-- A directory lists the names of what stands in it. -/
theorem mem_names_iff {names : List String} (listed : t.names p = .ok names) :
    name ∈ names ↔ ∃ place, t.Opens p place ∧ t.entry? (place ++ [name]) ≠ none := by
  obtain ⟨-, place, opens, rfl⟩ := names_eq_ok.mp listed
  rw [List.mem_filterMap]
  simp only [nameIn?_eq_some]
  constructor
  · rintro ⟨_, member, rfl⟩
    obtain ⟨entry, here⟩ := exists_entry?_of_mem_keys member
    exact ⟨place, opens, by simp [here]⟩
  · rintro ⟨place', opens', present⟩
    obtain rfl := opens.unique opens'
    obtain ⟨entry, here⟩ := Option.ne_none_iff_exists'.mp present
    exact ⟨_, mem_keys_of_present (by simp) here, rfl⟩

/-- A directory lists no name twice. -/
theorem nodup_names {names : List String} (listed : t.names p = .ok names) : names.Nodup := by
  obtain ⟨-, place, -, rfl⟩ := names_eq_ok.mp listed
  apply List.Pairwise.filterMap _ ?_ Std.TreeMap.nodup_keys
  intro first second apart name hasName other hasOther same
  rw [nameIn?_eq_some] at hasName hasOther
  exact apart (by rw [hasName, hasOther, same])

theorem WellFormed.plain_of_mem_names (wf : t.WellFormed) {names : List String}
    (listed : t.names p = .ok names) (member : name ∈ names) : IsPlain name := by
  obtain ⟨place, -, present⟩ := (mem_names_iff listed).mp member
  obtain ⟨entry, here⟩ := Option.ne_none_iff_exists'.mp present
  exact wf.plain_of_present here

end Tree

end TableSql.Files
