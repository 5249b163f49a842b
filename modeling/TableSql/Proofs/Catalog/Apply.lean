import TableSql.Proofs.Catalog.Plan

/-!
# Carrying out a plan

A file that is written changes two names of its directory, a file that is removed one, and nothing
else but the directories that are made (`written_of_writeFile`, `Written.cons`). So a plan that is
carried out leaves the directory with exactly these names changed (`applied_of_apply`).

Whatever comes of it, only the files of the plan and those beside them are touched
(`leaves_apply`).
-/

namespace TableSql.Catalog

open Files

variable {t t' t'' s : Tree} {directory : Path} {files : List File} {p : Plan}

/-! ## One file -/

/-- The directories above a file, as they are made. -/
def directoriesAbove (f : File) : List Path := (f.path.parent?.map Path.ancestors).getD []

/-- What writing a file does to the names in its directory. -/
def edits (f : File) : List (String × Option Entry) :=
  [(temporaryName f.table, none), (fileName f.table, some (.file (Text.Utf8.encode f.content)))]

/-- The paths that writing a file writes. -/
def writtenPaths (f : File) : List Path := [f.path, temporary f.path]

/-- The path of a file and the one beside it can be paths, and so can their names be names. -/
structure Nameable (directory : Path) (f : File) : Prop where
  path : Tree.checkPath (directory.join ⟨fileName f.table⟩) = .ok ()
  name : Tree.checkName (fileName f.table) = .ok ()
  temporaryPath : Tree.checkPath (directory.join ⟨temporaryName f.table⟩) = .ok ()
  temporaryName : Tree.checkName (temporaryName f.table) = .ok ()

/-- Some files were written in a directory: missing directories above them were made, and then the
names in their directory were changed. -/
structure Written (directory : Path) (files : List File) (t s t' : Tree) (place : Location) :
    Prop where
  grown : Grown (files.flatMap directoriesAbove) t s
  idle : ∀ place, t.Opens directory place → s = t
  opens : files ≠ [] → s.Opens directory place
  edited : Tree.Edited place (files.flatMap edits) s t'
  nameable : ∀ f ∈ files, Nameable directory f

section

variable [A : Access (StateM Tree)] (lawful : OnTrees A)

include lawful

/-- Writing a file that succeeds makes the directories above it, puts the content in its place, and
leaves nothing beside it. -/
theorem written_of_writeFile {f : File} (path : f.path = directory.join ⟨fileName f.table⟩)
    (ran : runOn (writeFile f) t = (.ok (), t')) :
    ∃ s place, Written directory [f] t s t' place := by
  have plain := isPlain_fileName f.table
  have plain' := isPlain_temporaryName f.table
  obtain ⟨above, parent, alike, isPrefix⟩ := directory.parent?_join plain
  unfold writeFile at ran
  rw [path, parent, temporary_join] at ran
  obtain ⟨⟨⟩, s, made, rest⟩ := runOn_bind_eq_ok.mp ran
  obtain ⟨⟨⟩, s', written, renamed⟩ := runOn_bind_eq_ok.mp rest
  rw [runOn_attempt_eq_ok] at made written renamed
  rw [lawful.writeText, runOn_change_eq_ok] at written
  rw [lawful.rename, runOn_change_eq_ok] at renamed
  obtain ⟨checked', short', -⟩ := Tree.write_join plain' written
  obtain ⟨checked, short, -⟩ := Tree.rename_join plain' plain renamed
  obtain ⟨place, opens, edited⟩ := Tree.edited_of_replace plain plain'
    (fileName_ne_temporaryName f.table f.table) written renamed
  have directories : [f].flatMap directoriesAbove = above.ancestors := by
    rw [List.flatMap_singleton, directoriesAbove, path, parent]
    rfl
  refine ⟨s, place, ?_, fun here opened => ?_, fun _ => opens, ?_, ?_⟩
  · rw [directories]
    have grown := leaves_makeUnder lawful above.ancestors t
    rw [← makeDirectories, made] at grown
    exact grown
  · -- The directory is there, so nothing was made.
    have noop := makeDirectories_of_opens lawful (p := above)
      (fun filled => Tree.checkPath_of_prefix checked filled isPrefix)
      ((Tree.opens_congr alike).mp opened)
    rw [noop, Prod.mk.injEq] at made
    exact made.2.symm
  · rw [List.flatMap_singleton]
    exact edited
  · rw [List.forall_mem_singleton]
    exact ⟨checked, short, checked', short'⟩

end

/-! ## All files -/

/-- No two files of a catalog are written through one name, so the changes of a file and those of
the files behind it agree wherever they meet. -/
theorem edits_agree {f : File} (catalog : IsCatalog directory (f :: files)) :
    ∀ edit ∈ edits f, ∀ edit' ∈ files.flatMap edits, edit.1 = edit'.1 → edit.2 = edit'.2 := by
  have distinct := List.nodup_cons.mp catalog.distinct
  intro edit member edit' member' same
  obtain ⟨g, inFiles, member'⟩ := List.mem_flatMap.mp member'
  simp only [edits, List.mem_cons, List.not_mem_nil, or_false] at member member'
  rcases member with rfl | rfl <;> rcases member' with rfl | rfl
  · rfl
  · exact absurd same.symm (fileName_ne_temporaryName g.table f.table)
  · exact absurd same (fileName_ne_temporaryName f.table g.table)
  · exact absurd (List.mem_map.mpr ⟨g, inFiles, same.symm⟩) distinct.1

/-- After a file the directory is there, so no other is made for the files after it. -/
theorem Written.cons {f : File} {u u' : Tree} {place place' : Location}
    (catalog : IsCatalog directory (f :: files)) (first : Written directory [f] t s u place)
    (rest : Written directory files u u' t' place') :
    Written directory (f :: files) t s t' place := by
  have opens := first.opens (List.cons_ne_nil f [])
  have there := opens.mono first.edited.toDirectoriesStay
  obtain rfl := rest.idle place there
  have edited : Tree.Edited place (files.flatMap edits) u' t' := by
    by_cases none : files = []
    · subst none
      exact rest.edited.of_nil place
    · rw [there.unique (rest.opens none)]
      exact rest.edited
  have first' := first.edited
  rw [List.flatMap_singleton] at first'
  refine ⟨first.grown.mono ?_, first.idle, fun _ => opens, ?_, ?_⟩
  · rw [List.flatMap_singleton, List.flatMap_cons]
    exact List.subset_append_left _ _
  · rw [List.flatMap_cons]
    exact first'.append edited (edits_agree catalog)
  · exact List.forall_mem_cons.mpr ⟨first.nameable f (by simp), rest.nameable⟩

section

variable [A : Access (StateM Tree)] (lawful : OnTrees A)

include lawful

/-- Writing all files of a catalog changes the names of all of them; by induction on the files, as
none undoes what another did. -/
theorem written_of_writeFiles (catalog : IsCatalog directory files)
    (ran : runOn (files.forM writeFile) t = (.ok (), t')) :
    ∃ s place, Written directory files t s t' place := by
  induction files generalizing t with
  | nil =>
    obtain rfl : t = t' := congrArg Prod.snd ran
    exact ⟨t, [], .refl _ t, fun _ _ => rfl, fun none => absurd rfl none, .refl _ t, by simp⟩
  | cons f files ih =>
    obtain ⟨⟨⟩, u, first, rest⟩ := runOn_bind_eq_ok.mp ran
    obtain ⟨s, place, written⟩ :=
      written_of_writeFile lawful (catalog.path f List.mem_cons_self) first
    obtain ⟨u', place', others⟩ := ih (catalog.of_subset (List.sublist_cons_self f files)) rest
    exact ⟨s, place, written.cons catalog others⟩

/-- Removing files of a directory takes their names out of it. -/
theorem edited_of_removals {names : List String} (plain : ∀ name ∈ names, IsPlain name)
    {place : Location} (opens : t.Opens directory place)
    (ran : runOn (names.forM fun name =>
      attempt (.remove (directory.join ⟨name⟩)) (Access.remove (directory.join ⟨name⟩))) t =
        (.ok (), t')) :
    Tree.Edited place (names.map fun name => (name, none)) t t' := by
  induction names generalizing t with
  | nil =>
    obtain rfl : t = t' := congrArg Prod.snd ran
    exact .refl _ t
  | cons name names ih =>
    obtain ⟨head, tail⟩ := List.forall_mem_cons.mp plain
    obtain ⟨⟨⟩, u, first, rest⟩ := runOn_bind_eq_ok.mp ran
    rw [runOn_attempt_eq_ok, lawful.remove, runOn_change_eq_ok] at first
    obtain ⟨place', opens', edited⟩ := Tree.edited_of_remove head first
    obtain rfl := opens.unique opens'
    have others := ih tail (opens.mono edited.toDirectoriesStay) rest
    refine edited.append others fun edit member edit' member' _ => ?_
    obtain ⟨other, -, rfl⟩ := List.mem_map.mp member'
    rw [List.mem_singleton.mp member]

end

/-! ## A whole plan -/

namespace Plan

/-- The files that a plan writes. -/
def written (p : Plan) : List File := (p.files.filter (·.2 ≠ .unchanged)).map Prod.fst

/-- The changes of a plan that remove a file. -/
def removals (p : Plan) : List Change := p.changes.filter (·.status = .removed)

end Plan

theorem Planned.exists_status (planned : Planned t directory files p) {f : File}
    (member : f ∈ files) : ∃ status, Compares t f status := by
  rw [← planned.map_files] at member
  obtain ⟨⟨g, status⟩, inPlan, rfl⟩ := List.mem_map.mp member
  exact ⟨status, (planned.mem_files.mp inPlan).2⟩

/-- A plan writes the files that differ. -/
theorem Planned.mem_written (planned : Planned t directory files p) {f : File} :
    f ∈ p.written ↔ f ∈ files ∧ t.readText f.path ≠ .ok f.content := by
  rw [Plan.written, List.mem_map]
  simp only [List.mem_filter, decide_eq_true_eq]
  constructor
  · rintro ⟨⟨g, status⟩, ⟨member, differs⟩, rfl⟩
    obtain ⟨inFiles, compares⟩ := planned.mem_files.mp member
    exact ⟨inFiles, fun same => differs (compares.unique (show Compares t g .unchanged from same))⟩
  · rintro ⟨inFiles, differs⟩
    obtain ⟨status, compares⟩ := planned.exists_status inFiles
    refine ⟨(f, status), ⟨planned.mem_files.mpr ⟨inFiles, compares⟩, ?_⟩, rfl⟩
    rintro rfl
    exact differs compares

theorem Planned.catalog_written (planned : Planned t directory files p)
    (catalog : IsCatalog directory files) : IsCatalog directory p.written := by
  apply catalog.of_subset
  rw [← planned.map_files]
  exact List.filter_sublist.map _

/-- What a plan removes are the stale files. -/
theorem Planned.mem_removals (planned : Planned t directory files p) {c : Change} :
    c ∈ p.removals ↔
      ∃ name table, Stale t directory files name table ∧ c = removal directory name table := by
  rw [Plan.removals, List.mem_filter, planned.mem_changes, decide_eq_true_eq]
  constructor
  · rintro ⟨⟨f, -, compares, -⟩ | stale, removed⟩
    · rw [removed] at compares
      exact compares.elim
    · exact stale
  · rintro ⟨name, table, stale, rfl⟩
    exact ⟨.inr ⟨name, table, stale, rfl⟩, rfl⟩

theorem Stale.isPlain (wf : t.WellFormed) {name table : String}
    (stale : Stale t directory files name table) : IsPlain name := by
  obtain ⟨names, listed, member⟩ := stale.listed
  exact wf.plain_of_mem_names listed member

theorem Stale.opens {name table : String} (stale : Stale t directory files name table) :
    ∃ place, t.Opens directory place := by
  obtain ⟨names, listed, -⟩ := stale.listed
  obtain ⟨-, place, opens, -⟩ := Tree.names_eq_ok.mp listed
  exact ⟨place, opens⟩

/-- The files that a plan removes have the names of the stale files. -/
theorem Planned.exists_names (planned : Planned t directory files p) (wf : t.WellFormed) :
    ∃ names : List String, p.removals.map (·.path) = names.map (fun name => directory.join ⟨name⟩) ∧
      ∀ name, name ∈ names ↔ ∃ table, Stale t directory files name table := by
  obtain ⟨names, paths, stale⟩ : ∃ names : List String,
      p.removals.map (·.path) = names.map (fun name => directory.join ⟨name⟩) ∧
        ∀ name ∈ names, ∃ table, Stale t directory files name table := by
    apply exists_map_eq
    intro c member
    obtain ⟨name, table, stale, rfl⟩ := planned.mem_removals.mp member
    exact ⟨name, rfl, table, stale⟩
  refine ⟨names, paths, fun name => ⟨stale name, ?_⟩⟩
  rintro ⟨table, isStale⟩
  have member : directory.join ⟨name⟩ ∈ p.removals.map (·.path) :=
    List.mem_map.mpr ⟨_, planned.mem_removals.mpr ⟨name, table, isStale, rfl⟩, rfl⟩
  rw [paths] at member
  obtain ⟨other, inNames, same⟩ := List.mem_map.mp member
  obtain ⟨_, isStale'⟩ := stale other inNames
  obtain rfl := (Path.join_inj (isStale'.isPlain wf).noSlash (isStale.isPlain wf).noSlash).mp same
  exact inNames

/-- A stale file is in no file's place, so what is written and what is removed do not interfere. -/
theorem Planned.edits_agree (planned : Planned t directory files p)
    (catalog : IsCatalog directory files) {names : List String}
    (stale : ∀ name ∈ names, ∃ table, Stale t directory files name table) :
    ∀ edit ∈ p.written.flatMap edits, ∀ edit' ∈ names.map fun name => (name, none),
      edit.1 = edit'.1 → edit.2 = edit'.2 := by
  intro edit member edit' member' same
  obtain ⟨name, inNames, rfl⟩ := List.mem_map.mp member'
  obtain ⟨f, inWritten, member⟩ := List.mem_flatMap.mp member
  obtain ⟨table, isStale⟩ := stale name inNames
  simp only [edits, List.mem_cons, List.not_mem_nil, or_false] at member
  rcases member with rfl | rfl
  · rfl
  · obtain rfl : fileName f.table = name := same
    have inFiles := (planned.mem_written.mp inWritten).1
    exact absurd (catalog.path f inFiles) (isStale.unowned f inFiles)

/-- What a plan leaves that was carried out: missing directories above its files were made, and
then the names in their directory were changed. -/
structure Applied (t : Tree) (directory : Path) (files : List File) (p : Plan) (s t' : Tree)
    (place : Location) (names : List String) : Prop where
  grown : Grown (p.written.flatMap directoriesAbove) t s
  idle : ∀ place, t.Opens directory place → s = t
  opens : p.written ≠ [] ∨ names ≠ [] → s.Opens directory place
  edited : Tree.Edited place (p.written.flatMap edits ++ names.map fun name => (name, none)) s t'
  nameable : ∀ f ∈ p.written, Nameable directory f
  mem_names : ∀ name, name ∈ names ↔ ∃ table, Stale t directory files name table

section

variable [A : Access (StateM Tree)] (lawful : OnTrees A)

include lawful

/-- A plan that is carried out with success first wrote its files and then removed the stale ones.
The removals are of other names than the writes, so all changes can be told at once, by name. -/
theorem applied_of_apply (wf : t.WellFormed) (catalog : IsCatalog directory files)
    (planned : Planned t directory files p) (ran : runOn p.apply t = (.ok (), t')) :
    ∃ s place names, Applied t directory files p s t' place names := by
  obtain ⟨names, paths, stale⟩ := planned.exists_names wf
  unfold Plan.apply at ran
  obtain ⟨⟨⟩, u, writes, removes⟩ := runOn_bind_eq_ok.mp ran
  rw [← forM_map, ← Plan.written] at writes
  have removes : runOn ((p.removals.map (·.path)).forM fun path =>
      attempt (.remove path) (Access.remove path)) u = (.ok (), t') := by
    rw [forM_map]
    exact removes
  rw [paths, forM_map] at removes
  obtain ⟨s, place, written⟩ :=
    written_of_writeFiles lawful (planned.catalog_written catalog) writes
  have plain : ∀ name ∈ names, IsPlain name := by
    intro name member
    obtain ⟨table, isStale⟩ := (stale name).mp member
    exact isStale.isPlain wf
  by_cases noNames : names = []
  · subst noNames
    obtain rfl : u = t' := congrArg Prod.snd removes
    refine ⟨s, place, [], written.grown, written.idle, ?_, ?_, written.nameable, stale⟩
    · rintro (some | some)
      · exact written.opens some
      · contradiction
    · simpa using written.edited
  · -- What is stale was listed, so the directory was there from the beginning.
    obtain ⟨here, opened⟩ : ∃ here, t.Opens directory here := by
      obtain ⟨name, member⟩ := List.exists_mem_of_ne_nil names noNames
      obtain ⟨table, isStale⟩ := (stale name).mp member
      exact isStale.opens
    obtain rfl := written.idle here opened
    have edited : Tree.Edited here (p.written.flatMap edits) s u := by
      by_cases none : p.written = []
      · have idle := written.edited
        rw [none] at idle ⊢
        exact idle.of_nil here
      · rw [opened.unique (written.opens none)]
        exact written.edited
    have removed := edited_of_removals lawful plain (opened.mono edited.toDirectoriesStay) removes
    refine ⟨s, here, names, written.grown, written.idle, fun _ => opened, ?_, written.nameable,
      stale⟩
    exact edited.append removed (planned.edits_agree catalog fun name => (stale name).mp)

/-! ## Any outcome -/

/-- Writing a file, however it ends, touches nothing but its path and the path beside it: this holds
of each operation on the way. -/
theorem leaves_writeFile (f : File) :
    Leaves (Tree.Spares (writtenPaths f))
      (writeFile f : ExceptT Files.Failure (StateM Tree) Unit) := by
  have write : Leaves (Tree.Spares (writtenPaths f))
      (Access.writeText (temporary f.path) f.content : ExceptT Fault (StateM Tree) Unit) := by
    rw [lawful.writeText]
    apply leaves_change
    intro t t' written
    exact (Tree.spares_of_write written).mono (by simp [writtenPaths])
  have rename : Leaves (Tree.Spares (writtenPaths f))
      (Access.rename (temporary f.path) f.path : ExceptT Fault (StateM Tree) Unit) := by
    rw [lawful.rename]
    apply leaves_change
    intro t t' renamed
    exact (Tree.spares_of_rename renamed).mono (by simp [writtenPaths])
  have rest := Leaves.bind (write.attempt (.write (temporary f.path))) fun _ =>
    rename.attempt (.rename (temporary f.path) f.path)
  unfold writeFile
  cases f.path.parent? with
  | none => exact rest
  | some above =>
    have make : Leaves (Tree.Spares (writtenPaths f))
        (makeDirectories above : ExceptT Fault (StateM Tree) Unit) := fun t =>
      (leaves_makeUnder lawful above.ancestors t).toSpares.mono (List.nil_subset _)
    exact Leaves.bind (make.attempt (.makeDirectory above)) fun _ => rest

/-- Carrying out a plan spares all but the files that it writes, those beside them and the files
that it removes. -/
theorem leaves_apply (p : Plan) :
    Leaves (Tree.Spares (p.written.flatMap writtenPaths ++ p.removals.map (·.path)))
      (p.apply : ExceptT Files.Failure (StateM Tree) Unit) := by
  unfold Plan.apply
  rw [← forM_map, ← Plan.written, ← Plan.removals]
  apply Leaves.bind
  · apply Leaves.forM
    intro f member t
    refine (leaves_writeFile lawful f t).mono fun path inPaths => ?_
    exact List.mem_append_left _ (List.mem_flatMap.mpr ⟨f, member, inPaths⟩)
  · intro _
    apply Leaves.forM
    intro c member
    rw [lawful.remove]
    apply Leaves.attempt
    apply leaves_change
    intro t t' removed
    refine (Tree.spares_of_remove removed).mono fun path inPaths => ?_
    rw [List.mem_singleton.mp inPaths]
    exact List.mem_append_right _ (List.mem_map_of_mem member)

end

end TableSql.Catalog
