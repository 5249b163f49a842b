import TableSql.Proofs.Catalog.Apply
import TableSql.Proofs.CompiledTable
import TableSql.Proofs.Text.Utf8

/-!
# Bringing a directory up to date

What a plan that is carried out leaves, seen from outside: each file holds its content, stale files
are gone, and every other location is as it was, but for directories that were made (`Touched`).
The files that are generated and in no one's place are then gone altogether, provided that the
directory was there to be listed, or that its path never goes up: through `..` a path can come to
name a directory that could not be listed when the plan was made, because a part of the path before
the `..` was missing.
-/

namespace TableSql.Catalog

open Files

variable {t t' s : Tree} {directory : Path} {files : List File} {p : Plan} {place : Location}
variable {names : List String}

/-! ## What carrying out a plan leaves -/

theorem Applied.stays (applied : Applied t directory files p s t' place names) :
    t.DirectoriesStay t' :=
  applied.grown.toDirectoriesStay.trans applied.edited.toDirectoriesStay

theorem Applied.opens_of_written (applied : Applied t directory files p s t' place names) {f : File}
    (member : f ∈ p.written) : t'.Opens directory place :=
  (applied.opens (.inl (List.ne_nil_of_mem member))).mono applied.edited.toDirectoriesStay

theorem Applied.opens_of_name (applied : Applied t directory files p s t' place names)
    {name : String} (member : name ∈ names) : t'.Opens directory place :=
  (applied.opens (.inr (List.ne_nil_of_mem member))).mono applied.edited.toDirectoriesStay

/-- The names that are changed are those of the files that are written, of those beside them, and of
the files that are removed. -/
theorem Applied.eq_of_other (applied : Applied t directory files p s t' place names)
    {other : Location} (notFile : ∀ f ∈ p.written, other ≠ place ++ [fileName f.table])
    (notBeside : ∀ f ∈ p.written, other ≠ place ++ [temporaryName f.table])
    (notStale : ∀ name ∈ names, other ≠ place ++ [name]) : t'.entry? other = s.entry? other := by
  apply applied.edited.others
  rw [List.forall_mem_append]
  constructor
  · intro edit member
    obtain ⟨f, inWritten, inEdits⟩ := List.mem_flatMap.mp member
    simp only [edits, List.mem_cons, List.not_mem_nil, or_false] at inEdits
    rcases inEdits with rfl | rfl
    · exact notBeside f inWritten
    · exact notFile f inWritten
  · intro edit member
    obtain ⟨name, inNames, rfl⟩ := List.mem_map.mp member
    exact notStale name inNames

/-- A name that belongs to no file that is written or removed keeps its entry. -/
theorem Applied.eq_of_name (applied : Applied t directory files p s t' place names) {name : String}
    (above : Location) (notFile : ∀ f ∈ p.written, name ≠ fileName f.table)
    (notBeside : ∀ f ∈ p.written, name ≠ temporaryName f.table) (notStale : name ∉ names) :
    t'.entry? (above ++ [name]) = s.entry? (above ++ [name]) := by
  apply applied.eq_of_other
  · intro f member same
    exact notFile f member (by simpa using congrArg List.getLast? same)
  · intro f member same
    exact notBeside f member (by simpa using congrArg List.getLast? same)
  · intro other member same
    obtain rfl : name = other := by simpa using congrArg List.getLast? same
    exact notStale member

/-- A file that was written holds its content, and nothing is left beside it. -/
theorem Applied.entry_of_written (applied : Applied t directory files p s t' place names)
    {f : File} (member : f ∈ p.written) :
    t'.entry? (place ++ [fileName f.table]) = some (.file (Text.Utf8.encode f.content)) ∧
      t'.entry? (place ++ [temporaryName f.table]) = none := by
  have all := applied.edited.made
  rw [List.forall_mem_append] at all
  constructor
  · exact all.1 (fileName f.table, some (.file (Text.Utf8.encode f.content)))
      (List.mem_flatMap.mpr ⟨f, member, by simp [edits]⟩)
  · exact all.1 (temporaryName f.table, none)
      (List.mem_flatMap.mpr ⟨f, member, by simp [edits]⟩)

theorem Applied.entry_of_name (applied : Applied t directory files p s t' place names)
    {name : String} (member : name ∈ names) : t'.entry? (place ++ [name]) = none := by
  have all := applied.edited.made
  rw [List.forall_mem_append] at all
  exact all.2 (name, none) (List.mem_map.mpr ⟨name, member, rfl⟩)

/-- After a plan was carried out every file holds its content. -/
theorem Applied.readText_eq (applied : Applied t directory files p s t' place names)
    (catalog : IsCatalog directory files) (planned : Planned t directory files p) {f : File}
    (member : f ∈ files) : t'.readText f.path = .ok f.content := by
  have plain := isPlain_fileName f.table
  rw [catalog.path f member]
  by_cases written : f ∈ p.written
  · have nameable := applied.nameable f written
    exact (Tree.readText_join_eq_ok plain).mpr ⟨nameable.path, nameable.name, place, _,
      applied.opens_of_written written, (applied.entry_of_written written).1,
      Text.Utf8.decode?_encode f.content⟩
  · -- The file held its content before, and the directory was there.
    have read : t.readText f.path = .ok f.content := by
      by_contra differs
      exact written (planned.mem_written.mpr ⟨member, differs⟩)
    rw [catalog.path f member] at read
    obtain ⟨checked, short, above, bytes, opens, here, decoded⟩ :=
      (Tree.readText_join_eq_ok plain).mp read
    obtain rfl := applied.idle above opens
    have same :
        t'.entry? (above ++ [fileName f.table]) = s.entry? (above ++ [fileName f.table]) := by
      apply applied.eq_of_name
      · intro g inWritten sameName
        have inFiles := (planned.mem_written.mp inWritten).1
        obtain rfl := List.inj_on_of_nodup_map catalog.distinct member inFiles sameName
        exact written inWritten
      · intro g _
        exact fileName_ne_temporaryName f.table g.table
      · intro inNames
        obtain ⟨table, stale⟩ := (applied.mem_names _).mp inNames
        exact stale.unowned f member (catalog.path f member)
    exact (Tree.readText_join_eq_ok plain).mpr
      ⟨checked, short, above, bytes, opens.mono applied.stays, same.trans here, decoded⟩

theorem Applied.lookup_temporary (applied : Applied t directory files p s t' place names)
    (catalog : IsCatalog directory files) (planned : Planned t directory files p) {f : File}
    (member : f ∈ p.written) : t'.lookup (temporary f.path) = .error .absent := by
  have nameable := applied.nameable f member
  rw [catalog.temporary (planned.mem_written.mp member).1]
  exact Tree.lookup_join_absent (isPlain_temporaryName f.table) nameable.temporaryPath
    nameable.temporaryName (applied.opens_of_written member) (applied.entry_of_written member).2

/-- A stale file is gone. -/
theorem Applied.lookup_stale (applied : Applied t directory files p s t' place names)
    (wf : t.WellFormed) {name table : String} (stale : Stale t directory files name table) :
    t'.lookup (directory.join ⟨name⟩) = .error .absent := by
  have plain := stale.isPlain wf
  have member := (applied.mem_names name).mpr ⟨table, stale⟩
  obtain ⟨content, read, -⟩ := stale.marked
  obtain ⟨checked, short, -⟩ := (Tree.readText_join_eq_ok plain).mp read
  exact Tree.lookup_join_absent plain checked short (applied.opens_of_name member)
    (applied.entry_of_name member)

/-- A path that never goes up names a directory only if that directory is new or was there to be
listed. -/
theorem listed_of_opens (wf : t.WellFormed) (home : t'.home = t.home) {above : Location}
    (noUp : ".." ∉ directory.pieces) (checked : Tree.checkPath directory = .ok ())
    (opens : t'.Opens directory above) (there : t.entry? above = some .directory) :
    ∃ names, t.names directory = .ok names := by
  have start : t'.start directory = t.start directory := by rw [Tree.start, Tree.start, home]
  have opens' : t.Opens directory above := by
    rw [Tree.Opens, ← start]
    exact opens.of_last wf noUp there
  exact ⟨_, Tree.names_eq_ok.mpr ⟨checked, above, opens', rfl⟩⟩

/-- Nothing stale is left in a directory that was listed, or whose path never goes up. -/
theorem Applied.not_stale (applied : Applied t directory files p s t' place names)
    (wf : t.WellFormed) (wf' : t'.WellFormed) (catalog : IsCatalog directory files)
    (planned : Planned t directory files p)
    (looked : ".." ∉ directory.pieces ∨ ∃ names, t.names directory = .ok names)
    (name table : String) : ¬Stale t' directory files name table := by
  intro stale
  have plain := stale.isPlain wf'
  obtain ⟨content, read, marked⟩ := stale.marked
  obtain ⟨checked, short, above, bytes, opens, here, decoded⟩ :=
    (Tree.readText_join_eq_ok plain).mp read
  have notRemoved : name ∉ names := by
    intro member
    rw [opens.unique (applied.opens_of_name member), applied.entry_of_name member] at here
    contradiction
  have before : s.entry? (above ++ [name]) = some (.file bytes) := by
    rw [← here]
    refine (applied.eq_of_name above ?_ ?_ notRemoved).symm
    · rintro f member rfl
      have inFiles := (planned.mem_written.mp member).1
      exact stale.unowned f inFiles (catalog.path f inFiles)
    · intro f _
      exact ne_temporaryName_of_extension stale.ending f.table
  -- Only directories were made before the files were written, so the file was there from the start.
  have first : t.entry? (above ++ [name]) = some (.file bytes) := by
    rcases applied.grown.entries (above ++ [name]) with same | ⟨-, made, -⟩
    · rw [← same, before]
    · simp [before] at made
  obtain ⟨listed, found⟩ : ∃ names, t.names directory = .ok names := by
    rcases looked with noUp | listed
    · obtain ⟨names', listed', -⟩ := stale.listed
      exact listed_of_opens wf applied.stays.home noUp (Tree.names_eq_ok.mp listed').1 opens
        (wf.above_of_present first)
    · exact listed
  obtain ⟨-, above', opened, -⟩ := Tree.names_eq_ok.mp found
  obtain rfl := opens.unique (opened.mono applied.stays)
  refine notRemoved ((applied.mem_names name).mpr ⟨table, ⟨listed, found, ?_⟩, stale.ending,
    stale.unowned, content, ?_, marked⟩)
  · exact (Tree.mem_names_iff found).mpr ⟨above, opened, by simp [first]⟩
  · exact (Tree.readText_join_eq_ok plain).mpr
      ⟨checked, short, above, bytes, opened, first, decoded⟩

/-! ## What stays as it is -/

/-- A location that carrying out a plan changes, and what becomes of it. -/
inductive Touched (t t' : Tree) (directory : Path) (files : List File) (place : Location) : Prop
  /-- The place of a file that differed. -/
  | written (f : File) (member : f ∈ files) (differs : t.readText f.path ≠ .ok f.content)
      (found : t'.find f.path = .ok place)
  /-- Where a file that differed was written before it was moved to its place. -/
  | beside (f : File) (member : f ∈ files) (differs : t.readText f.path ≠ .ok f.content)
      (leads : t'.Leads (temporary f.path) place) (gone : t'.entry? place = none)
  /-- The place of a stale file. -/
  | removed (name table : String) (stale : Stale t directory files name table)
      (leads : t'.Leads (directory.join ⟨name⟩) place) (gone : t'.entry? place = none)
  /-- A directory that was missing above a file that differed. -/
  | made (f : File) (member : f ∈ files) (differs : t.readText f.path ≠ .ok f.content)
      (above : Path) (isAbove : above ∈ directoriesAbove f) (opens : t'.Opens above place)
      (missing : t.entry? place = none)

/-- Every location is as it was or was touched: it is a directory that was made, or one of the names
that were changed, and each of these is of a file that differed or was stale. -/
theorem Applied.eq_or_touched (applied : Applied t directory files p s t' place names)
    (wf : t.WellFormed) (catalog : IsCatalog directory files)
    (planned : Planned t directory files p) (other : Location) :
    t'.entry? other = t.entry? other ∨ Touched t t' directory files other := by
  by_cases isFile : ∃ f ∈ p.written, other = place ++ [fileName f.table]
  · obtain ⟨f, member, rfl⟩ := isFile
    obtain ⟨inFiles, differs⟩ := planned.mem_written.mp member
    have nameable := applied.nameable f member
    refine .inr (.written f inFiles differs ?_)
    rw [catalog.path f inFiles]
    exact (Tree.find_join_eq_ok (isPlain_fileName f.table)).mpr
      ⟨nameable.path, nameable.name, place, applied.opens_of_written member,
        by simp [(applied.entry_of_written member).1], rfl⟩
  by_cases isBeside : ∃ f ∈ p.written, other = place ++ [temporaryName f.table]
  · obtain ⟨f, member, rfl⟩ := isBeside
    obtain ⟨inFiles, differs⟩ := planned.mem_written.mp member
    refine .inr (.beside f inFiles differs ?_ (applied.entry_of_written member).2)
    rw [catalog.temporary inFiles]
    exact (Tree.leads_join_iff (isPlain_temporaryName f.table)).mpr
      ⟨(applied.nameable f member).temporaryPath, place, applied.opens_of_written member, rfl⟩
  by_cases isStale : ∃ name ∈ names, other = place ++ [name]
  · obtain ⟨name, member, rfl⟩ := isStale
    obtain ⟨table, stale⟩ := (applied.mem_names name).mp member
    obtain ⟨content, read, -⟩ := stale.marked
    have plain := stale.isPlain wf
    refine .inr (.removed name table stale ?_ (applied.entry_of_name member))
    exact (Tree.leads_join_iff plain).mpr ⟨((Tree.readText_join_eq_ok plain).mp read).1, place,
      applied.opens_of_name member, rfl⟩
  -- No name was changed there, so at most a directory was made.
  simp only [not_exists, not_and] at isFile isBeside isStale
  rw [applied.eq_of_other isFile isBeside isStale]
  rcases applied.grown.entries other with same | ⟨missing, made, above, inAbove, opens⟩
  · exact .inl same
  · obtain ⟨f, member, isAbove⟩ := List.mem_flatMap.mp inAbove
    obtain ⟨inFiles, differs⟩ := planned.mem_written.mp member
    exact .inr (.made f inFiles differs above isAbove
      (opens.mono applied.edited.toDirectoriesStay) missing)

/-! ## Bringing up to date -/

/-- What bringing a directory up to date makes of a tree, and the changes that it reports. -/
structure UpToDate (directory : Path) (files : List File) (t t' : Tree) (changes : List Change) :
    Prop where
  contents : ∀ f ∈ files, t'.readText f.path = .ok f.content
  deleted : ∀ name table, Stale t directory files name table →
    t'.lookup (directory.join ⟨name⟩) = .error .absent
  pruned : (".." ∉ directory.pieces ∨ ∃ names, t.names directory = .ok names) →
    ∀ name table, ¬Stale t' directory files name table
  beside : ∀ f ∈ files, t.readText f.path ≠ .ok f.content →
    t'.lookup (temporary f.path) = .error .absent
  elsewhere : ∀ place, t'.entry? place = t.entry? place ∨ Touched t t' directory files place
  accounted : ∀ c, c ∈ changes ↔
    (∃ f ∈ files, Compares t f c.status ∧ c.table = f.table ∧ c.path = f.path) ∨
      ∃ name table, Stale t directory files name table ∧ c = removal directory name table
  ascending : changes.Pairwise fun a b => a.path.text < b.path.text

section

variable {A : Access (StateM Tree)} (lawful : OnTrees A)

/-- Bringing a directory of a tree up to date, with some way of access to trees. -/
def syncOn (A : Access (StateM Tree)) (directory : Path) (files : List File) (mode : Mode)
    (t : Tree) : Except Failure Plan × Tree :=
  runOn (sync directory files mode) t

/-- Writing succeeds exactly if a plan is made and carried out. -/
theorem syncOn_write_eq_ok :
    syncOn A directory files .write t = (.ok p, t') ↔
      ∃ s, runOn (plan directory files) t = (.ok p, s) ∧ runOn p.apply s = (.ok (), t') := by
  unfold syncOn sync
  rw [runOn_bind_eq_ok]
  constructor
  · rintro ⟨q, s, planned, rest⟩
    rw [runOn_adapt_eq_ok] at planned
    obtain ⟨⟨⟩, u, applied, last⟩ := runOn_bind_eq_ok.mp rest
    rw [runOn_adapt_eq_ok] at applied
    simp only [runOn_pure, Prod.mk.injEq, Except.ok.injEq] at last
    obtain ⟨rfl, rfl⟩ := last
    exact ⟨s, planned, applied⟩
  · rintro ⟨s, planned, applied⟩
    exact ⟨p, s, runOn_adapt_eq_ok.mpr planned,
      runOn_bind_eq_ok.mpr ⟨(), t', runOn_adapt_eq_ok.mpr applied, rfl⟩⟩

include lawful

/-- A plan that is carried out leaves its directory up to date. -/
theorem upToDate_of_apply (wf : t.WellFormed) (catalog : IsCatalog directory files)
    (planned : Planned t directory files p) (ran : runOn p.apply t = (.ok (), t')) :
    UpToDate directory files t t' p.changes := by
  obtain ⟨s, place, names, applied⟩ := applied_of_apply lawful wf catalog planned ran
  have wf' : t'.WellFormed := by
    have spares := leaves_apply lawful p t
    rw [ran] at spares
    exact spares.wellFormed wf
  refine
    { contents := fun f => applied.readText_eq catalog planned
      deleted := fun name table => applied.lookup_stale wf
      pruned := applied.not_stale wf wf' catalog planned
      beside := fun f member differs => ?_
      elsewhere := applied.eq_or_touched wf catalog planned
      accounted := fun c => planned.mem_changes
      ascending := planned.pairwise_changes catalog }
  exact applied.lookup_temporary catalog planned (planned.mem_written.mpr ⟨member, differs⟩)

end

/-! ## The order of a listing does not matter -/

section

variable {A B : Access (StateM Tree)} (lawful : OnTrees A) (lawful' : OnTrees B)

include lawful lawful'

/-- Making directories is the same for all ways of access to trees. -/
theorem makeUnder_eq (paths : List Path) :
    @makeUnder (StateM Tree) _ A paths = @makeUnder (StateM Tree) _ B paths := by
  have same : A.kind? = B.kind? := by
    funext p t
    rw [lawful.kind?, lawful'.kind?]
  have passes (p : Path) :
      @unlessDirectory (StateM Tree) _ A p = @unlessDirectory (StateM Tree) _ B p := by
    funext fault
    unfold unlessDirectory isDirectory
    rw [same]
  induction paths with
  | nil => rfl
  | cons p above ih =>
    unfold makeUnder ensureDirectory
    rw [lawful.makeDirectory, lawful'.makeDirectory, ih, passes]

theorem apply_eq {p' : Plan} (files : p.files = p'.files) (changes : p.changes = p'.changes) :
    @Plan.apply (StateM Tree) _ A p = @Plan.apply (StateM Tree) _ B p' := by
  have write (f : File) : @writeFile (StateM Tree) _ A f = @writeFile (StateM Tree) _ B f := by
    unfold writeFile makeDirectories
    simp only [makeUnder_eq lawful lawful', lawful.writeText, lawful'.writeText, lawful.rename,
      lawful'.rename]
  unfold Plan.apply
  simp only [files, changes, write, lawful.remove, lawful'.remove]

end

/-- If a directory is brought up to date, every file holds its content, stale files are gone, and
all else is as it was but for missing directories. The changes that are reported are those of the
files and of the stale files, in order. None of this depends on the order in which the directory
lists its names. -/
theorem sync_brings_up_to_date {A : Access (StateM Tree)} (lawful : OnTrees A) (wf : t.WellFormed)
    {tables : List CompiledTable} (generated : Catalog.files directory tables = .ok files)
    (ran : syncOn A directory files .write t = (.ok p, t')) :
    UpToDate directory files t t' p.changes ∧
      ∀ B, OnTrees B →
        ∃ p', syncOn B directory files .write t = (.ok p', t') ∧ p'.changes = p.changes := by
  have catalog := isCatalog_of_files generated
  obtain ⟨s, made, applied⟩ := syncOn_write_eq_ok.mp ran
  obtain ⟨same, planned⟩ := planned_of_plan lawful wf made
  subst s
  refine ⟨upToDate_of_apply lawful wf catalog planned applied, fun B lawful' => ?_⟩
  obtain ⟨p', made', planned'⟩ := exists_plan lawful' wf planned.listed
    fun f member => planned.exists_status member
  have changes := planned'.changes_eq planned catalog
  refine ⟨p', syncOn_write_eq_ok.mpr ⟨t, made', ?_⟩, changes⟩
  rw [apply_eq lawful' lawful (planned'.files_eq planned) changes]
  exact applied

/-! ### A catalog of one table -/

/-- The statements of a table `users` with one column `id`. -/
def users : CompiledTable := .single "users" "id"

theorem files_users (directory : Path) :
    Catalog.files directory [users] = .ok [file directory users] := by
  have noClash : firstClash? (fun t : CompiledTable => Text.lowerAscii (fileName t.tableName))
      [users] = none := firstClash?_eq_none.mpr (List.nodup_singleton _)
  unfold Catalog.files
  rw [noClash]
  rfl

theorem exists_of_toBool {ε α : Type} {x : Except ε α × Tree} (ok : x.1.toBool = true) :
    ∃ a t, x = (.ok a, t) := by
  obtain ⟨_ | a, t⟩ := x
  · contradiction
  · exact ⟨a, t, rfl⟩

/-- A directory with a file that was written by hand. -/
def withNotes : Tree :=
  { entries := Std.TreeMap.ofList [(["out"], Entry.directory),
      (["out", "notes.sql"], Entry.file (Text.Utf8.encode "SELECT 42;\n"))] }

theorem wellFormed_withNotes : withNotes.WellFormed := by decide +kernel

theorem exists_withNotes : ∃ p t',
    syncOn inferInstance ⟨"out"⟩ [file ⟨"out"⟩ users] .write withNotes = (.ok p, t') :=
  exists_of_toBool (by decide +kernel)

/-- The file of the table is added to the one that was written by hand. -/
theorem sync_brings_up_to_date_users :
    CompiledTable.compile (.single "users" "id") {} = .ok users ∧ withNotes.WellFormed ∧
      Catalog.files ⟨"out"⟩ [users] = .ok [file ⟨"out"⟩ users] ∧
      ∃ p t', syncOn inferInstance ⟨"out"⟩ [file ⟨"out"⟩ users] .write withNotes = (.ok p, t') ∧
        UpToDate ⟨"out"⟩ [file ⟨"out"⟩ users] withNotes t' p.changes := by
  have wf := wellFormed_withNotes
  obtain ⟨p, t', ran⟩ := exists_withNotes
  have upToDate := (sync_brings_up_to_date onTrees wf (files_users ⟨"out"⟩) ran).1
  exact ⟨CompiledTable.compile_single _ _, wf, files_users ⟨"out"⟩, p, t', ran, upToDate⟩

/-! ### A path through a missing directory -/

/-- A directory with the file of a table that is in no catalog any more. -/
def withOld : Tree :=
  { entries := Std.TreeMap.ofList
      [(["sql"], Entry.directory), (["sql", "old.sql"], Entry.file (Text.Utf8.encode
        "-- Code generated by sqlrecord. DO NOT EDIT.\n-- table: old\n"))] }

/-- What is left of it when a catalog is written to `sql` through the missing directory `gen`. -/
def withBoth : Tree :=
  (syncOn inferInstance ⟨"gen/../sql"⟩ [file ⟨"gen/../sql"⟩ users] .write withOld).2

/-- Writing through the missing directory succeeds and leaves the stale file. -/
theorem exists_withBoth : ∃ p,
    syncOn inferInstance ⟨"gen/../sql"⟩ [file ⟨"gen/../sql"⟩ users] .write withOld =
      (.ok p, withBoth) := by
  obtain ⟨p, t', ran⟩ : ∃ p t',
      syncOn inferInstance ⟨"gen/../sql"⟩ [file ⟨"gen/../sql"⟩ users] .write withOld =
        (.ok p, t') :=
    exists_of_toBool (by decide +kernel)
  refine ⟨p, ?_⟩
  unfold withBoth
  rw [ran]

theorem stale_old :
    Stale withBoth ⟨"gen/../sql"⟩ [file ⟨"gen/../sql"⟩ users] "old.sql" "old" where
  listed := ⟨["old.sql", "users.sql"], by decide +kernel, by decide⟩
  ending := by decide +kernel
  unowned := by decide +kernel
  marked := ⟨"-- Code generated by sqlrecord. DO NOT EDIT.\n-- table: old\n", by decide +kernel,
    by decide +kernel⟩

/-- Where `gen` is missing, `gen/../sql` names nothing when its files are looked at. It names `sql`
once the directories above the file of the table were made, and what was stale there is left. -/
theorem stale_survives_behind_missing_directory :
    withOld.WellFormed ∧ Catalog.files ⟨"gen/../sql"⟩ [users] = .ok [file ⟨"gen/../sql"⟩ users] ∧
      ∃ p t',
        syncOn inferInstance ⟨"gen/../sql"⟩ [file ⟨"gen/../sql"⟩ users] .write withOld =
            (.ok p, t') ∧
          Stale t' ⟨"gen/../sql"⟩ [file ⟨"gen/../sql"⟩ users] "old.sql" "old" := by
  obtain ⟨p, ran⟩ := exists_withBoth
  exact ⟨by decide +kernel, files_users _, p, withBoth, ran, stale_old⟩

end TableSql.Catalog
