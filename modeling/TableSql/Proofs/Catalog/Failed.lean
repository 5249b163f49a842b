import TableSql.Proofs.Catalog.Sync
import TableSql.Proofs.Files.Ancestors

/-!
# Plans that are not carried out to the end

Carrying out a plan can fail at any file. Each file is written beside its place and moved there as a
whole, so whatever comes of it, a location holds what it held, the whole new content of a file whose
path leads there, or a directory that was missing (`Progressed`, `progressed_of_writeFiles`). Files
are removed only after all were written, and that does not fail (`writeFiles_of_apply_error`).

A path of the catalog then holds what it held or its whole new content, provided that the directory
was there to be listed, or that its path never goes up (`Untorn`): through `..` a directory that is
made on the way can take the place of a file.
-/

namespace TableSql

namespace Files

/-! ## What failures say -/

/-- Whether an operation changes something. -/
def Action.changes : Action → Bool
  | .read _ | .list _ => false
  | .makeDirectory _ | .write _ | .rename _ _ | .remove _ => true

variable {ε α β : Type}

/-- A computation fails only with errors of a kind. -/
def Fails (kind : ε → Prop) (x : ExceptT ε (StateM Tree) α) : Prop :=
  ∀ t e, (runOn x t).1 = .error e → kind e

variable {kind : ε → Prop} {x : ExceptT ε (StateM Tree) α}

theorem fails_pure (a : α) : Fails kind (pure a : ExceptT ε (StateM Tree) α) := by
  intro t e failed
  cases failed

theorem fails_lift (y : StateM Tree α) :
    Fails kind (liftM y : ExceptT ε (StateM Tree) α) := by
  intro t e failed
  rw [runOn_lift] at failed
  cases failed

/-- A computation in two steps fails only as one of them does. -/
theorem Fails.bind {f : α → ExceptT ε (StateM Tree) β} (first : Fails kind x)
    (rest : ∀ a, Fails kind (f a)) : Fails kind (x >>= f) := by
  intro t e failed
  have here := first t
  rw [runOn_bind] at failed
  rcases ran : runOn x t with ⟨e' | a, s⟩ <;> rw [ran] at failed here <;> dsimp only at failed
  · obtain rfl := Except.error.inj failed
    exact here e' rfl
  · exact rest a s e failed

theorem fails_attempt (action : Action) (y : ExceptT Fault (StateM Tree) α) :
    Fails (fun failure => failure.action.changes = action.changes) (attempt action y) := by
  intro t e failed
  rw [runOn_attempt, mapError_eq_error] at failed
  obtain ⟨fault, -, rfl⟩ := failed
  rfl

theorem Fails.mapM {f : β → ExceptT ε (StateM Tree) α} (each : ∀ b, Fails kind (f b))
    (xs : List β) : Fails kind (xs.mapM f) := by
  induction xs with
  | nil => exact fails_pure []
  | cons b xs ih =>
    rw [List.mapM_cons]
    exact (each b).bind fun _ => ih.bind fun _ => fails_pure _

theorem Fails.forM {f : β → ExceptT ε (StateM Tree) PUnit} (each : ∀ b, Fails kind (f b))
    (xs : List β) : Fails kind (xs.forM f) := by
  induction xs with
  | nil => exact fails_pure PUnit.unit
  | cons b xs ih => exact (each b).bind fun _ => ih

end Files

namespace Catalog

open Files

variable {t t' t'' : Tree} {directory : Path} {files : List File} {p : Plan} {place : Location}

/-- Making a plan fails only in reading. -/
theorem fails_plan [Access (StateM Tree)] (directory : Path) (files : List File) :
    Fails (fun failure => failure.action.changes = false)
      (plan directory files : ExceptT Files.Failure (StateM Tree) Plan) := by
  unfold plan
  refine Fails.bind (Fails.mapM (fun f => ?_) files) fun _ => Fails.bind ?_ fun _ => ?_
  · exact (fails_attempt (.read f.path) _).bind fun _ => fails_pure _
  · exact fails_attempt (.list directory) _
  · exact Fails.bind (Fails.mapM (fun _ => fails_lift _) _) fun _ => fails_pure _

/-- Carrying out a plan fails only in changing something. -/
theorem fails_apply [Access (StateM Tree)] (p : Plan) :
    Fails (fun failure => failure.action.changes = true)
      (p.apply : ExceptT Files.Failure (StateM Tree) Unit) := by
  unfold Plan.apply
  refine Fails.bind (Fails.forM (fun planned => ?_) _) fun _ => Fails.forM (fun c => ?_) _
  · have rest := (fails_attempt (.write (temporary planned.1.path))
      (Access.writeText (temporary planned.1.path) planned.1.content)).bind fun _ =>
        fails_attempt (.rename (temporary planned.1.path) planned.1.path)
          (Access.rename (temporary planned.1.path) planned.1.path)
    unfold writeFile
    cases planned.1.path.parent? with
    | none => exact rest
    | some above => exact (fails_attempt (.makeDirectory above) _).bind fun _ => rest
  · exact fails_attempt (.remove c.path) _

/-! ## Progress in writing -/

/-- What becomes of a location while files are written. -/
inductive Rewritten (files : List File) (t t' : Tree) (place : Location) : Prop
  | same (same : t'.entry? place = t.entry? place)
  /-- A file was moved to its place. -/
  | written (f : File) (member : f ∈ files) (leads : t'.Leads f.path place)
      (holds : t'.entry? place = some (.file (Text.Utf8.encode f.content)))
  /-- The place where a file is written before it is moved. -/
  | beside (f : File) (member : f ∈ files) (leads : t'.Leads (temporary f.path) place)
  /-- A directory was missing above a file. -/
  | made (f : File) (member : f ∈ files) (above : Path) (isAbove : above ∈ directoriesAbove f)
      (opens : t'.Opens above place) (missing : t.entry? place = none)

/-- Between two trees some files were written, as far as that went. -/
structure Progressed (files : List File) (t t' : Tree) : Prop extends t.DirectoriesStay t' where
  entries : ∀ place, Rewritten files t t' place

theorem Progressed.refl (files : List File) (t : Tree) : Progressed files t t :=
  ⟨.refl t, fun _ => .same rfl⟩

theorem Rewritten.mono (rewritten : Rewritten files t t' place) (stays : t'.DirectoriesStay t'')
    (same : t''.entry? place = t'.entry? place) : Rewritten files t t'' place := by
  cases rewritten with
  | same same' => exact .same (same.trans same')
  | written f member leads holds => exact .written f member (leads.mono stays) (same.trans holds)
  | beside f member leads => exact .beside f member (leads.mono stays)
  | made f member above isAbove opens missing =>
    exact .made f member above isAbove (opens.mono stays) missing

/-- What became of a location in two stretches is what becomes of it in both together: what is
written later wins, and a directory that was made stays one. -/
theorem Progressed.trans (first : Progressed files t t') (second : Progressed files t' t'') :
    Progressed files t t'' := by
  have stays := second.toDirectoriesStay
  refine ⟨first.toDirectoriesStay.trans stays, fun place => ?_⟩
  cases second.entries place with
  | same same => exact (first.entries place).mono stays same
  | written f member leads holds => exact .written f member leads holds
  | beside f member leads => exact .beside f member leads
  | made f member above isAbove opens missing =>
    -- Nothing was there in between, so neither a file was written there nor a directory made.
    cases first.entries place with
    | same same => exact .made f member above isAbove opens (same.symm.trans missing)
    | written g _ _ holds =>
      rw [missing] at holds
      contradiction
    | beside g member' leads => exact .beside g member' (leads.mono stays)
    | made g _ _ _ opens' _ =>
      rw [opens'.isDirectory] at missing
      contradiction

instance (files : List File) : IsPreorder Tree (Progressed files) where
  refl := Progressed.refl files
  trans _ _ _ := Progressed.trans

theorem progressed_of_grown {f : File} (member : f ∈ files)
    (grown : Grown (directoriesAbove f) t t') : Progressed files t t' := by
  refine ⟨grown.toDirectoriesStay, fun place => ?_⟩
  rcases grown.entries place with same | ⟨missing, -, above, isAbove, opens⟩
  · exact .same same
  · exact .made f member above isAbove opens missing

/-- Writing beside the place of a file changes nothing but the place beside it. -/
theorem progressed_of_write {f : File} (member : f ∈ files)
    (path : f.path = directory.join ⟨fileName f.table⟩)
    (written : t.write (temporary f.path) (Text.Utf8.encode f.content) = .ok t') :
    Progressed files t t' := by
  have stays := (Tree.spares_of_write written).toDirectoriesStay
  rw [path, temporary_join] at written
  obtain ⟨checked, -, above, opens, -, rfl⟩ :=
    Tree.write_join (isPlain_temporaryName f.table) written
  refine ⟨stays, fun place => ?_⟩
  by_cases here : place = above ++ [temporaryName f.table]
  · refine .beside f member ?_
    rw [path, temporary_join]
    exact (Tree.leads_join_iff (isPlain_temporaryName f.table)).mpr
      ⟨checked, above, opens.mono stays, here.symm⟩
  · exact .same (by rw [Tree.entry?_set (by simp), if_neg here])

/-- A file that is written beside its place and moved there is there as a whole. -/
theorem progressed_of_replace {f : File} (member : f ∈ files)
    (path : f.path = directory.join ⟨fileName f.table⟩)
    (written : t.write (temporary f.path) (Text.Utf8.encode f.content) = .ok t')
    (renamed : t'.rename (temporary f.path) f.path = .ok t'') : Progressed files t t'' := by
  have plain := isPlain_fileName f.table
  have plain' := isPlain_temporaryName f.table
  rw [path, temporary_join] at written renamed
  obtain ⟨checked', -⟩ := Tree.write_join plain' written
  obtain ⟨checked, -⟩ := Tree.rename_join plain' plain renamed
  obtain ⟨above, opens, edited⟩ := Tree.edited_of_replace plain plain'
    (fileName_ne_temporaryName f.table f.table) written renamed
  have opens'' := opens.mono edited.toDirectoriesStay
  refine ⟨edited.toDirectoriesStay, fun place => ?_⟩
  by_cases isFile : place = above ++ [fileName f.table]
  · refine .written f member ?_ ?_
    · rw [path]
      exact (Tree.leads_join_iff plain).mpr ⟨checked, above, opens'', isFile.symm⟩
    · rw [isFile]
      exact edited.made (fileName f.table, _) (by simp)
  by_cases isBeside : place = above ++ [temporaryName f.table]
  · refine .beside f member ?_
    rw [path, temporary_join]
    exact (Tree.leads_join_iff plain').mpr ⟨checked', above, opens'', isBeside.symm⟩
  · refine .same (edited.others place ?_)
    rw [List.forall_mem_cons, List.forall_mem_singleton]
    exact ⟨isBeside, isFile⟩

section

variable [A : Access (StateM Tree)] (lawful : OnTrees A)

include lawful

/-- Whatever comes of writing a file, it is written or not. -/
theorem progressed_of_writeFile {f : File} (member : f ∈ files)
    (path : f.path = directory.join ⟨fileName f.table⟩) :
    Leaves (Progressed files) (writeFile f : ExceptT Files.Failure (StateM Tree) Unit) := by
  have replace : Leaves (Progressed files)
      (attempt (.write (temporary f.path)) (Access.writeText (temporary f.path) f.content) >>=
        fun _ => attempt (.rename (temporary f.path) f.path)
          (Access.rename (temporary f.path) f.path) :
        ExceptT Files.Failure (StateM Tree) Unit) := by
    intro t
    rw [runOn_bind, runOn_attempt, lawful.writeText, lawful.rename, runOn_change]
    cases written : t.write (temporary f.path) (Text.Utf8.encode f.content) with
    | error fault => exact .refl files t
    | ok s =>
      show Progressed files t (runOn (attempt _ _) s).2
      rw [runOn_attempt, runOn_change]
      cases renamed : s.rename (temporary f.path) f.path with
      | error fault => exact progressed_of_write member path written
      | ok t' => exact progressed_of_replace member path written renamed
  unfold writeFile
  cases parent : f.path.parent? with
  | none => exact replace
  | some above =>
    have make : Leaves (Progressed files)
        (makeDirectories above : ExceptT Fault (StateM Tree) Unit) := by
      intro t
      apply progressed_of_grown member
      unfold directoriesAbove
      rw [parent]
      exact leaves_makeUnder lawful above.ancestors t
    exact (make.attempt (.makeDirectory above)).bind fun _ => replace

theorem progressed_of_writeFiles (catalog : IsCatalog directory files) {some : List File}
    (subset : some ⊆ files) :
    Leaves (Progressed files) (some.forM writeFile : ExceptT Files.Failure (StateM Tree) Unit) := by
  apply Leaves.forM
  intro f member
  exact progressed_of_writeFile lawful (subset member) (catalog.path f (subset member))

end

/-! ## Removals -/

/-- No file is written in the place of a stale file. -/
theorem Progressed.entry_stale (progressed : Progressed files t t')
    (catalog : IsCatalog directory files) (wf : t.WellFormed) {name table : String}
    (stale : Stale t directory files name table) (opens : t.Opens directory place) :
    t'.entry? (place ++ [name]) = t.entry? (place ++ [name]) := by
  cases progressed.entries (place ++ [name]) with
  | same same => exact same
  | written f member leads _ =>
    rw [catalog.path f member] at leads
    obtain ⟨-, above, -, same⟩ := (Tree.leads_join_iff (isPlain_fileName f.table)).mp leads
    obtain rfl : fileName f.table = name := by simpa using congrArg List.getLast? same
    exact absurd (catalog.path f member) (stale.unowned f member)
  | beside f member leads =>
    rw [catalog.temporary member] at leads
    obtain ⟨-, above, -, same⟩ := (Tree.leads_join_iff (isPlain_temporaryName f.table)).mp leads
    have named : temporaryName f.table = name := by simpa using congrArg List.getLast? same
    exact absurd named.symm (ne_temporaryName_of_extension stale.ending f.table)
  | made f _ above _ _ missing =>
    obtain ⟨content, read, -⟩ := stale.marked
    obtain ⟨-, -, place', bytes, opens', here, -⟩ :=
      (Tree.readText_join_eq_ok (stale.isPlain wf)).mp read
    rw [opens'.unique opens, missing] at here
    contradiction

/-- No path is removed twice. -/
theorem Planned.nodup_removals (planned : Planned t directory files p)
    (catalog : IsCatalog directory files) : (p.removals.map (·.path)).Nodup := by
  have perm := List.mergeSort_perm (p.files.map Plan.fileChange ++ p.stale)
    fun a b => a.path.text ≤ b.path.text
  have changes : (p.changes.map (·.path)).Nodup :=
    (perm.map (·.path)).nodup_iff.mpr (planned.nodup_paths catalog)
  exact changes.sublist (List.filter_sublist.map Change.path)

section

variable [A : Access (StateM Tree)] (lawful : OnTrees A)

include lawful

/-- Files that are there can be removed one after the other. -/
theorem exists_removals {names : List String} (plain : ∀ name ∈ names, IsPlain name)
    (distinct : names.Nodup) (opens : t.Opens directory place)
    (present : ∀ name ∈ names, Tree.checkPath (directory.join ⟨name⟩) = .ok () ∧
      Tree.checkName name = .ok () ∧ ∃ content, t.entry? (place ++ [name]) = some (.file content)) :
    ∃ t', runOn (names.forM fun name =>
      attempt (.remove (directory.join ⟨name⟩)) (Access.remove (directory.join ⟨name⟩))) t =
        (.ok (), t') := by
  induction names generalizing t with
  | nil => exact ⟨t, rfl⟩
  | cons name names ih =>
    obtain ⟨head, tail⟩ := List.forall_mem_cons.mp plain
    obtain ⟨⟨checked, short, content, here⟩, others⟩ := List.forall_mem_cons.mp present
    obtain ⟨fresh, distinct'⟩ := List.nodup_cons.mp distinct
    have notRoot : place ++ [name] ≠ [] := by simp
    have removed : t.remove (directory.join ⟨name⟩) = .ok (t.erase (place ++ [name])) := by
      refine Tree.remove_eq_ok.mpr ⟨_, content, Tree.fileAt_eq_ok.mpr ?_, rfl⟩
      refine ⟨⟨place, name, false⟩, ?_, ⟨?_, rfl⟩, short, here, rfl⟩
      · exact (Tree.spot_join_eq_ok head).mpr ⟨checked, place, opens, rfl⟩
      · simp [Tree.Spot.isDots, head.noDot, head.noDots]
    -- The other files are still there, as the names are distinct.
    have stays := (Tree.spares_of_remove removed).toDirectoriesStay
    obtain ⟨t', rest⟩ := ih tail distinct' (opens.mono stays) (by
      intro other member
      obtain ⟨checked', short', content', here'⟩ := others other member
      refine ⟨checked', short', content', ?_⟩
      have apart : place ++ [other] ≠ place ++ [name] := by
        intro same
        obtain rfl : other = name := by simpa using same
        exact fresh member
      rw [Tree.entry?_erase notRoot, if_neg apart, here'])
    refine ⟨t', runOn_bind_eq_ok.mpr ⟨⟨⟩, _, ?_, rest⟩⟩
    rw [runOn_attempt_eq_ok, lawful.remove, runOn_change_eq_ok]
    exact removed

/-- What is stale can be removed after files were written. -/
theorem exists_removals_of_stale (wf : t.WellFormed) (catalog : IsCatalog directory files)
    (progressed : Progressed files t t') {names : List String} (distinct : names.Nodup)
    (stale : ∀ name ∈ names, ∃ table, Stale t directory files name table) :
    ∃ t'', runOn (names.forM fun name =>
      attempt (.remove (directory.join ⟨name⟩)) (Access.remove (directory.join ⟨name⟩))) t' =
        (.ok (), t'') := by
  by_cases none : names = []
  · rw [none]
    exact ⟨t', rfl⟩
  obtain ⟨place, opens⟩ : ∃ place, t.Opens directory place := by
    obtain ⟨name, member⟩ := List.exists_mem_of_ne_nil names none
    obtain ⟨table, isStale⟩ := stale name member
    exact isStale.opens
  refine exists_removals lawful ?_ distinct (opens.mono progressed.toDirectoriesStay) ?_
  · intro name member
    obtain ⟨table, isStale⟩ := stale name member
    exact isStale.isPlain wf
  · intro name member
    obtain ⟨table, isStale⟩ := stale name member
    obtain ⟨content, read, -⟩ := isStale.marked
    obtain ⟨checked, short, place', bytes, opens', here, -⟩ :=
      (Tree.readText_join_eq_ok (isStale.isPlain wf)).mp read
    rw [opens'.unique opens] at here
    exact ⟨checked, short, bytes, (progressed.entry_stale catalog wf isStale opens).trans here⟩

/-- A plan that fails does so while its files are written. -/
theorem writeFiles_of_apply_error (wf : t.WellFormed) (catalog : IsCatalog directory files)
    (planned : Planned t directory files p) {failure : Files.Failure}
    (ran : runOn p.apply t = (.error failure, t')) :
    runOn (p.written.forM writeFile) t = (.error failure, t') := by
  obtain ⟨names, paths, stale⟩ := planned.exists_names wf
  have distinct := planned.nodup_removals catalog
  rw [paths] at distinct
  have subset : p.written ⊆ files := fun f member => (planned.mem_written.mp member).1
  have progressed := progressed_of_writeFiles lawful catalog subset t
  have removes : (p.removals.forM fun c => attempt (.remove c.path) (Access.remove c.path) :
      ExceptT Files.Failure (StateM Tree) Unit) = names.forM fun name =>
        attempt (.remove (directory.join ⟨name⟩)) (Access.remove (directory.join ⟨name⟩)) := by
    have byPath := forM_map (fun c : Change => c.path)
      (fun path => (attempt (.remove path) (Access.remove path) :
        ExceptT Files.Failure (StateM Tree) PUnit)) p.removals
    rw [← byPath, paths, forM_map]
  unfold Plan.apply at ran
  rw [← forM_map, ← Plan.written, ← Plan.removals, removes, runOn_bind] at ran
  rcases writes : runOn (p.written.forM writeFile) t with ⟨failure' | ⟨⟨⟩⟩, u⟩ <;>
    rw [writes] at ran progressed <;> dsimp only at ran
  · exact ran
  · obtain ⟨t'', removed⟩ := exists_removals_of_stale lawful wf catalog progressed
      (List.Nodup.of_map _ distinct) fun name => (stale name).mp
    rw [removed] at ran
    cases ran

end

/-! ## Paths of the catalog -/

/-- The directories above a file are those on the way to its directory. -/
theorem exists_begins_of_directoriesAbove {f : File} {above : Path}
    (path : f.path = directory.join ⟨fileName f.table⟩) (isAbove : above ∈ directoriesAbove f) :
    ∃ up, directory.Alike up ∧ above.Begins up := by
  obtain ⟨up, parent, alike, -⟩ := directory.parent?_join (isPlain_fileName f.table)
  unfold directoriesAbove at isAbove
  rw [path, parent] at isAbove
  exact ⟨up, alike, Path.begins_of_mem_ancestors isAbove⟩

/-- No directory is made in the place of a file, if the directory was there, or if its path never
goes up. -/
theorem not_made {f : File} {name : String} {above : Path} (stays : t.DirectoriesStay t')
    (path : f.path = directory.join ⟨fileName f.table⟩) (isAbove : above ∈ directoriesAbove f)
    (whole : t'.Opens directory place)
    (looked : ".." ∉ directory.pieces ∨ ∃ place, t.Opens directory place)
    (missing : t.entry? (place ++ [name]) = none) : ¬t'.Opens above (place ++ [name]) := by
  intro opens
  obtain ⟨up, alike, begins⟩ := exists_begins_of_directoriesAbove path isAbove
  have whole' : t'.Opens up place := (Tree.opens_congr alike).mp whole
  rcases looked with noUp | ⟨there, opened⟩
  · -- A directory on the way is not below the last one.
    have below := (opens.isPrefix whole' begins (alike.noUp noUp)).length_le
    rw [List.length_append, List.length_singleton] at below
    omega
  · obtain ⟨middle, -, opened', -⟩ := ((Tree.opens_congr alike).mp opened).exists_begins begins
    rw [opens.unique (opened'.mono stays), opened'.isDirectory] at missing
    contradiction

/-- What a failure leaves: no path of the catalog holds anything but what it held or its whole new
content, and nothing stale is gone. -/
structure Untorn (directory : Path) (files : List File) (t t' : Tree) : Prop where
  holds : (".." ∉ directory.pieces ∨ ∃ names, t.names directory = .ok names) → ∀ f ∈ files,
    (t'.lookup f.path).toOption = (t.lookup f.path).toOption ∨
      t'.lookup f.path = .ok (.file (Text.Utf8.encode f.content))
  stale : ∀ name table, Stale t directory files name table →
    t'.lookup (directory.join ⟨name⟩) = t.lookup (directory.join ⟨name⟩)
  elsewhere : ∀ place, Rewritten files t t' place

/-- In the place of a file of the catalog there is what was there, or the whole new content. -/
theorem Progressed.entry_file (progressed : Progressed files t t')
    (catalog : IsCatalog directory files) (whole : t'.Opens directory place)
    (looked : ".." ∉ directory.pieces ∨ ∃ place, t.Opens directory place) {f : File}
    (member : f ∈ files) :
    t'.entry? (place ++ [fileName f.table]) = t.entry? (place ++ [fileName f.table]) ∨
      t'.entry? (place ++ [fileName f.table]) = some (.file (Text.Utf8.encode f.content)) := by
  cases progressed.entries (place ++ [fileName f.table]) with
  | same same => exact .inl same
  | written g inFiles leads holds =>
    rw [catalog.path g inFiles] at leads
    obtain ⟨-, above, -, same⟩ := (Tree.leads_join_iff (isPlain_fileName g.table)).mp leads
    have named : fileName g.table = fileName f.table := by simpa using congrArg List.getLast? same
    obtain rfl := List.inj_on_of_nodup_map catalog.distinct inFiles member named
    exact .inr holds
  | beside g inFiles leads =>
    rw [catalog.temporary inFiles] at leads
    obtain ⟨-, above, -, same⟩ := (Tree.leads_join_iff (isPlain_temporaryName g.table)).mp leads
    have named : temporaryName g.table = fileName f.table := by
      simpa using congrArg List.getLast? same
    exact absurd named.symm (fileName_ne_temporaryName f.table g.table)
  | made g inFiles above isAbove opens missing =>
    exact absurd opens
      (not_made progressed.toDirectoriesStay (catalog.path g inFiles) isAbove whole looked missing)

section

variable (wf : t.WellFormed) (catalog : IsCatalog directory files)
  (progressed : Progressed files t t')
include wf catalog progressed

/-- A file's path holds what it held or its new content. The cases in which it would hold something
else are a path that comes to lead elsewhere, which directories that stay exclude, and a directory
that is made in the place of the file, which a path that could be listed or never goes up
excludes. -/
theorem Progressed.holds
    (looked : ".." ∉ directory.pieces ∨ ∃ place, t.Opens directory place) {f : File}
    (member : f ∈ files) :
    (t'.lookup f.path).toOption = (t.lookup f.path).toOption ∨
      t'.lookup f.path = .ok (.file (Text.Utf8.encode f.content)) := by
  have plain := isPlain_fileName f.table
  have stays := progressed.toDirectoriesStay
  rw [catalog.path f member]
  cases before : t.lookup (directory.join ⟨fileName f.table⟩) with
  | ok entry =>
    obtain ⟨checked, short, place, opens, here⟩ := (Tree.lookup_join_eq_ok plain).mp before
    have whole := opens.mono stays
    rcases progressed.entry_file catalog whole looked member with same | holds
    · left
      rw [(Tree.lookup_join_eq_ok plain).mpr ⟨checked, short, place, whole, same.trans here⟩]
    · exact .inr ((Tree.lookup_join_eq_ok plain).mpr ⟨checked, short, place, whole, holds⟩)
  | error fault =>
    cases after : t'.lookup (directory.join ⟨fileName f.table⟩) with
    | error fault' => exact .inl rfl
    | ok entry =>
      obtain ⟨checked, short, place, whole, here⟩ := (Tree.lookup_join_eq_ok plain).mp after
      rcases progressed.entry_file catalog whole looked member with same | holds
      · -- What is there now was there before, and so was the directory around it.
        exfalso
        have there := same.symm.trans here
        have opens : t.Opens directory place := by
          rcases looked with noUp | ⟨place', opens'⟩
          · have start : t'.start directory = t.start directory := stays.start_eq directory
            unfold Tree.Opens at whole ⊢
            rw [start] at whole
            exact whole.of_last wf noUp (wf.above_of_present there)
          · rw [whole.unique (opens'.mono stays)]
            exact opens'
        rw [(Tree.lookup_join_eq_ok plain).mpr ⟨checked, short, place, opens, there⟩] at before
        contradiction
      · rw [here, Option.some.injEq] at holds
        rw [holds]
        exact .inr rfl

/-- Files written as far as it went leave no path of the catalog torn. -/
theorem Progressed.untorn : Untorn directory files t t' := by
  refine ⟨fun looked f member => ?_, fun name table stale => ?_, progressed.entries⟩
  · apply progressed.holds wf catalog (looked.imp_right fun ⟨names, listed⟩ => ?_) member
    obtain ⟨-, place, opens, -⟩ := Tree.names_eq_ok.mp listed
    exact ⟨place, opens⟩
  · have plain := stale.isPlain wf
    obtain ⟨content, read, -⟩ := stale.marked
    obtain ⟨checked, short, place, bytes, opens, here, -⟩ :=
      (Tree.readText_join_eq_ok plain).mp read
    have same := progressed.entry_stale catalog wf stale opens
    have found := (Tree.lookup_join_eq_ok plain).mpr ⟨checked, short, place, opens, here⟩
    rw [found, Tree.lookup_join_eq_ok plain]
    exact ⟨checked, short, place, opens.mono progressed.toDirectoriesStay, same.trans here⟩

end

/-! ## Failures -/

/-- Whether bringing a directory up to date failed in changing something. -/
def Failure.isWriting : Failure → Bool
  | .file failure => failure.action.changes
  | .outOfDate _ => false

/-- A failure leaves the tree as it is, but for one in writing, which leaves no file torn. -/
theorem untorn_of_failed {A : Access (StateM Tree)} (lawful : OnTrees A) (wf : t.WellFormed)
    (catalog : IsCatalog directory files) {mode : Mode} {failure : Failure}
    (ran : syncOn A directory files mode t = (.error failure, t')) :
    (failure.isWriting = false → t' = t) ∧
      (failure.isWriting = true → mode = .write ∧ Untorn directory files t t') := by
  obtain ⟨listed, relisted, made⟩ := runOn_plan lawful directory files t
  unfold syncOn sync at ran
  rw [runOn_bind, runOn_adapt, made] at ran
  cases planned : planOf t directory files listed with
  | error failure' =>
    have reading := fails_plan directory files t failure' (by rw [made, planned])
    rw [planned] at ran
    cases ran
    refine ⟨fun _ => rfl, fun writing => ?_⟩
    rw [show Failure.isWriting (.file failure') = false from reading] at writing
    contradiction
  | ok p =>
    rw [planned] at ran
    have planned := planned_of_planOf wf relisted planned
    -- With a plan made, `dryRun` succeeds and `check` only looks: only `write` changes the tree.
    cases mode with
    | dryRun => cases ran
    | check =>
      change runOn (if p.pending.isEmpty = true then pure p else throw (.outOfDate p.pending)) t =
        (Except.error failure, t') at ran
      split at ran
      · cases ran
      · cases ran
        exact ⟨fun _ => rfl, fun writing => by contradiction⟩
    | write =>
      change runOn ((p.apply : ExceptT Files.Failure (StateM Tree) Unit).adapt Failure.file >>=
        fun _ => pure p) t = (.error failure, t') at ran
      rw [runOn_bind, runOn_adapt] at ran
      rcases applied : runOn p.apply t with ⟨failure' | ⟨⟩, u⟩ <;> rw [applied] at ran
      · have writing := fails_apply p t failure' (by rw [applied])
        have writes := writeFiles_of_apply_error lawful wf catalog planned applied
        have progressed := progressed_of_writeFiles lawful catalog
          (fun f member => (planned.mem_written.mp member).1) t
        rw [writes] at progressed
        cases ran
        refine ⟨fun reading => ?_, fun _ => ⟨rfl, progressed.untorn wf catalog⟩⟩
        rw [show Failure.isWriting (.file failure') = true from writing] at reading
        contradiction
      · cases ran

end Catalog

end TableSql
