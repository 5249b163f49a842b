import TableSql.Proofs.Catalog.Sync

/-!
# Modes

All modes make one plan. Those that do nothing leave the tree as it is, and report what writing
reports and does (`Performed`); checking passes exactly when writing would change nothing. Once a
directory was brought up to date there is nothing left to be done, provided that the directory was
there to be listed, or that its path never goes up.
-/

namespace TableSql.Catalog

open Files

variable {t t' s : Tree} {directory : Path} {files : List File} {p : Plan} {place : Location}
variable {names : List String}

/-! ## Changes that are made -/

/-- A change was made between two trees. -/
def Performed (t t' : Tree) (c : Change) : Prop :=
  match c.status with
  | .created => t.lookup c.path = .error .absent ∧ ∃ content, t'.readText c.path = .ok content
  | .updated => ∃ old new, t.readText c.path = .ok old ∧ t'.readText c.path = .ok new ∧ old ≠ new
  | .removed => (∃ content, t.readText c.path = .ok content) ∧ t'.lookup c.path = .error .absent
  | .unchanged => ∃ content, t.readText c.path = .ok content ∧ t'.readText c.path = .ok content

/-- Where something was changed, a change says why. -/
inductive Explained (t t' : Tree) (changes : List Change) (place : Location) : Prop
  /-- The path of a change leads there. -/
  | change (c : Change) (member : c ∈ changes) (leads : t'.Leads c.path place)
  /-- A file was written there before it was moved to its place. -/
  | beside (c : Change) (member : c ∈ changes) (writes : c.status ≠ .removed)
      (leads : t'.Leads (temporary c.path) place) (gone : t'.entry? place = none)
  /-- A directory was missing. -/
  | made (missing : t.entry? place = none) (made : t'.entry? place = some .directory)

/-- Where a directory was brought up to date, every change that was reported was made. -/
theorem UpToDate.performed {changes : List Change}
    (upToDate : UpToDate directory files t t' changes) {c : Change} (member : c ∈ changes) :
    Performed t t' c := by
  obtain ⟨table, path, status⟩ := c
  rcases (upToDate.accounted _).mp member with ⟨f, inFiles, compares, -, samePath⟩ | stale
  · obtain rfl : path = f.path := samePath
    have after := upToDate.contents f inFiles
    cases status with
    | created => exact ⟨compares, _, after⟩
    | updated =>
      obtain ⟨content, read, differs⟩ := compares
      exact ⟨content, f.content, read, after, differs⟩
    | removed => exact compares.elim
    | unchanged => exact ⟨f.content, compares, after⟩
  · obtain ⟨name, table, stale, same⟩ := stale
    cases same
    obtain ⟨content, read, -⟩ := stale.marked
    exact ⟨⟨content, read⟩, upToDate.deleted name table stale⟩

/-- A change that does something makes a difference. -/
theorem Performed.not_same {c : Change} (performed : Performed t t' c)
    (pending : c.status ≠ .unchanged) : ¬t.Same t' := by
  intro same
  obtain ⟨table, path, status⟩ := c
  have read := same.readText_eq path
  have lookup := same.lookup_eq path
  cases status with
  | created =>
    obtain ⟨absent, content, after⟩ := performed
    rw [read, Tree.readText_of_lookup_error absent] at after
    contradiction
  | updated =>
    obtain ⟨old, new, before, after, differs⟩ := performed
    rw [read, before] at after
    exact differs (Except.ok.inj after)
  | removed =>
    obtain ⟨⟨content, before⟩, after⟩ := performed
    rw [lookup] at after
    rw [Tree.readText_of_lookup_error after] at before
    contradiction
  | unchanged => exact pending rfl

/-- A file that differs is among the changes to be made. -/
theorem Planned.mem_pending (planned : Planned t directory files p) {f : File} (member : f ∈ files)
    (differs : t.readText f.path ≠ .ok f.content) :
    ∃ c ∈ p.pending, c.path = f.path ∧ c.status ≠ .removed := by
  obtain ⟨status, compares⟩ := planned.exists_status member
  refine ⟨⟨f.table, f.path, status⟩, ?_, rfl, ?_⟩
  · rw [Plan.pending, List.mem_filter, decide_eq_true_eq]
    refine ⟨planned.mem_changes.mpr (.inl ⟨f, member, compares, rfl, rfl⟩), ?_⟩
    rintro rfl
    exact differs compares
  · rintro rfl
    exact compares

/-- A location that was touched is told by a change to be made, since a file is only written if it
differs. -/
theorem Touched.explained (planned : Planned t directory files p)
    (catalog : IsCatalog directory files) (touched : Touched t t' directory files place) :
    Explained t t' p.pending place := by
  cases touched with
  | written f member differs found =>
    obtain ⟨c, pending, path, -⟩ := planned.mem_pending member differs
    refine .change c pending ?_
    have plain := isPlain_fileName f.table
    rw [catalog.path f member] at path found
    obtain ⟨checked, -, above, opens, -, same⟩ := (Tree.find_join_eq_ok plain).mp found
    rw [path]
    exact (Tree.leads_join_iff plain).mpr ⟨checked, above, opens, same⟩
  | beside f member differs leads gone =>
    obtain ⟨c, pending, path, writes⟩ := planned.mem_pending member differs
    exact .beside c pending writes (by rwa [path]) gone
  | removed name table stale leads gone =>
    refine .change (removal directory name table) ?_ leads
    rw [Plan.pending, List.mem_filter]
    exact ⟨planned.mem_changes.mpr (.inr ⟨name, table, stale, rfl⟩), rfl⟩
  | made f member differs above isAbove opens missing => exact .made missing opens.isDirectory

/-! ## Plans that do nothing -/

/-- A plan without changes that do something writes nothing and removes nothing. -/
theorem Plan.nothing_of_pending (nothing : p.pending = []) : p.written = [] ∧ p.removals = [] := by
  have unchanged : ∀ c ∈ p.changes, c.status = .unchanged := by
    intro c member
    have kept := List.filter_eq_nil_iff.mp nothing c member
    simpa using kept
  constructor
  · rw [Plan.written, List.map_eq_nil_iff, List.filter_eq_nil_iff]
    intro planned member
    have inChanges : Plan.fileChange planned ∈ p.changes := by
      rw [Plan.changes, List.mem_mergeSort]
      exact List.mem_append_left _ (List.mem_map_of_mem member)
    have same : planned.2 = .unchanged := unchanged _ inChanges
    simp [same]
  · rw [Plan.removals, List.filter_eq_nil_iff]
    intro c member
    simp [unchanged c member]

/-- Carrying out a plan with nothing to write and nothing to remove does not touch the tree. -/
theorem runOn_apply_of_nothing (A : Access (StateM Tree))
    (nothing : p.written = [] ∧ p.removals = []) : runOn p.apply t = (.ok (), t) := by
  obtain ⟨noFiles, noRemovals⟩ := nothing
  have same : p.apply =
      (p.written.forM writeFile >>= fun _ => p.removals.forM fun c =>
        attempt (.remove c.path) (Access.remove c.path) :
          ExceptT Files.Failure (StateM Tree) Unit) := by
    unfold Plan.apply
    rw [← forM_map, ← Plan.written, ← Plan.removals]
  rw [same, noFiles, noRemovals]
  rfl

/-- A plan for a directory that is up to date has nothing to do. -/
theorem pending_eq_nil (planned : Planned t directory files p)
    (holds : ∀ f ∈ files, t.readText f.path = .ok f.content)
    (pruned : ∀ name table, ¬Stale t directory files name table) :
    p.pending = [] ∧ ∀ c, c ∈ p.changes ↔ ∃ f ∈ files, c = ⟨f.table, f.path, .unchanged⟩ := by
  have all (c : Change) : c ∈ p.changes ↔ ∃ f ∈ files, c = ⟨f.table, f.path, .unchanged⟩ := by
    rw [planned.mem_changes]
    constructor
    · rintro (⟨f, member, compares, table, path⟩ | ⟨name, table, stale, -⟩)
      · have status := compares.unique (show Compares t f .unchanged from holds f member)
        refine ⟨f, member, ?_⟩
        rw [← table, ← path, ← status]
      · exact absurd stale (pruned name table)
    · rintro ⟨f, member, rfl⟩
      exact .inl ⟨f, member, holds f member, rfl, rfl⟩
  refine ⟨?_, all⟩
  rw [Plan.pending, List.filter_eq_nil_iff]
  intro c member
  obtain ⟨f, -, rfl⟩ := (all c).mp member
  simp

/-! ## Runs that do nothing -/

section

variable {A : Access (StateM Tree)} (lawful : OnTrees A)

/-- A dry run gives the plan and does nothing else. -/
theorem syncOn_dryRun_eq_ok :
    syncOn A directory files .dryRun t = (.ok p, t') ↔
      runOn (plan directory files) t = (.ok p, t') := by
  unfold syncOn sync
  rw [runOn_bind_eq_ok]
  constructor
  · rintro ⟨q, s, planned, same⟩
    cases same
    exact runOn_adapt_eq_ok.mp planned
  · intro planned
    exact ⟨p, t', runOn_adapt_eq_ok.mpr planned, rfl⟩

/-- A check passes exactly if it could make a plan and there is nothing to be done in it. -/
theorem syncOn_check_eq_ok :
    syncOn A directory files .check t = (.ok p, t') ↔
      runOn (plan directory files) t = (.ok p, t') ∧ p.pending = [] := by
  unfold syncOn sync
  rw [runOn_bind_eq_ok]
  simp only [runOn_adapt_eq_ok]
  constructor
  · rintro ⟨q, s, planned, rest⟩
    by_cases nothing : q.pending.isEmpty = true
    · rw [if_pos nothing] at rest
      cases rest
      exact ⟨planned, List.isEmpty_iff.mp nothing⟩
    · rw [if_neg nothing] at rest
      cases rest
  · rintro ⟨planned, nothing⟩
    refine ⟨p, t', planned, ?_⟩
    rw [if_pos (List.isEmpty_iff.mpr nothing)]
    rfl

include lawful

/-- Unless it writes, bringing a directory up to date leaves the tree as it is, whatever comes of
it. -/
theorem syncOn_reads {mode : Mode} (reads : mode ≠ .write) :
    (syncOn A directory files mode t).2 = t := by
  obtain ⟨listed, -, planned⟩ := runOn_plan lawful directory files t
  unfold syncOn sync
  rw [runOn_bind, runOn_adapt, planned]
  cases planOf t directory files listed with
  | error failure => rfl
  | ok p =>
    cases mode with
    | write => contradiction
    | dryRun => rfl
    | check =>
      show (runOn
        (if p.pending.isEmpty = true then pure p else throw (Failure.outOfDate p.pending) :
          ExceptT Failure (StateM Tree) Plan) t).2 = t
      split <;> rfl

end

/-! ## After a directory was brought up to date -/

/-- A directory that is there is listed, if one of its names has a path that can be a path. -/
theorem listing_of_opens {name : String} (plain : IsPlain name) (opens : t.Opens directory place)
    (checked : Tree.checkPath (directory.join ⟨name⟩) = .ok ()) :
    ∃ names, listing directory (t.names directory) = .ok names := by
  by_cases empty : directory.text = ""
  · -- The empty path is no path: nothing is listed.
    have refused : Tree.checkPath directory = .error .absent := by
      simp [Tree.checkPath, empty]
    rw [Tree.names_of_checkPath_error refused]
    exact ⟨[], rfl⟩
  · have isPrefix : directory.text.toList <+: (directory.join ⟨name⟩).text.toList := by
      rw [Path.text_join directory plain.noSlash, String.toList_append, String.toList_append,
        List.append_assoc]
      exact List.prefix_append _ _
    have found := Tree.names_eq_ok.mpr
      ⟨Tree.checkPath_of_prefix checked empty isPrefix, place, opens, rfl⟩
    rw [found]
    exact ⟨_, rfl⟩

/-- A directory in which names were changed can be listed afterwards. -/
theorem Applied.listed (applied : Applied t directory files p s t' place names) (wf : t.WellFormed)
    (some : p.written ≠ [] ∨ names ≠ []) :
    ∃ names, listing directory (t'.names directory) = .ok names := by
  have opens := (applied.opens some).mono applied.edited.toDirectoriesStay
  rcases some with some | some
  · obtain ⟨f, member⟩ := List.exists_mem_of_ne_nil _ some
    exact listing_of_opens (isPlain_fileName f.table) opens (applied.nameable f member).path
  · obtain ⟨name, member⟩ := List.exists_mem_of_ne_nil _ some
    obtain ⟨table, stale⟩ := (applied.mem_names name).mp member
    have plain := stale.isPlain wf
    obtain ⟨content, read, -⟩ := stale.marked
    exact listing_of_opens plain opens ((Tree.readText_join_eq_ok plain).mp read).1

/-- The directory can be listed after a plan for it was carried out. -/
theorem listed_of_apply {A : Access (StateM Tree)} (lawful : OnTrees A) (wf : t.WellFormed)
    (catalog : IsCatalog directory files) (planned : Planned t directory files p)
    (ran : runOn p.apply t = (.ok (), t')) :
    ∃ names, listing directory (t'.names directory) = .ok names := by
  obtain ⟨s, place, names, applied⟩ := applied_of_apply lawful wf catalog planned ran
  by_cases some : p.written ≠ [] ∨ names ≠ []
  · exact applied.listed wf some
  · -- Nothing was pending, so the tree is the one that was listed.
    rw [not_or, not_not, not_not] at some
    obtain ⟨noFiles, rfl⟩ := some
    have noRemovals : p.removals = [] := by
      apply List.eq_nil_iff_forall_not_mem.mpr
      intro c member
      obtain ⟨name, table, stale, -⟩ := planned.mem_removals.mp member
      exact List.not_mem_nil ((applied.mem_names name).mpr ⟨table, stale⟩)
    rw [runOn_apply_of_nothing A ⟨noFiles, noRemovals⟩] at ran
    cases ran
    exact planned.listed

/-- How the modes agree on a tree that writing makes into another. -/
structure Agree (A : Access (StateM Tree)) (directory : Path) (files : List File) (t t' : Tree)
    (p : Plan) : Prop where
  dryRun : syncOn A directory files .dryRun t = (.ok p, t)
  check : (∃ q, syncOn A directory files .check t = (.ok q, t)) ↔ t.Same t'
  performed : ∀ c ∈ p.changes, Performed t t' c
  explained : ∀ place, t'.entry? place = t.entry? place ∨ Explained t t' p.pending place
  settled : (".." ∉ directory.pieces ∨ ∃ names, t.names directory = .ok names) →
    (∃ q, syncOn A directory files .check t' = (.ok q, t')) ∧
      ∃ q, syncOn A directory files .write t' = (.ok q, t') ∧
        ∀ c, c ∈ q.changes ↔ ∃ f ∈ files, c = ⟨f.table, f.path, .unchanged⟩

/-- Only writing changes a tree. If it succeeds, the other modes report what it reports and does,
and after it there is nothing left to be done. -/
theorem modes_agree {A : Access (StateM Tree)} (lawful : OnTrees A) (wf : t.WellFormed)
    {tables : List CompiledTable} (generated : Catalog.files directory tables = .ok files) :
    (∀ mode, mode ≠ .write → (syncOn A directory files mode t).2 = t) ∧
      ∀ p t', syncOn A directory files .write t = (.ok p, t') → Agree A directory files t t' p := by
  have catalog := isCatalog_of_files generated
  refine ⟨fun mode reads => syncOn_reads lawful reads, fun p t' ran => ?_⟩
  obtain ⟨s, made, applied⟩ := syncOn_write_eq_ok.mp ran
  obtain ⟨same, planned⟩ := planned_of_plan lawful wf made
  subst s
  have upToDate := upToDate_of_apply lawful wf catalog planned applied
  constructor
  case dryRun => exact syncOn_dryRun_eq_ok.mpr made
  case check =>
    constructor
    · rintro ⟨q, checked⟩
      obtain ⟨planned', nothing⟩ := syncOn_check_eq_ok.mp checked
      rw [made] at planned'
      cases planned'
      rw [runOn_apply_of_nothing A (Plan.nothing_of_pending nothing)] at applied
      cases applied
      exact .refl _
    · intro same
      refine ⟨p, syncOn_check_eq_ok.mpr ⟨made, ?_⟩⟩
      rw [Plan.pending, List.filter_eq_nil_iff]
      intro c member
      simpa using fun differs => (upToDate.performed member).not_same differs same
  case performed => exact fun c member => upToDate.performed member
  case explained =>
    exact fun place => (upToDate.elsewhere place).imp_right (·.explained planned catalog)
  case settled =>
    intro looked
    have wf' : t'.WellFormed := by
      have spares := leaves_apply lawful p t
      rw [applied] at spares
      exact spares.wellFormed wf
    -- A second plan finds every file as it was left and nothing stale, so it has no changes.
    obtain ⟨q, again, planned'⟩ := exists_plan lawful wf'
      (listed_of_apply lawful wf catalog planned applied)
      fun f member => ⟨.unchanged, upToDate.contents f member⟩
    obtain ⟨nothing, all⟩ := pending_eq_nil planned' upToDate.contents (upToDate.pruned looked)
    exact ⟨⟨q, syncOn_check_eq_ok.mpr ⟨again, nothing⟩⟩, q,
      syncOn_write_eq_ok.mpr
        ⟨t', again, runOn_apply_of_nothing A (Plan.nothing_of_pending nothing)⟩, all⟩

/-- The modes agree on the file of a table that is added to one that was written by hand. -/
theorem modes_agree_users :
    withNotes.WellFormed ∧ Catalog.files ⟨"out"⟩ [users] = .ok [file ⟨"out"⟩ users] ∧
      (∀ mode, mode ≠ .write →
        (syncOn inferInstance ⟨"out"⟩ [file ⟨"out"⟩ users] mode withNotes).2 = withNotes) ∧
      ∃ p t', syncOn inferInstance ⟨"out"⟩ [file ⟨"out"⟩ users] .write withNotes = (.ok p, t') ∧
        Agree inferInstance ⟨"out"⟩ [file ⟨"out"⟩ users] withNotes t' p := by
  have wf := wellFormed_withNotes
  obtain ⟨p, t', ran⟩ := exists_withNotes
  obtain ⟨reads, agree⟩ := modes_agree onTrees wf (files_users ⟨"out"⟩)
  exact ⟨wf, files_users ⟨"out"⟩, reads, p, t', ran, agree p t' ran⟩

/-- Where `gen` is missing, writing to `gen/../sql` leaves what was stale in `sql`, and checking
fails right after it. -/
theorem check_fails_behind_missing_directory :
    withOld.WellFormed ∧ Catalog.files ⟨"gen/../sql"⟩ [users] = .ok [file ⟨"gen/../sql"⟩ users] ∧
      ∃ p t',
        syncOn inferInstance ⟨"gen/../sql"⟩ [file ⟨"gen/../sql"⟩ users] .write withOld =
            (.ok p, t') ∧
          ¬∃ q u, syncOn inferInstance ⟨"gen/../sql"⟩ [file ⟨"gen/../sql"⟩ users] .check t' =
            (.ok q, u) := by
  obtain ⟨p, ran⟩ := exists_withBoth
  refine ⟨by decide +kernel, files_users _, p, withBoth, ran, ?_⟩
  rintro ⟨q, u, checked⟩
  obtain ⟨made, nothing⟩ := syncOn_check_eq_ok.mp checked
  have planned := (planned_of_plan onTrees (by decide +kernel) made).2
  have pending : removal ⟨"gen/../sql"⟩ "old.sql" "old" ∈ q.pending := by
    rw [Plan.pending, List.mem_filter]
    exact ⟨planned.mem_changes.mpr (.inr ⟨_, _, stale_old, rfl⟩), rfl⟩
  rw [nothing] at pending
  exact List.not_mem_nil pending

end TableSql.Catalog
