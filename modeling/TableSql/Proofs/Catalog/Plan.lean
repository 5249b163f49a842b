import TableSql.Proofs.Catalog.Names
import TableSql.Proofs.Files.Access

/-!
# Making a plan

A plan only reads. What it finds is a function of the tree and of the names that the directory
lists, in whatever order (`runOn_plan`): the status of each file compares the file with what stands
in its place (`Compares`), and stale is what is marked as generated and in no one's place (`Stale`).

The changes of a plan are in ascending order of their paths, one for each file and one for each
stale file, so they do not depend on the order in which a directory lists its names
(`Planned.pairwise_changes`, `Planned.changes_eq`).
-/

namespace TableSql.Catalog

open Files

/-! ## Files -/

/-- What has to happen to a file, seen from what stands in its place. -/
def Compares (t : Tree) (f : File) : Status → Prop
  | .created => t.lookup f.path = .error .absent
  | .updated => ∃ content, t.readText f.path = .ok content ∧ content ≠ f.content
  | .unchanged => t.readText f.path = .ok f.content
  | .removed => False

/-- What has to happen to a file, unless its place can not be read. -/
def statusIn (t : Tree) (f : File) : Except Files.Failure Status :=
  match t.readText f.path with
  | .ok content => .ok (if content = f.content then .unchanged else .updated)
  | .error .absent => .ok .created
  | .error fault => .error ⟨.read f.path, fault⟩

/-- The status of a file is what comparing it with the tree gives. -/
theorem statusIn_eq_ok {t : Tree} {f : File} {status : Status} :
    statusIn t f = .ok status ↔ Compares t f status := by
  have absent := t.readText_eq_absent (p := f.path)
  unfold statusIn
  split
  · next content read =>
    by_cases same : content = f.content
    · cases status <;> simp_all [Compares]
    · cases status <;> simp_all [Compares]
  · next read => cases status <;> simp_all [Compares]
  · next fault other read =>
    cases status <;> simp_all [Compares]

/-! ## Stale files -/

/-- A name in a directory belongs to a generated file of a table that is not in the catalog. -/
structure Stale (t : Tree) (directory : Path) (files : List File) (name table : String) : Prop where
  listed : ∃ names, t.names directory = .ok names ∧ name ∈ names
  ending : extension? name = some fileEnding
  unowned : ∀ f ∈ files, f.path ≠ directory.join ⟨name⟩
  marked : ∃ content, t.readText (directory.join ⟨name⟩) = .ok content ∧
    generatedTable? content = some table

/-- The removal of a name in a directory. -/
def removal (directory : Path) (name table : String) : Change :=
  ⟨table, directory.join ⟨name⟩, .removed⟩

/-- The removal of a name in a directory, if it is stale. -/
def staleIn (t : Tree) (directory : Path) (files : List File) (name : String) : Option Change :=
  if extension? name = some fileEnding ∧ ∀ f ∈ files, f.path ≠ directory.join ⟨name⟩ then
    match t.readText (directory.join ⟨name⟩) with
    | .ok content => (generatedTable? content).map (removal directory name)
    | .error _ => none
  else none

/-! ## Plans as functions -/

/-- The names that were read from a directory, which may be missing. -/
def listing (directory : Path) : Except Fault (List String) → Except Files.Failure (List String)
  | .ok names => .ok names
  | .error .absent => .ok []
  | .error fault => .error ⟨.list directory, fault⟩

/-- A directory that is listed in another order is read as the same names in another order. -/
theorem relisted_listing (directory : Path) {names listed : Except Fault (List String)}
    (relisted : Relisted names listed) :
    Relisted (listing directory names) (listing directory listed) := by
  cases names with
  | ok names =>
    cases listed with
    | ok listed => exact relisted
    | error fault => exact relisted.elim
  | error fault =>
    cases listed with
    | ok listed => exact relisted.elim
    | error fault' =>
      obtain rfl : fault = fault' := relisted
      exact .refl _

/-- The plan for what a directory lists. -/
def planOf (t : Tree) (directory : Path) (files : List File)
    (listed : Except Files.Failure (List String)) : Except Files.Failure Plan := do
  let planned ← files.mapM fun f => (f, ·) <$> statusIn t f
  let names ← listed
  return ⟨planned, names.filterMap (staleIn t directory files)⟩

section

variable [A : Access (StateM Tree)] (lawful : OnTrees A)

include lawful

theorem runOn_statusOf (f : File) (t : Tree) : runOn (statusOf f) t = (statusIn t f, t) := by
  unfold statusOf statusIn
  rw [runOn_attempt, runOn_tryCatch, runOn_bind, lawful.readText, runOn_ask]
  cases t.readText f.path with
  | ok content => rfl
  | error fault => cases fault <;> rfl

/-- Looking whether a name is stale reads the tree and leaves it as it is. -/
theorem run_staleChange? (directory : Path) (files : List File) (name : String) (t : Tree) :
    (staleChange? directory files name : StateM Tree (Option Change)) t =
      (staleIn t directory files name, t) := by
  have read : ((Access.readText (directory.join ⟨name⟩) : ExceptT Fault (StateM Tree) String).run :
      StateM Tree (Except Fault String)) t = (t.readText (directory.join ⟨name⟩), t) := by
    rw [lawful.readText]
    rfl
  unfold staleChange?
  by_cases ending : extension? name = some fileEnding
  · rw [if_neg (not_not_intro ending), run_bind, run_isFile lawful]
    dsimp only
    by_cases unowned : ∀ f ∈ files, f.path ≠ directory.join ⟨name⟩
    · have noOwner : ¬(files.any fun f => f.path == directory.join ⟨name⟩) = true := by
        simpa using unowned
      rw [if_neg noOwner, staleIn, if_pos (And.intro ending unowned)]
      cases found : t.readText (directory.join ⟨name⟩) with
      | ok content =>
        rw [Tree.kind?_of_readText found, if_neg (by decide), run_bind, read, found]
        rfl
      | error fault =>
        split
        · rfl
        · rw [run_bind, read, found]
          rfl
    · have owner : (files.any fun f => f.path == directory.join ⟨name⟩) = true := by
        simpa using unowned
      rw [if_pos owner, staleIn, if_neg fun both => unowned (And.right both), ite_self]
      rfl
  · rw [if_pos ending, staleIn, if_neg fun both => ending (And.left both)]
    rfl

/-- Listing a directory gives its names in some order, and none if it is missing. -/
theorem runOn_namesIn (directory : Path) (t : Tree) :
    ∃ listed, runOn (namesIn directory) t = (listed, t) ∧
      Relisted (listing directory (t.names directory)) listed := by
  obtain ⟨found, ran, relisted⟩ := lawful.names directory t
  refine ⟨listing directory found, ?_, relisted_listing directory relisted⟩
  unfold namesIn
  rw [runOn_attempt, runOn_tryCatch, ran]
  cases found with
  | ok names => rfl
  | error fault => cases fault <;> rfl

/-- Making a plan reads the tree and leaves it as it is; only the order in which the directory lists
its names is open. -/
theorem runOn_plan (directory : Path) (files : List File) (t : Tree) :
    ∃ listed, Relisted (listing directory (t.names directory)) listed ∧
      runOn (plan directory files) t = (planOf t directory files listed, t) := by
  obtain ⟨listed, ran, relisted⟩ := runOn_namesIn lawful directory t
  refine ⟨listed, relisted, ?_⟩
  have status (f : File) :
      runOn (do return (f, ← statusOf f) : ExceptT Files.Failure (StateM Tree) (File × Status)) t =
        ((f, ·) <$> statusIn t f, t) := by
    rw [runOn_bind, runOn_statusOf lawful]
    cases statusIn t f <;> rfl
  -- Both loops of the plan only read the tree, so they give what the items give on it.
  unfold plan planOf
  rw [runOn_bind, runOn_mapM_of_reads status]
  cases files.mapM fun f => (f, ·) <$> statusIn t f with
  | error failure => rfl
  | ok planned =>
    dsimp only
    rw [runOn_bind, ran]
    cases listed with
    | error failure => rfl
    | ok names =>
      have stale (name : String) :
          runOn (liftM (staleChange? directory files name : StateM Tree (Option Change)) :
            ExceptT Files.Failure (StateM Tree) (Option Change)) t =
            (.ok (staleIn t directory files name), t) := by
        rw [runOn_lift, run_staleChange? lawful]
      dsimp only
      rw [runOn_bind, runOn_mapM_of_reads stale]
      have all : (names.mapM fun name =>
          (Except.ok (staleIn t directory files name) : Except Files.Failure _)) =
            .ok (names.map (staleIn t directory files)) := List.mapM_pure
      rw [all]
      show (Except.ok (Plan.mk planned ((names.map (staleIn t directory files)).filterMap id)), t) =
        _
      rw [List.filterMap_map]
      rfl

end

/-! ## What a plan says -/

variable {t t' : Tree} {directory : Path} {files : List File} {p p' : Plan}

/-- A listed name is removed exactly if it is stale. -/
theorem staleIn_eq_some {name : String} {c : Change}
    (listed : ∃ names, t.names directory = .ok names ∧ name ∈ names) :
    staleIn t directory files name = some c ↔
      ∃ table, Stale t directory files name table ∧ c = removal directory name table := by
  unfold staleIn
  constructor
  · intro found
    split at found
    · next looked =>
      split at found
      · next content read =>
        obtain ⟨table, marked, rfl⟩ := Option.map_eq_some_iff.mp found
        exact ⟨table, ⟨listed, looked.1, looked.2, content, read, marked⟩, rfl⟩
      · contradiction
    · contradiction
  · rintro ⟨table, stale, rfl⟩
    obtain ⟨content, read, marked⟩ := stale.marked
    rw [if_pos (And.intro stale.ending stale.unowned), read]
    show (generatedTable? content).map (removal directory name) = _
    rw [marked]
    rfl

/-- What a plan for a directory and some files consists of. -/
structure Planned (t : Tree) (directory : Path) (files : List File) (p : Plan) : Prop where
  listed : ∃ names, listing directory (t.names directory) = .ok names
  statuses : List.Forall₂ (fun f planned => planned.1 = f ∧ Compares t f planned.2) files p.files
  mem_stale : ∀ c, c ∈ p.stale ↔
    ∃ name table, Stale t directory files name table ∧ c = removal directory name table
  distinct : (p.stale.map (·.path)).Nodup

/-- A plan is made exactly if the directory can be listed and every file be compared; it then has
the status of each file and the removals of the stale names. -/
theorem planOf_eq_ok {listed : Except Files.Failure (List String)} :
    planOf t directory files listed = .ok p ↔ ∃ names, listed = .ok names ∧
      List.Forall₂ (fun f planned => planned.1 = f ∧ Compares t f planned.2) files p.files ∧
      names.filterMap (staleIn t directory files) = p.stale := by
  have each (f : File) (planned : File × Status) :
      (f, ·) <$> statusIn t f = .ok planned ↔ planned.1 = f ∧ Compares t f planned.2 := by
    rw [← statusIn_eq_ok]
    cases statusIn t f with
    | error failure => simp [Functor.map, Except.map]
    | ok status => simp [Functor.map, Except.map, Prod.ext_iff, eq_comm]
  unfold planOf
  rw [bind_eq_ok]
  simp only [mapM_eq_ok, each, bind_eq_ok, pure, Except.pure, Except.ok.injEq]
  constructor
  · rintro ⟨planned, statuses, names, rfl, rfl⟩
    exact ⟨names, rfl, statuses, rfl⟩
  · rintro ⟨names, rfl, statuses, stale⟩
    exact ⟨p.files, statuses, names, rfl, by rw [stale]⟩

/-- The names that are looked at are those of the directory, each once. -/
theorem looked_of_relisted {names : List String}
    (relisted : Relisted (listing directory (t.names directory)) (.ok names)) :
    names.Nodup ∧ ∀ name, name ∈ names ↔ ∃ all, t.names directory = .ok all ∧ name ∈ all := by
  cases found : t.names directory with
  | ok all =>
    rw [found] at relisted
    have perm : names.Perm all := relisted
    refine ⟨perm.nodup_iff.mpr (Tree.nodup_names found), fun name => ?_⟩
    rw [perm.mem_iff]
    simp
  | error fault =>
    rw [found] at relisted
    cases fault with
    | absent =>
      obtain rfl : names = [] := List.perm_nil.mp relisted
      simp
    | _ => exact relisted.elim

/-- A plan that is made from a listing in any order has what a plan has to have. In a well-formed
tree no name is listed twice, so no path is removed twice. -/
theorem planned_of_planOf (wf : t.WellFormed) {listed : Except Files.Failure (List String)}
    (relisted : Relisted (listing directory (t.names directory)) listed)
    (planned : planOf t directory files listed = .ok p) : Planned t directory files p := by
  obtain ⟨names, rfl, statuses, stale⟩ := planOf_eq_ok.mp planned
  obtain ⟨nodup, looked⟩ := looked_of_relisted relisted
  have listed : ∃ names, listing directory (t.names directory) = .ok names := by
    cases found : listing directory (t.names directory) with
    | ok names => exact ⟨names, rfl⟩
    | error failure =>
      rw [found] at relisted
      exact relisted.elim
  refine ⟨listed, statuses, fun c => ?_, ?_⟩
  · rw [← stale, List.mem_filterMap]
    constructor
    · rintro ⟨name, member, found⟩
      obtain ⟨table, isStale, rfl⟩ := (staleIn_eq_some ((looked name).mp member)).mp found
      exact ⟨name, table, isStale, rfl⟩
    · rintro ⟨name, table, isStale, rfl⟩
      exact ⟨name, (looked name).mpr isStale.listed,
        (staleIn_eq_some isStale.listed).mpr ⟨table, isStale, rfl⟩⟩
  · -- Different plain names give different paths.
    rw [← stale, List.Nodup, List.pairwise_map]
    refine List.Pairwise.filterMap _ ?_ (nodup.pairwise_of_forall_ne fun a inA b inB apart =>
      show a ∈ names ∧ b ∈ names ∧ a ≠ b from ⟨inA, inB, apart⟩)
    rintro a b ⟨inA, inB, apart⟩ c foundC d foundD same
    obtain ⟨allA, listedA, memberA⟩ := (looked a).mp inA
    obtain ⟨allB, listedB, memberB⟩ := (looked b).mp inB
    obtain ⟨_, -, rfl⟩ := (staleIn_eq_some ⟨allA, listedA, memberA⟩).mp foundC
    obtain ⟨_, -, rfl⟩ := (staleIn_eq_some ⟨allB, listedB, memberB⟩).mp foundD
    exact apart ((Path.join_inj (wf.plain_of_mem_names listedA memberA).noSlash
      (wf.plain_of_mem_names listedB memberB).noSlash).mp same)

section

variable [A : Access (StateM Tree)] (lawful : OnTrees A)

include lawful

theorem planned_of_plan (wf : t.WellFormed)
    (ran : runOn (plan directory files) t = (.ok p, t')) :
    t' = t ∧ Planned t directory files p := by
  obtain ⟨listed, relisted, same⟩ := runOn_plan lawful directory files t
  rw [same, Prod.mk.injEq] at ran
  obtain ⟨planned, rfl⟩ := ran
  exact ⟨rfl, planned_of_planOf wf relisted planned⟩

/-- There is a plan if the directory is listed or missing and each file's place can be read. -/
theorem exists_plan (wf : t.WellFormed)
    (listed : ∃ names, listing directory (t.names directory) = .ok names)
    (readable : ∀ f ∈ files, ∃ status, Compares t f status) :
    ∃ p, runOn (plan directory files) t = (.ok p, t) ∧ Planned t directory files p := by
  obtain ⟨listed', relisted, same⟩ := runOn_plan lawful directory files t
  obtain ⟨names, found⟩ := listed
  rw [found] at relisted
  cases listed' with
  | error failure => exact relisted.elim
  | ok names' =>
    obtain ⟨planned, statuses⟩ : ∃ planned : List (File × Status), List.Forall₂
        (fun f planned => planned.1 = f ∧ Compares t f planned.2) files planned := by
      rw [exists_forall₂_iff]
      intro f member
      obtain ⟨status, compares⟩ := readable f member
      exact ⟨(f, status), rfl, compares⟩
    have planned' : planOf t directory files (.ok names') =
        .ok ⟨planned, names'.filterMap (staleIn t directory files)⟩ :=
      planOf_eq_ok.mpr ⟨names', rfl, statuses, rfl⟩
    rw [← found] at relisted
    rw [planned'] at same
    exact ⟨_, same, planned_of_planOf wf relisted planned'⟩

end

/-! ## Changes -/

theorem Compares.unique {f : File} {status status' : Status} (first : Compares t f status)
    (second : Compares t f status') : status = status' :=
  Except.ok.inj ((statusIn_eq_ok.mpr first).symm.trans (statusIn_eq_ok.mpr second))

/-- The files of a plan are those it is made for, each with its status. -/
theorem Planned.mem_files (planned : Planned t directory files p) {f : File} {status : Status} :
    (f, status) ∈ p.files ↔ f ∈ files ∧ Compares t f status := by
  have statuses := planned.statuses
  clear planned
  generalize p.files = fs at statuses
  induction statuses with
  | nil => simp
  | @cons g planned gs fs here _ ih =>
    obtain ⟨rfl, compares⟩ := here
    simp only [List.mem_cons, ih]
    constructor
    · rintro (same | ⟨member, other⟩)
      · rw [← same] at compares ⊢
        exact ⟨.inl rfl, compares⟩
      · exact ⟨.inr member, other⟩
    · rintro ⟨same | member, other⟩
      · subst same
        exact .inl (Prod.ext rfl (other.unique compares))
      · exact .inr ⟨member, other⟩

theorem Planned.map_files (planned : Planned t directory files p) :
    p.files.map Prod.fst = files := by
  have statuses := planned.statuses
  clear planned
  generalize p.files = fs at statuses
  induction statuses with
  | nil => rfl
  | cons here _ ih => rw [List.map_cons, here.1, ih]

/-- The statuses of files do not depend on anything but the tree. -/
theorem Planned.files_eq (planned : Planned t directory files p)
    (planned' : Planned t directory files p') : p.files = p'.files := by
  have statuses := planned.statuses
  have statuses' := planned'.statuses
  clear planned planned'
  generalize p.files = fs at statuses
  generalize p'.files = fs' at statuses'
  induction statuses generalizing fs' with
  | nil =>
    cases statuses'
    rfl
  | cons here _ ih =>
    cases statuses' with
    | cons here' rest' =>
      have status := here.2.unique here'.2
      rw [ih _ rest', Prod.ext (here.1.trans here'.1.symm) status]

/-- The changes of a plan are those of its files and the removals of what is stale. -/
theorem Planned.mem_changes (planned : Planned t directory files p) {c : Change} :
    c ∈ p.changes ↔ (∃ f ∈ files, Compares t f c.status ∧ c.table = f.table ∧ c.path = f.path) ∨
      ∃ name table, Stale t directory files name table ∧ c = removal directory name table := by
  rw [Plan.changes, List.mem_mergeSort, List.mem_append, planned.mem_stale, List.mem_map]
  refine or_congr_left ?_
  constructor
  · rintro ⟨⟨f, status⟩, member, rfl⟩
    obtain ⟨inFiles, compares⟩ := planned.mem_files.mp member
    exact ⟨f, inFiles, compares, rfl, rfl⟩
  · rintro ⟨f, inFiles, compares, table, path⟩
    refine ⟨(f, c.status), planned.mem_files.mpr ⟨inFiles, compares⟩, ?_⟩
    rw [Plan.fileChange, ← table, ← path]

/-- No two changes are of one path. -/
theorem Planned.nodup_paths (planned : Planned t directory files p)
    (catalog : IsCatalog directory files) :
    ((p.files.map Plan.fileChange ++ p.stale).map (·.path)).Nodup := by
  rw [List.map_append, List.nodup_append]
  refine ⟨?_, planned.distinct, ?_⟩
  · have paths : (p.files.map Plan.fileChange).map (·.path) = files.map (·.path) := by
      rw [← planned.map_files]
      simp [Plan.fileChange]
    have named : files.map (·.path) =
        (files.map fun f => fileName f.table).map (fun name => directory.join ⟨name⟩) := by
      rw [List.map_map]
      apply List.map_congr_left
      intro f member
      rw [Function.comp_apply, catalog.path f member]
    rw [paths, named]
    refine List.Nodup.map_on ?_ catalog.distinct
    intro a inA b inB same
    obtain ⟨f, -, rfl⟩ := List.mem_map.mp inA
    obtain ⟨g, -, rfl⟩ := List.mem_map.mp inB
    exact (Path.join_inj (isPlain_fileName _).noSlash (isPlain_fileName _).noSlash).mp same
  · -- What is stale is in no file's place.
    intro path inFiles path' inStale
    obtain ⟨_, member, rfl⟩ := List.mem_map.mp inFiles
    obtain ⟨⟨f, status⟩, planned', rfl⟩ := List.mem_map.mp member
    obtain ⟨c, member', rfl⟩ := List.mem_map.mp inStale
    obtain ⟨name, table, stale, rfl⟩ := (planned.mem_stale c).mp member'
    exact stale.unowned f (planned.mem_files.mp planned').1

/-- Changes are in ascending order of their paths. -/
theorem Planned.pairwise_changes (planned : Planned t directory files p)
    (catalog : IsCatalog directory files) :
    p.changes.Pairwise fun a b => a.path.text < b.path.text := by
  have ordered : p.changes.Pairwise fun a b => decide (a.path.text ≤ b.path.text) = true := by
    unfold Plan.changes
    apply List.pairwise_mergeSort
    · intro a b c first second
      rw [decide_eq_true_eq] at first second ⊢
      exact String.le_trans first second
    · intro a b
      simpa using String.le_total a.path.text b.path.text
  have distinct : p.changes.Pairwise fun a b => a.path ≠ b.path := by
    have perm := List.mergeSort_perm (p.files.map Plan.fileChange ++ p.stale)
      fun a b => a.path.text ≤ b.path.text
    have nodup := (perm.map (·.path)).nodup_iff.mpr (planned.nodup_paths catalog)
    exact List.pairwise_map.mp nodup
  refine (ordered.and distinct).imp fun {a b} ⟨below, apart⟩ => String.not_le.mp ?_
  intro above
  have same := String.le_antisymm (of_decide_eq_true below) above
  exact apart (by rwa [← Files.Path.mk.injEq] at same)

/-- The changes do not depend on the order in which the directory lists its names. -/
theorem Planned.changes_eq (planned : Planned t directory files p)
    (planned' : Planned t directory files p') (catalog : IsCatalog directory files) :
    p.changes = p'.changes := by
  have ascending := planned.pairwise_changes catalog
  have ascending' := planned'.pairwise_changes catalog
  have nodup {changes : List Change}
      (sorted : changes.Pairwise fun a b => a.path.text < b.path.text) : changes.Nodup := by
    apply sorted.imp
    rintro a b below rfl
    exact String.lt_irrefl _ below
  have perm : p.changes.Perm p'.changes := by
    rw [List.perm_ext_iff_of_nodup (nodup ascending) (nodup ascending')]
    intro c
    rw [planned.mem_changes, planned'.mem_changes]
  exact perm.eq_of_pairwise
    (fun a b _ _ below above => absurd below (String.lt_asymm above)) ascending ascending'

end TableSql.Catalog
