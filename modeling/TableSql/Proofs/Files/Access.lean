import Mathlib.Order.Defs.Unbundled
import TableSql.Files.Failure
import TableSql.Proofs.Files.Tree

/-!
# Running file operations on a tree

A computation with files is run on a tree (`runOn`) and gives a result and the tree that it leaves.
`OnTrees` says that file operations are those of trees; only the order in which a directory lists
its names is left open. What holds of every step of a computation holds of its whole run, whatever
the outcome (`Leaves`).

Making a directory with those above it adds directories where nothing was (`Grown`), and does
nothing when the directory is there (`makeDirectories_of_opens`).
-/

namespace TableSql.Files

variable {ε ε' α β : Type} {t t' t'' : Tree}

/-! ## Runs -/

/-- What a computation gives on a tree, and the tree that it leaves. -/
def runOn (x : ExceptT ε (StateM Tree) α) (t : Tree) : Except ε α × Tree := x t

@[simp] theorem runOn_pure (a : α) :
    runOn (pure a : ExceptT ε (StateM Tree) α) t = (.ok a, t) := rfl

@[simp] theorem runOn_throw (e : ε) :
    runOn (throw e : ExceptT ε (StateM Tree) α) t = (.error e, t) := rfl

/-- The second computation is run on the tree that the first one leaves, if that gives a result. -/
theorem runOn_bind (x : ExceptT ε (StateM Tree) α) (f : α → ExceptT ε (StateM Tree) β) :
    runOn (x >>= f) t =
      match runOn x t with
      | (.ok a, s) => runOn (f a) s
      | (.error e, s) => (.error e, s) := by
  have unfolded : runOn (x >>= f) t = (ExceptT.bindCont f (runOn x t).1) (runOn x t).2 := rfl
  rw [unfolded]
  rcases runOn x t with ⟨_ | _, s⟩ <;> rfl

/-- A computation that failed leaves its tree to the one that takes its place. -/
theorem runOn_tryCatch (x : ExceptT ε (StateM Tree) α) (f : ε → ExceptT ε (StateM Tree) α) :
    runOn (tryCatch x f) t =
      match runOn x t with
      | (.ok a, s) => (.ok a, s)
      | (.error e, s) => runOn (f e) s := by
  have unfolded : runOn (tryCatch x f) t =
      (match (runOn x t).1 with
        | .ok a => (pure (.ok a) : StateM Tree (Except ε α))
        | .error e => f e) (runOn x t).2 := rfl
  rw [unfolded]
  rcases runOn x t with ⟨_ | _, s⟩ <;> rfl

theorem runOn_attempt (action : Action) (x : ExceptT Fault (StateM Tree) α) :
    runOn (attempt action x) t = ((runOn x t).1.mapError (⟨action, ·⟩), (runOn x t).2) := rfl

theorem runOn_adapt (f : ε → ε') (x : ExceptT ε (StateM Tree) α) :
    runOn (x.adapt f) t = ((runOn x t).1.mapError f, (runOn x t).2) := rfl

theorem runOn_lift (x : StateM Tree α) :
    runOn (liftM x : ExceptT ε (StateM Tree) α) t = (.ok (x t).1, (x t).2) := rfl

theorem runOn_bind_eq_ok {x : ExceptT ε (StateM Tree) α} {f : α → ExceptT ε (StateM Tree) β}
    {b : β} :
    runOn (x >>= f) t = (.ok b, t') ↔
      ∃ a s, runOn x t = (.ok a, s) ∧ runOn (f a) s = (.ok b, t') := by
  rw [runOn_bind]
  rcases runOn x t with ⟨_ | _, s⟩ <;> simp

theorem runOn_adapt_eq_ok {f : ε → ε'} {x : ExceptT ε (StateM Tree) α} {a : α} :
    runOn (x.adapt f) t = (.ok a, t') ↔ runOn x t = (.ok a, t') := by
  rw [runOn_adapt]
  rcases runOn x t with ⟨_ | _, s⟩ <;> simp [Except.mapError]

theorem runOn_attempt_eq_ok {action : Action} {x : ExceptT Fault (StateM Tree) α} {a : α} :
    runOn (attempt action x) t = (.ok a, t') ↔ runOn x t = (.ok a, t') := runOn_adapt_eq_ok

theorem runOn_ask (f : Tree → Except Fault α) : runOn (Tree.ask f) t = (f t, t) := rfl

theorem runOn_change (f : Tree → Except Fault Tree) :
    runOn (Tree.change f) t =
      match f t with
      | .ok next => (.ok (), next)
      | .error fault => (.error fault, t) := rfl

theorem runOn_change_eq_ok {f : Tree → Except Fault Tree} :
    runOn (Tree.change f) t = (.ok (), t') ↔ f t = .ok t' := by
  rw [runOn_change]
  cases f t <;> simp

theorem run_bind (x : StateM Tree α) (f : α → StateM Tree β) :
    (x >>= f) t = f (x t).1 (x t).2 := rfl

/-- What only reads, item by item, finds what each item finds in the tree as it is. -/
theorem runOn_mapM_of_reads {f : α → ExceptT ε (StateM Tree) β} {g : α → Except ε β}
    (reads : ∀ a, runOn (f a) t = (g a, t)) (xs : List α) :
    runOn (xs.mapM f) t = (xs.mapM g, t) := by
  induction xs with
  | nil => rfl
  | cons a xs ih =>
    rw [List.mapM_cons, List.mapM_cons, runOn_bind, reads a]
    cases g a with
    | error e => rfl
    | ok b =>
      dsimp only
      rw [runOn_bind, ih]
      cases xs.mapM g <;> rfl

theorem forM_map (g : α → β) (f : β → ExceptT ε (StateM Tree) PUnit) (xs : List α) :
    (xs.map g).forM f = xs.forM fun a => f (g a) := by
  rw [List.forM_eq_forM, List.forM_map, List.forM_eq_forM]

/-! ## What every outcome leaves -/

/-- Whatever comes of a computation, the tree that it leaves is related to the one it began with. -/
def Leaves (R : Tree → Tree → Prop) (x : ExceptT ε (StateM Tree) α) : Prop :=
  ∀ t, R t (runOn x t).2

variable {R : Tree → Tree → Prop} {x : ExceptT ε (StateM Tree) α}

/-- A computation that only reads leaves every tree as it is. -/
theorem leaves_of_reads [IsPreorder Tree R] (reads : ∀ t, (runOn x t).2 = t) : Leaves R x := by
  intro t
  rw [reads t]
  exact refl_of R t

theorem leaves_change [IsPreorder Tree R] {f : Tree → Except Fault Tree}
    (changes : ∀ t t', f t = .ok t' → R t t') : Leaves R (Tree.change f) := by
  intro t
  cases changed : f t with
  | error fault =>
    rw [runOn_change, changed]
    exact refl_of R t
  | ok next =>
    rw [runOn_change_eq_ok.mpr changed]
    exact changes t next changed

theorem Leaves.bind [IsPreorder Tree R] {f : α → ExceptT ε (StateM Tree) β} (first : Leaves R x)
    (rest : ∀ a, Leaves R (f a)) : Leaves R (x >>= f) := by
  intro t
  have here := first t
  rw [runOn_bind]
  rcases ran : runOn x t with ⟨e | a, s⟩ <;> rw [ran] at here
  · exact here
  · exact trans_of R here (rest a s)

theorem Leaves.tryCatch [IsPreorder Tree R] {f : ε → ExceptT ε (StateM Tree) α}
    (first : Leaves R x) (rest : ∀ e, Leaves R (f e)) : Leaves R (MonadExcept.tryCatch x f) := by
  intro t
  have here := first t
  rw [runOn_tryCatch]
  rcases ran : runOn x t with ⟨e | a, s⟩ <;> rw [ran] at here
  · exact trans_of R here (rest e s)
  · exact here

theorem Leaves.attempt (action : Action) {x : ExceptT Fault (StateM Tree) α}
    (leaves : Leaves R x) : Leaves R (attempt action x) := leaves

/-- What holds of a computation at every item holds of the loop, by induction on the items. -/
theorem Leaves.forM [IsPreorder Tree R] {f : β → ExceptT ε (StateM Tree) PUnit} {xs : List β}
    (each : ∀ b ∈ xs, Leaves R (f b)) : Leaves R (xs.forM f) := by
  induction xs with
  | nil => exact leaves_of_reads fun t => rfl
  | cons b xs ih =>
    obtain ⟨first, others⟩ := List.forall_mem_cons.mp each
    exact Leaves.bind first fun _ => ih others

/-! ## Access to trees -/

/-- Two listings of one directory: the same names in any order, or the same error. -/
def Relisted : Except ε (List String) → Except ε (List String) → Prop
  | .ok names, .ok listed => listed.Perm names
  | .error e, .error e' => e = e'
  | _, _ => False

/-- File operations are those of trees; a directory may list its names in any order. -/
structure OnTrees (A : Access (StateM Tree)) : Prop where
  kind? : ∀ p t, A.kind? p t = (t.kind? p, t)
  readText : ∀ p, A.readText p = Tree.ask (·.readText p)
  names : ∀ p t, ∃ listed, runOn (A.names p) t = (listed, t) ∧ Relisted (t.names p) listed
  writeText : ∀ p text, A.writeText p text = Tree.change (·.write p (Text.Utf8.encode text))
  makeDirectory : ∀ p, A.makeDirectory p = Tree.change (·.makeDirectory p)
  rename : ∀ source target, A.rename source target = Tree.change (·.rename source target)
  remove : ∀ p, A.remove p = Tree.change (·.remove p)

theorem Relisted.refl (names : Except ε (List String)) : Relisted names names := by
  cases names with
  | error e => exact rfl
  | ok names => exact List.Perm.refl names

/-- Trees list their names in ascending order. -/
theorem onTrees : OnTrees inferInstance where
  kind? _ _ := rfl
  readText _ := rfl
  names _ _ := ⟨_, rfl, .refl _⟩
  writeText _ _ := rfl
  makeDirectory _ := rfl
  rename _ _ := rfl
  remove _ := rfl

instance (paths : List Path) : IsPreorder Tree (Tree.Spares paths) where
  refl := Tree.Spares.refl paths
  trans _ _ _ := Tree.Spares.trans

/-! ## Making directories -/

/-- Directories were made where nothing was, and each is one that a path names. -/
structure Grown (paths : List Path) (t t' : Tree) : Prop extends Tree.Spares [] t t' where
  entries : ∀ place, t'.entry? place = t.entry? place ∨
    t.entry? place = none ∧ t'.entry? place = some .directory ∧ ∃ p ∈ paths, t'.Opens p place

variable {paths : List Path}

theorem Grown.refl (paths : List Path) (t : Tree) : Grown paths t t :=
  ⟨.refl [] t, fun _ => .inl rfl⟩

theorem Grown.trans (first : Grown paths t t') (second : Grown paths t' t'') :
    Grown paths t t'' := by
  refine ⟨first.toSpares.trans second.toSpares, fun place => ?_⟩
  rcases second.entries place with same | ⟨missing, made, named⟩
  · rw [same]
    refine (first.entries place).imp_right fun ⟨missing, made, p, member, opens⟩ => ?_
    exact ⟨missing, made, p, member, opens.mono second.toDirectoriesStay⟩
  · rcases first.entries place with same | ⟨-, made', -⟩
    · exact .inr ⟨same.symm.trans missing, made, named⟩
    · rw [missing] at made'
      contradiction

instance (paths : List Path) : IsPreorder Tree (Grown paths) where
  refl := Grown.refl paths
  trans _ _ _ := Grown.trans

/-- Making a directory adds the one that the path names then. -/
theorem grown_of_makeDirectory {p : Path} (made : t.makeDirectory p = .ok t') :
    Grown [p] t t' := by
  obtain ⟨place, opens, missing, same⟩ := Tree.opens_of_makeDirectory made
  refine ⟨Tree.spares_of_makeDirectory made, fun other => ?_⟩
  by_cases here : other = place
  · subst here
    exact .inr ⟨missing, opens.isDirectory, p, List.mem_cons_self, opens⟩
  · have notRoot : place ≠ [] := by
      rintro rfl
      simp at missing
    rw [← same, Tree.entry?_set notRoot, if_neg here]
    exact .inl rfl

theorem Grown.mono {more : List Path} (grown : Grown paths t t') (subset : paths ⊆ more) :
    Grown more t t' :=
  ⟨grown.toSpares, fun place => (grown.entries place).imp_right
    fun ⟨missing, made, p, member, opens⟩ => ⟨missing, made, p, subset member, opens⟩⟩

theorem Tree.kind?_of_readText {p : Path} {content : String} (read : t.readText p = .ok content) :
    t.kind? p = some .file := by
  obtain ⟨bytes, found, -⟩ := readText_eq_ok.mp read
  rw [kind?, found]

theorem Tree.kind?_of_opens {p : Path} {place : Location} (checked : checkPath p = .ok ())
    (opens : t.Opens p place) : t.kind? p = some .directory := by
  obtain ⟨_, found, entered⟩ := find_eq_ok.mpr ⟨checked, opens⟩
  obtain ⟨here, rfl⟩ := enter_eq_ok.mp entered
  rw [kind?, lookup, found]
  simp [bind, Except.bind, here, pure, Except.pure]

section

variable [A : Access (StateM Tree)] (lawful : OnTrees A)

include lawful

theorem run_isDirectory (p : Path) (t : Tree) :
    (isDirectory p : StateM Tree Bool) t = (t.kind? p == some .directory, t) := by
  show ((A.kind? p t).1 == some .directory, (A.kind? p t).2) = _
  rw [lawful.kind? p t]

theorem run_isFile (p : Path) (t : Tree) :
    (isFile p : StateM Tree Bool) t = (t.kind? p == some .file, t) := by
  show ((A.kind? p t).1 == some .file, (A.kind? p t).2) = _
  rw [lawful.kind? p t]

theorem runOn_unlessDirectory (p : Path) (fault : Fault) (t : Tree) :
    runOn (unlessDirectory p fault) t =
      (if t.kind? p == some .directory then .ok () else .error fault, t) := by
  rw [unlessDirectory, runOn_bind, runOn_lift, run_isDirectory lawful]
  dsimp only
  split <;> rfl

theorem leaves_makeDirectory (p : Path) :
    Leaves (Grown [p]) (Access.makeDirectory p : ExceptT Fault (StateM Tree) Unit) := by
  rw [lawful.makeDirectory p]
  exact leaves_change fun _ _ => grown_of_makeDirectory

theorem leaves_unlessDirectory (p : Path) (fault : Fault) :
    Leaves (Grown paths) (unlessDirectory p fault : ExceptT Fault (StateM Tree) Unit) :=
  leaves_of_reads fun t => by rw [runOn_unlessDirectory lawful]

/-- Making directories adds directories, whatever comes of it. -/
theorem leaves_makeUnder (paths : List Path) :
    Leaves (Grown paths) (makeUnder paths : ExceptT Fault (StateM Tree) Unit) := by
  induction paths with
  | nil => exact leaves_of_reads fun t => rfl
  | cons p above ih =>
    have make : Leaves (Grown (p :: above))
        (Access.makeDirectory p : ExceptT Fault (StateM Tree) Unit) :=
      fun t => (leaves_makeDirectory lawful p t).mono (by simp)
    refine make.tryCatch fun fault => ?_
    split
    · refine Leaves.bind (fun t => (ih t).mono (List.subset_cons_self p above)) fun _ => ?_
      exact make.tryCatch (leaves_unlessDirectory lawful p)
    · exact leaves_unlessDirectory lawful p _

/-- A directory that is there is not made. -/
theorem makeDirectories_of_opens {p : Path} {place : Location}
    (checked : p.text ≠ "" → Tree.checkPath p = .ok ()) (opens : t.Opens p place) :
    runOn (makeDirectories p) t = (.ok (), t) := by
  rw [makeDirectories, Path.ancestors, Path.upTo]
  by_cases empty : p.text = ""
  · rw [if_pos (by simpa using empty)]
    rfl
  · rw [if_neg (by simpa using empty), makeUnder, runOn_tryCatch, lawful.makeDirectory]
    have taken : runOn (Tree.change (·.makeDirectory p)) t = (.error .taken, t) := by
      rw [runOn_change, Tree.makeDirectory_of_opens (checked empty) opens]
    rw [taken]
    dsimp only
    rw [runOn_unlessDirectory lawful, Tree.kind?_of_opens (checked empty) opens]
    rfl

end

end TableSql.Files
