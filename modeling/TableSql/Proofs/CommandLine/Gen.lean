import TableSql.CommandLine.Run
import TableSql.Proofs.Catalog.Failed

/-!
# Bringing a catalog up to date from the command line

The command reads its configuration, compiles the tables and makes the files of the catalog before
anything is written (`generate`, `runGen_eq`), and all of this only looks (`looks_generate`). So a
command that fails leaves the tree as it is, unless it fails in writing the catalog
(`failed_gen_untorn`).
-/

namespace TableSql.CommandLine

open Files

variable {m : Type → Type} [Monad m] [Access m]

/-- The directory and the files of the configured catalog. -/
def generate (environment : Environment m) (path : Path) :
    ExceptT Failure m (Path × List Catalog.File) := do
  let config ← load environment path
  let tables ← (← schemas config).mapM (compile config.options)
  let directory := outDirectory path config
  let files ← ofExcept .nameClash (Catalog.files directory tables)
  return (directory, files)

/-- The command makes the files of the catalog, and then brings the directory up to date with
them. -/
theorem runGen_eq [LawfulMonad m] (environment : Environment m) (path : Path)
    (mode : Catalog.Mode) :
    runGen environment path mode = (do
      let (directory, files) ← generate environment path
      let synced : ExceptT Catalog.Failure m Catalog.Plan := Catalog.sync directory files mode
      let plan ← synced.adapt .sync
      return planText directory mode plan) := by
  unfold runGen generate
  simp only [bind_assoc, pure_bind]

/-- Whether a command failed in changing something. -/
def Failure.isWriting : Failure → Bool
  | .sync failure => failure.isWriting
  | .file failure => failure.action.changes
  | _ => false

/-! ## Looking -/

variable {ε α β : Type}

/-- A computation that leaves every tree as it is, and does not fail in changing one. -/
structure Looks (x : ExceptT Failure (StateM Tree) α) : Prop where
  leaves : Leaves Eq x
  fails : Fails (fun failure => failure.isWriting = false) x

theorem looks_pure (a : α) : Looks (pure a : ExceptT Failure (StateM Tree) α) :=
  ⟨fun _ => rfl, fails_pure a⟩

theorem looks_throw {failure : Failure} (reading : failure.isWriting = false) :
    Looks (throw failure : ExceptT Failure (StateM Tree) α) := by
  refine ⟨fun _ => rfl, fun t e failed => ?_⟩
  cases failed
  exact reading

theorem runOn_ofExcept (f : ε → Failure) (x : Except ε α) (t : Tree) :
    runOn (ofExcept f x) t = (x.mapError f, t) := rfl

theorem looks_ofExcept {f : ε → Failure} (reading : ∀ e, (f e).isWriting = false)
    (x : Except ε α) : Looks (ofExcept f x : ExceptT Failure (StateM Tree) α) := by
  refine ⟨fun _ => rfl, fun t failure failed => ?_⟩
  obtain ⟨e, -, rfl⟩ := mapError_eq_error.mp failed
  exact reading e

theorem looks_lift {x : StateM Tree α} (stays : ∀ t, (x t).2 = t) :
    Looks (liftM x : ExceptT Failure (StateM Tree) α) :=
  ⟨fun t => (stays t).symm, fails_lift x⟩

theorem Looks.bind {x : ExceptT Failure (StateM Tree) α} {f : α → ExceptT Failure (StateM Tree) β}
    (first : Looks x) (rest : ∀ a, Looks (f a)) : Looks (x >>= f) :=
  ⟨first.leaves.bind fun a => (rest a).leaves, first.fails.bind fun a => (rest a).fails⟩

theorem Looks.mapM {f : β → ExceptT Failure (StateM Tree) α} (each : ∀ b, Looks (f b))
    (xs : List β) : Looks (xs.mapM f) := by
  induction xs with
  | nil => exact looks_pure []
  | cons b xs ih =>
    rw [List.mapM_cons]
    exact (each b).bind fun _ => ih.bind fun _ => looks_pure _

/-- The environment in which variables have given values. -/
def Environment.ofValues (value? : String → Option String) : Environment m :=
  fun name => pure (value? name)

section

variable [A : Access (StateM Tree)] (lawful : OnTrees A) (value? : String → Option String)

include lawful

/-- Reading the configuration only looks: its variables come from the environment, and whatever is
wrong with it is found without a change. -/
theorem looks_load (path : Path) :
    Looks (load (Environment.ofValues value? : Environment (StateM Tree)) path) := by
  unfold load
  refine Looks.bind ⟨?_, ?_⟩ fun text => ?_
  · rw [lawful.readText]
    exact fun _ => rfl
  · intro t failure failed
    obtain ⟨fault, -, rfl⟩ := mapError_eq_error.mp failed
    rfl
  refine (looks_ofExcept (fun _ => rfl) _).bind fun config => ?_
  refine (looks_lift fun t => ?_).bind fun found => ?_
  · unfold valuesOf Environment.ofValues
    simp only [pure_bind, List.mapM_pure]
    rfl
  refine (looks_ofExcept (fun _ => rfl) _).bind fun config => ?_
  split
  · exact (looks_throw rfl).bind fun _ => looks_pure config
  · exact looks_pure config

/-- Making the files of a catalog only looks. -/
theorem looks_generate (path : Path) :
    Looks (generate (Environment.ofValues value? : Environment (StateM Tree)) path) := by
  unfold generate
  refine (looks_load lawful value? path).bind fun config => ?_
  refine (looks_ofExcept (fun _ => rfl) _).bind fun schemas => ?_
  refine (Looks.mapM (fun schema => looks_ofExcept (fun _ => rfl) _) schemas).bind fun tables => ?_
  exact (looks_ofExcept (fun _ => rfl) _).bind fun files => looks_pure _

end

/-! ## Failures -/

variable {t t' : Tree} {directory : Path} {files : List Catalog.File}

/-- The files that are made are those of some compiled tables. -/
theorem exists_files_of_generate [Access (StateM Tree)] {environment : Environment (StateM Tree)}
    {path : Path} (made : runOn (generate environment path) t = (.ok (directory, files), t')) :
    ∃ tables, Catalog.files directory tables = .ok files := by
  unfold generate at made
  obtain ⟨config, t₁, -, made⟩ := runOn_bind_eq_ok.mp made
  obtain ⟨schemas, t₂, -, made⟩ := runOn_bind_eq_ok.mp made
  obtain ⟨tables, t₃, -, made⟩ := runOn_bind_eq_ok.mp made
  obtain ⟨files', t₄, named, made⟩ := runOn_bind_eq_ok.mp made
  cases made
  rw [runOn_ofExcept, Prod.mk.injEq, mapError_eq_ok] at named
  exact ⟨tables, named.1⟩

/-- What is read behind `gen` is a call for help or the command for some configuration, in some
mode. -/
theorem parse_gen {arguments : List String} {command : Command}
    (parsed : parse ("gen" :: arguments) = .ok command) :
    command = .help .gen ∨ ∃ path mode, command = .gen path mode := by
  change parseGen arguments = .ok command at parsed
  unfold parseGen at parsed
  obtain ⟨given?, -, rest⟩ := bind_eq_ok.mp parsed
  cases given? with
  | none =>
    cases rest
    exact .inl rfl
  | some given =>
    obtain ⟨mode, -, same⟩ := bind_eq_ok.mp rest
    cases same
    exact .inr ⟨given.config, mode, rfl⟩

/-- What a command gives and leaves in a tree, where variables have given values. -/
def runIn (A : Access (StateM Tree)) (value? : String → Option String) (arguments : List String)
    (t : Tree) : Except Failure String × Tree :=
  runOn (run (Environment.ofValues value?) arguments) t

/-- The catalog that is configured in a tree. -/
def catalogIn (A : Access (StateM Tree)) (value? : String → Option String) (path : Path)
    (t : Tree) : Except Failure (Path × List Catalog.File) :=
  (runOn (generate (Environment.ofValues value?) path) t).1

section

variable {A : Access (StateM Tree)} (lawful : OnTrees A) (wf : t.WellFormed)
  {value? : String → Option String} {failure : Failure}

include lawful wf

/-- A failure is one of looking, and nothing has changed, or one of writing the configured catalog,
which leaves no file torn. -/
theorem untorn_of_failed_runGen {path : Path} {mode : Catalog.Mode}
    (ran : runOn (runGen (Environment.ofValues value?) path mode) t = (.error failure, t')) :
    (failure.isWriting = false → t' = t) ∧
      (failure.isWriting = true → mode = .write ∧ ∃ directory files,
        catalogIn A value? path t = .ok (directory, files) ∧
          Catalog.Untorn directory files t t') := by
  have looks := looks_generate lawful value? path
  rw [runGen_eq, runOn_bind] at ran
  rcases made : runOn (generate (Environment.ofValues value?) path) t with
    ⟨failure' | ⟨directory, files⟩, s⟩ <;>
    obtain rfl : t = s := by simpa only [made] using looks.leaves t
  · -- There was no catalog to write.
    have reading := looks.fails t failure' (by rw [made])
    rw [made] at ran
    cases ran
    refine ⟨fun _ => rfl, fun writing => ?_⟩
    rw [reading] at writing
    contradiction
  · obtain ⟨tables, named⟩ := exists_files_of_generate made
    have catalog := Catalog.isCatalog_of_files named
    rw [made] at ran
    dsimp only at ran
    rw [runOn_bind, runOn_adapt] at ran
    rcases synced : Catalog.syncOn A directory files mode t with ⟨failure' | plan, u⟩
    · obtain ⟨kept, written⟩ := Catalog.untorn_of_failed lawful wf catalog synced
      unfold Catalog.syncOn at synced
      rw [synced] at ran
      cases ran
      refine ⟨kept, fun writing => ?_⟩
      obtain ⟨isWrite, untorn⟩ := written writing
      refine ⟨isWrite, directory, files, ?_, untorn⟩
      unfold catalogIn
      rw [made]
    · unfold Catalog.syncOn at synced
      rw [synced] at ran
      cases ran

/-- A command that fails to bring the catalog up to date leaves the tree as it is, unless it fails
in writing the catalog: then no file of the catalog is torn and nothing stale is gone. -/
theorem failed_gen_untorn {arguments : List String}
    (ran : runIn A value? ("gen" :: arguments) t = (.error failure, t')) :
    (failure.isWriting = false → t' = t) ∧
      (failure.isWriting = true → ∃ path directory files,
        parse ("gen" :: arguments) = .ok (.gen path .write) ∧
          catalogIn A value? path t = .ok (directory, files) ∧
            Catalog.Untorn directory files t t') := by
  unfold runIn run at ran
  rw [runOn_bind, runOn_ofExcept] at ran
  cases parsed : parse ("gen" :: arguments) with
  | error fault =>
    rw [parsed] at ran
    cases ran
    exact ⟨fun _ => rfl, fun writing => by contradiction⟩
  | ok command =>
    rw [parsed] at ran
    dsimp only [Except.mapError] at ran
    rcases parse_gen parsed with rfl | ⟨path, mode, rfl⟩
    · cases ran
    · obtain ⟨kept, written⟩ := untorn_of_failed_runGen lawful wf ran
      refine ⟨kept, fun writing => ?_⟩
      obtain ⟨rfl, directory, files, made, untorn⟩ := written writing
      exact ⟨path, directory, files, rfl, made, untorn⟩

end

/-! ### A configuration of one table -/

/-- A configuration of a table `users` with one column `id`. -/
def configText (out : String) : String :=
  "version = \"1\"\nout = \"" ++ out ++
    "\"\n\n[[tables]]\nname = \"users\"\nprimary_keys = 1\n\n" ++
    "[[tables.columns]]\nname = \"id\"\ntype = \"i64\"\n"

/-- The path of the configuration that a command reads when none is given. -/
def configPath : Path := ⟨"sqlrecord.toml"⟩

/-- The configuration of a tree, in an environment without variables. -/
abbrev loadIn (t : Tree) : Except Failure Config × Tree :=
  runOn (load (Environment.ofValues fun _ => none) configPath) t

/-- A tree with the configuration of the table `users`, and with other entries. -/
def configured (out : String) (entries : List (Location × Entry)) : Tree :=
  { entries := Std.TreeMap.ofList
      ((["sqlrecord.toml"], .file (Text.Utf8.encode (configText out))) :: entries) }

/-- The table `users` as it is configured. -/
def usersSpec : Config.TableSpec :=
  { name := "users", columns := [{ name := "id", typeName := "i64" }] }

/-- Whether a configuration is that of the table `users`, with its file in a directory. -/
def isUsers (directory : Path) (config : Config) : Bool :=
  outDirectory configPath config == directory && config.options == {} &&
    config.types.toList == [] && config.tables == [usersSpec]

theorem isUsers_iff {config : Config} : isUsers directory config = true ↔
    outDirectory configPath config = directory ∧ config.options = {} ∧
      config.types.toList = [] ∧ config.tables = [usersSpec] := by
  unfold isUsers
  simp only [Bool.and_eq_true, beq_iff_eq, and_assoc]

/-- What is configured as the table `users` is a table of one column. -/
theorem schemas_users {config : Config} (users : isUsers directory config = true) :
    config.schemas = .ok [.single "users" "id"] := by
  obtain ⟨-, -, types, tables⟩ := isUsers_iff.mp users
  have noTypes : config.typeMap = .empty := by
    unfold Config.typeMap TypeMap.ofEntries
    rw [types]
    rfl
  have declared : usersSpec.schema .empty = (Draft.single "users" "id").build := rfl
  unfold Config.schemas
  rw [tables, noTypes, List.mapM_cons, declared, Draft.build_single (by decide) (by decide)]
  rfl

/-- The catalog of that configuration is the file of one table. -/
theorem generate_users (loaded : (loadIn t).1.toOption.any (isUsers directory) = true) :
    runOn (generate (Environment.ofValues fun _ => none) configPath) t =
      (.ok (directory, [Catalog.file directory Catalog.users]), t) := by
  have reads : t = (loadIn t).2 := (looks_load onTrees (fun _ => none) configPath).leaves t
  rcases found : loadIn t with ⟨failure | config, s⟩ <;> rw [found] at loaded reads
  · contradiction
  obtain rfl : t = s := reads
  have users : isUsers directory config = true := loaded
  obtain ⟨located, options, -⟩ := isUsers_iff.mp users
  refine runOn_bind_eq_ok.mpr ⟨config, t, found, ?_⟩
  refine runOn_bind_eq_ok.mpr ⟨[.single "users" "id"], t, ?_, ?_⟩
  · unfold schemas
    rw [runOn_ofExcept, schemas_users users]
    rfl
  refine runOn_bind_eq_ok.mpr ⟨[Catalog.users], t, ?_, ?_⟩
  · have compiled : runOn (compile config.options (.single "users" "id")) t =
        (.ok Catalog.users, t) := by
      unfold compile
      rw [runOn_ofExcept, options, CompiledTable.compile_single]
      rfl
    rw [List.mapM_cons]
    exact runOn_bind_eq_ok.mpr ⟨Catalog.users, t, compiled, rfl⟩
  rw [located]
  refine runOn_bind_eq_ok.mpr ⟨_, t, ?_, rfl⟩
  rw [runOn_ofExcept, Catalog.files_users]
  rfl

/-- A command fails as bringing the catalog up to date does. -/
theorem runIn_users {failure : Catalog.Failure}
    (loaded : (loadIn t).1.toOption.any (isUsers directory) = true)
    (synced :
      Catalog.syncOn inferInstance directory [Catalog.file directory Catalog.users] .write t =
        (.error failure, t')) :
    runIn inferInstance (fun _ => none) ["gen"] t = (.error (.sync failure), t') := by
  show runOn (runGen (Environment.ofValues fun _ => none) configPath .write) t = _
  unfold Catalog.syncOn at synced
  rw [runGen_eq, runOn_bind, generate_users loaded]
  dsimp only
  rw [runOn_bind, runOn_adapt, synced]
  rfl

/-- Whether a command failed in writing and left a tree of some kind. -/
def failedLeaving (kind : Tree → Bool) : Except Catalog.Failure Catalog.Plan × Tree → Bool
  | (.error failure, t) => failure.isWriting && kind t
  | (.ok _, _) => false

theorem exists_of_failedLeaving {x : Except Catalog.Failure Catalog.Plan × Tree}
    {kind : Tree → Bool} (failed : failedLeaving kind x = true) :
    ∃ failure t, x = (.error failure, t) ∧ failure.isWriting = true ∧ kind t = true := by
  obtain ⟨failure | p, t⟩ := x
  · exact ⟨failure, t, rfl, Bool.and_eq_true_iff.mp failed⟩
  · contradiction

/-- A directory is in the place where the file of the table `users` is written before it is moved.
Beside it is the file of a table that is not configured any more. -/
def blocked : Tree :=
  configured "sql" [(["sql"], .directory), (["sql", "users.sql.tmp"], .directory),
    (["sql", "old.sql"],
      .file (Text.Utf8.encode "-- Code generated by sqlrecord. DO NOT EDIT.\n-- table: old\n"))]

/-- The file can not be written, and the other one stays. -/
theorem failed_gen_untorn_blocked :
    blocked.WellFormed ∧ ∃ failure t',
      runIn inferInstance (fun _ => none) ["gen"] blocked = (.error failure, t') ∧
        failure.isWriting = true ∧ ∃ path directory files,
          parse ["gen"] = .ok (.gen path .write) ∧
            catalogIn inferInstance (fun _ => none) path blocked = .ok (directory, files) ∧
              Catalog.Untorn directory files blocked t' := by
  have wf : blocked.WellFormed := by decide +kernel
  obtain ⟨failure, t', synced, writing, -⟩ := exists_of_failedLeaving (show
    failedLeaving (fun _ => true) (Catalog.syncOn inferInstance ⟨"sql"⟩
      [Catalog.file ⟨"sql"⟩ Catalog.users] .write blocked) = true by decide +kernel)
  have ran := runIn_users (by decide +kernel) synced
  exact ⟨wf, .sync failure, t', ran, writing, (failed_gen_untorn onTrees wf ran).2 writing⟩

/-! ### A path through the place of a file -/

/-- A directory that is reached through the place of the file of the table `users`. -/
def entwined : Tree := configured "users.sql/.." []

/-- The directories above the file are made before it is written, so there is a directory in its
place when it is moved there. -/
theorem directory_takes_place_behind_missing_directory :
    entwined.WellFormed ∧ ∃ file failure t',
      catalogIn inferInstance (fun _ => none) configPath entwined = .ok (⟨"users.sql/.."⟩, [file]) ∧
        runIn inferInstance (fun _ => none) ["gen"] entwined = (.error failure, t') ∧
          failure.isWriting = true ∧ entwined.lookup file.path = .error .absent ∧
            t'.lookup file.path = .ok .directory := by
  have loaded : (loadIn entwined).1.toOption.any (isUsers ⟨"users.sql/.."⟩) = true := by
    decide +kernel
  let file := Catalog.file ⟨"users.sql/.."⟩ Catalog.users
  obtain ⟨failure, t', synced, writing, taken⟩ := exists_of_failedLeaving (show
    failedLeaving (fun t' => t'.lookup file.path == .ok .directory)
      (Catalog.syncOn inferInstance ⟨"users.sql/.."⟩ [file] .write entwined) = true
    by decide +kernel)
  refine ⟨by decide +kernel, file, .sync failure, t', ?_, runIn_users loaded synced, writing,
    by decide +kernel, beq_iff_eq.mp taken⟩
  exact congrArg Prod.fst (generate_users loaded)

end TableSql.CommandLine
