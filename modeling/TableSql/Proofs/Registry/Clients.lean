import TableSql.Proofs.Except
import TableSql.Proofs.Registry

/-!
# Requests that share a registry

Requests of a registry agree, whatever the order in which they take their steps: of each name at
most one table is stored, only if there was none, and it is the answer to every request of that
name that does not fail.

`stepped` says once what a step can do. What a request's progress says about the registry is
`Progress.Justified`, and what the tables stored so far say about it is `Consistent`: the first step
of a request looks at a registry that has changed by the time of its third, so only facts that
storing other tables keeps are of use.
-/

namespace TableSql

namespace Registry

@[simp] theorem options_foldl_store (r : Registry) (tables : List CompiledTable) :
    (tables.foldl store r).options = r.options := by
  induction tables generalizing r with
  | nil => rfl
  | cons table tables ih => rw [List.foldl_cons, ih, options_store]

/-- Of the tables of one name that are stored the last counts. -/
theorem get?_foldl_store (r : Registry) (tables : List CompiledTable) (name : String) :
    (tables.foldl store r).get? name =
      (tables.reverse.find? (·.tableName = name)).or (r.get? name) := by
  induction tables generalizing r with
  | nil => rfl
  | cons table tables ih =>
    rw [List.foldl_cons, ih, get?_store, List.reverse_cons, List.find?_append, Option.or_assoc]
    by_cases same : name = table.tableName
    · simp [same]
    · simp [same, Ne.symm same]

theorem get?_foldl_store_eq_none {r : Registry} {tables : List CompiledTable} {name : String} :
    (tables.foldl store r).get? name = none ↔
      r.get? name = none ∧ ∀ table ∈ tables, table.tableName ≠ name := by
  rw [get?_foldl_store, Option.or_eq_none_iff, List.find?_eq_none, and_comm]
  simp

theorem get?_of_foldl_store {r : Registry} {tables : List CompiledTable} {name : String}
    {table : CompiledTable} (found : (tables.foldl store r).get? name = some table) :
    r.get? name = some table ∨ table ∈ tables := by
  rw [get?_foldl_store, Option.or_eq_some_iff] at found
  rcases found with stored | ⟨-, before⟩
  · exact .inr (List.mem_reverse.mp (List.mem_of_find?_eq_some stored))
  · exact .inl before

end Registry

/-! ## A request by itself -/

namespace Request

/-- The table that a request's own schema is compiled to. -/
def table (request : Request) (options : Options) : Except Error CompiledTable := do
  CompiledTable.compile (← Registry.checkTable request.name (← request.schema ())) options

variable {request : Request} {options : Options}

theorem table_of_declared {schema : Schema} (declares : request.schema () = .ok schema)
    (named : schema.tableName = request.name) :
    request.table options = CompiledTable.compile schema options := by
  rw [table, declares]
  simp only [bind, Except.bind, Registry.checkTable, if_pos named]

/-- A request whose schema is refused has no table of its own. -/
theorem table_of_refused {e : Error}
    (refused : (request.schema () >>= Registry.checkTable request.name) = .error e) :
    request.table options = .error e := by
  have checkedFirst : request.table options =
      ((request.schema () >>= Registry.checkTable request.name) >>= fun declared =>
        CompiledTable.compile declared options) := by
    rw [table, bind_assoc]
  rw [checkedFirst, refused]
  rfl

/-- A schema that passed the check is what the request gives, and of the name that was asked for. -/
theorem declared_of_checked {schema : Schema}
    (checked : (request.schema () >>= Registry.checkTable request.name) = .ok schema) :
    request.schema () = .ok schema ∧ schema.tableName = request.name := by
  obtain ⟨declared, given, same⟩ := bind_eq_ok.mp checked
  rw [Registry.checkTable] at same
  split at same
  · rename_i named
    obtain rfl := Except.ok.inj same
    exact ⟨given, named⟩
  · cases same

end Request

/-! ## What a step can do -/

namespace Clients

variable {ι : Type} [DecidableEq ι] {requests : ι → Request} {r : Registry} {s : Clients ι} {i : ι}

theorem progress_advance (next : Progress) (j : ι) :
    (s.advance i next).progress j = if j = i then next else s.progress j := rfl

/-- A request stores its table and is answered with it. -/
def keep (s : Clients ι) (i : ι) (table : CompiledTable) : Clients ι :=
  { (s.advance i (.answered (.ok table))) with
    registry := s.registry.store table
    stored := s.stored ++ [(i, table)] }

@[simp] theorem registry_keep (table : CompiledTable) :
    (s.keep i table).registry = s.registry.store table := rfl

@[simp] theorem stored_keep (table : CompiledTable) :
    (s.keep i table).stored = s.stored ++ [(i, table)] := rfl

theorem progress_keep (table : CompiledTable) (j : ι) :
    (s.keep i table).progress j = if j = i then .answered (.ok table) else s.progress j := rfl

/-- What the next step of a request makes of the requests: one case for each way that it can go. -/
inductive Stepped (requests : ι → Request) (s : Clients ι) (i : ι) : Clients ι → Prop
  | found {table : CompiledTable} (before : s.progress i = .looking)
      (present : s.registry.get? (requests i).name = some table) :
      Stepped requests s i (s.advance i (.answered (.ok table)))
  | missed (before : s.progress i = .looking)
      (absent : s.registry.get? (requests i).name = none) :
      Stepped requests s i (s.advance i .missing)
  | declared {schema : Schema} (before : s.progress i = .missing)
      (given : (requests i).schema () = .ok schema)
      (named : schema.tableName = (requests i).name) :
      Stepped requests s i (s.advance i (.registering schema))
  | refused {e : Error} (before : s.progress i = .missing)
      (refuses : ((requests i).schema () >>= Registry.checkTable (requests i).name) = .error e) :
      Stepped requests s i (s.advance i (.answered (.error e)))
  | overtaken {schema : Schema} {table : CompiledTable}
      (before : s.progress i = .registering schema)
      (present : s.registry.get? schema.tableName = some table) :
      Stepped requests s i (s.advance i (.answered (.ok table)))
  | failed {schema : Schema} {e : Error} (before : s.progress i = .registering schema)
      (absent : s.registry.get? schema.tableName = none)
      (fails : CompiledTable.compile schema s.registry.options = .error e) :
      Stepped requests s i (s.advance i (.answered (.error e)))
  | kept {schema : Schema} {table : CompiledTable} (before : s.progress i = .registering schema)
      (absent : s.registry.get? schema.tableName = none)
      (compiled : CompiledTable.compile schema s.registry.options = .ok table) :
      Stepped requests s i (s.keep i table)
  | done {answer : Except Error CompiledTable} (before : s.progress i = .answered answer) :
      Stepped requests s i s

/-- These are all the ways that a step can go. -/
theorem stepped (requests : ι → Request) (s : Clients ι) (i : ι) :
    Stepped requests s i (step requests s i) := by
  rw [step]
  cases before : s.progress i with
  | looking =>
    cases found : s.registry.get? (requests i).name with
    | some table => exact .found before found
    | none => exact .missed before found
  | missing =>
    cases checked : (requests i).schema () >>= Registry.checkTable (requests i).name with
    | ok schema =>
      obtain ⟨given, named⟩ := Request.declared_of_checked checked
      exact .declared before given named
    | error e => exact .refused before checked
  | registering schema =>
    simp only [added, Registry.Use.on_registerIfAbsent]
    cases found : s.registry.get? schema.tableName with
    | some table =>
      simp only [Option.toList_none, List.map_nil, List.append_nil]
      exact .overtaken before found
    | none =>
      simp only [Registry.Use.on_register]
      cases compiled : CompiledTable.compile schema s.registry.options with
      | ok table => exact .kept before found compiled
      | error e =>
        simp only [Except.toOption, Option.toList_none, List.map_nil, List.append_nil]
        exact .failed before found compiled
  | answered answer => exact .done before

/-! ## What steps keep -/

end Clients

/-- What the progress of a request says about the registry, whatever other requests store in it. -/
def Progress.Justified (request : Request) (r : Registry) : Progress → Prop
  | .looking => True
  | .missing => True
  | .registering schema => request.schema () = .ok schema ∧ schema.tableName = request.name
  | .answered (.ok table) => r.get? request.name = some table
  | .answered (.error e) => request.table r.options = .error e

/-- Storing a table of a name without one takes nothing away that was answered. -/
theorem Progress.Justified.store {progress : Progress} {request : Request} {r : Registry}
    {table : CompiledTable} (absent : r.get? table.tableName = none)
    (justified : progress.Justified request r) : progress.Justified request (r.store table) := by
  cases progress with
  | looking => trivial
  | missing => trivial
  | registering schema => exact justified
  | answered answer =>
    cases answer with
    | error e => exact justified
    | ok answer =>
      have present : r.get? request.name = some answer := justified
      have other : request.name ≠ table.tableName := by
        intro same
        rw [same, absent] at present
        cases present
      show (r.store table).get? request.name = some answer
      rw [Registry.get?_store, if_neg other, present]

namespace Clients

variable {ι : Type} [DecidableEq ι] {requests : ι → Request} {r : Registry} {s : Clients ι} {i : ι}

/-- Requests under way that began with a registry `r`. -/
structure Consistent (requests : ι → Request) (r : Registry) (s : Clients ι) : Prop where
  justified : ∀ i, (s.progress i).Justified (requests i) s.registry
  /-- The registry is the one of the beginning with the stored tables. -/
  registry_eq : s.registry = (s.stored.map Prod.snd).foldl Registry.store r
  /-- Of each name at most one table is stored, and only if there was none. -/
  once : (s.stored.map fun entry => entry.2.tableName).Nodup
  fresh : ∀ entry ∈ s.stored, r.get? entry.2.tableName = none
  /-- A request stores the table of its own schema, which is its answer. -/
  owned : ∀ entry ∈ s.stored, s.progress entry.1 = .answered (.ok entry.2) ∧
    (requests entry.1).table r.options = .ok entry.2

omit [DecidableEq ι] in
theorem consistent_start (requests : ι → Request) (r : Registry) :
    (start r).Consistent requests r where
  justified := fun _ => trivial
  registry_eq := rfl
  once := List.nodup_nil
  fresh := by simp [start]
  owned := by simp [start]

omit [DecidableEq ι] in
theorem Consistent.options_eq (consistent : s.Consistent requests r) :
    s.registry.options = r.options := by
  rw [consistent.registry_eq, Registry.options_foldl_store]

omit [DecidableEq ι] in
/-- Only requests that are answered have stored a table. -/
theorem Consistent.ne_of_stored (consistent : s.Consistent requests r)
    (unanswered : ∀ answer, s.progress i ≠ .answered answer) {entry : ι × CompiledTable}
    (stored : entry ∈ s.stored) : entry.1 ≠ i := by
  rintro rfl
  exact unanswered (.ok entry.2) (consistent.owned entry stored).1

/-- A request that is not answered yet may go on to anything that is justified. -/
theorem Consistent.advance (consistent : s.Consistent requests r) {next : Progress}
    (unanswered : ∀ answer, s.progress i ≠ .answered answer)
    (justified : next.Justified (requests i) s.registry) :
    (s.advance i next).Consistent requests r where
  justified := by
    intro j
    rw [progress_advance]
    by_cases same : j = i
    · rw [if_pos same, same]
      exact justified
    · rw [if_neg same]
      exact consistent.justified j
  registry_eq := consistent.registry_eq
  once := consistent.once
  fresh := consistent.fresh
  owned := by
    intro entry stored
    rw [progress_advance, if_neg (consistent.ne_of_stored unanswered stored)]
    exact consistent.owned entry stored

/-- A request that is not answered yet may store the table of its own schema where there is none. -/
theorem Consistent.keep (consistent : s.Consistent requests r) {table : CompiledTable}
    (unanswered : ∀ answer, s.progress i ≠ .answered answer)
    (absent : s.registry.get? table.tableName = none)
    (named : table.tableName = (requests i).name)
    (own : (requests i).table r.options = .ok table) :
    (s.keep i table).Consistent requests r := by
  -- That the registry has no table of the name now says that it had none at the beginning, and that
  -- no other request has stored one since.
  have free := absent
  rw [consistent.registry_eq, Registry.get?_foldl_store_eq_none] at free
  obtain ⟨before, others⟩ := free
  exact {
    justified := by
      intro j
      rw [progress_keep]
      by_cases same : j = i
      · rw [if_pos same, same]
        show (s.registry.store table).get? (requests i).name = some table
        rw [Registry.get?_store, if_pos named.symm]
      · rw [if_neg same]
        exact (consistent.justified j).store absent
    registry_eq := by
      rw [registry_keep, stored_keep, List.map_append, List.foldl_append, ← consistent.registry_eq]
      rfl
    once := by
      have apart : table.tableName ∉ s.stored.map fun entry => entry.2.tableName := by
        rw [List.mem_map]
        rintro ⟨entry, stored, same⟩
        exact others entry.2 (List.mem_map_of_mem stored) same
      rw [stored_keep, List.map_append]
      exact consistent.once.append (List.nodup_singleton _) (by simpa using apart)
    fresh := by
      rw [stored_keep, List.forall_mem_append, List.forall_mem_singleton]
      exact ⟨consistent.fresh, before⟩
    owned := by
      rw [stored_keep, List.forall_mem_append, List.forall_mem_singleton]
      refine ⟨?_, ?_, own⟩
      · intro entry stored
        rw [progress_keep, if_neg (consistent.ne_of_stored unanswered stored)]
        exact consistent.owned entry stored
      · rw [progress_keep, if_pos rfl] }

/-- A step of any request keeps requests consistent, one case for each way that it can go. -/
theorem Consistent.step (consistent : s.Consistent requests r) (i : ι) :
    (step requests s i).Consistent requests r := by
  have justified := consistent.justified i
  have next := stepped requests s i
  generalize Clients.step requests s i = after at next ⊢
  cases next with
  | found before present => exact consistent.advance (by simp [before]) present
  | missed before _ => exact consistent.advance (by simp [before]) trivial
  | declared before given named => exact consistent.advance (by simp [before]) ⟨given, named⟩
  | refused before refuses =>
    exact consistent.advance (by simp [before]) (Request.table_of_refused refuses)
  | overtaken before present =>
    -- Found by the name that the schema declares, which is the one that was asked for.
    rw [before] at justified
    rw [justified.2] at present
    exact consistent.advance (by simp [before]) present
  | failed before _ fails =>
    rw [before] at justified
    refine consistent.advance (by simp [before]) ?_
    exact (Request.table_of_declared justified.1 justified.2).trans fails
  | @kept schema table before absent compiled =>
    rw [before] at justified
    obtain ⟨given, named⟩ := justified
    have tableName : table.tableName = schema.tableName :=
      congrArg Schema.tableName (Registry.schema_of_compile compiled)
    rw [consistent.options_eq] at compiled
    exact consistent.keep (by simp [before]) (tableName ▸ absent) (tableName.trans named)
      ((Request.table_of_declared given named).trans compiled)
  | done _ => exact consistent

/-- So does any schedule, by induction on the steps. -/
theorem Consistent.run (consistent : s.Consistent requests r) (schedule : List ι) :
    (run requests s schedule).Consistent requests r := by
  induction schedule generalizing s with
  | nil => exact consistent
  | cons i schedule ih => exact ih (consistent.step i)

/-! ## Answers -/

/-- A step is a step of one request. -/
theorem Stepped.progress_of_ne {after : Clients ι} (next : Stepped requests s i after) {j : ι}
    (other : j ≠ i) : after.progress j = s.progress j := by
  cases next with
  | found => rw [progress_advance, if_neg other]
  | missed => rw [progress_advance, if_neg other]
  | declared => rw [progress_advance, if_neg other]
  | refused => rw [progress_advance, if_neg other]
  | overtaken => rw [progress_advance, if_neg other]
  | failed => rw [progress_advance, if_neg other]
  | kept => rw [progress_keep, if_neg other]
  | done => rfl

theorem step_of_answered {answer : Except Error CompiledTable}
    (answered : s.progress i = .answered answer) : step requests s i = s := by
  rw [step, answered]

/-- An answer stands, whatever steps are taken after it. -/
theorem progress_run_of_answered {answer : Except Error CompiledTable}
    (answered : s.progress i = .answered answer) (schedule : List ι) :
    (run requests s schedule).progress i = .answered answer := by
  induction schedule generalizing s with
  | nil => exact answered
  | cons j schedule ih =>
    apply ih
    by_cases same : i = j
    · rw [← same, step_of_answered answered]
      exact answered
    · rw [(stepped requests s j).progress_of_ne same, answered]

end Clients

/-- How near a request is to its answer: each step of its own brings it on by one at least. -/
def Progress.rank : Progress → Nat
  | .looking => 0
  | .missing => 1
  | .registering _ => 2
  | .answered _ => 3

theorem Progress.exists_of_three_le_rank {progress : Progress} (last : 3 ≤ progress.rank) :
    ∃ answer, progress = .answered answer := by
  cases progress with
  | answered answer => exact ⟨answer, rfl⟩
  | looking => simp [rank] at last
  | missing => simp [rank] at last
  | registering _ => simp [rank] at last

namespace Clients

variable {ι : Type} [DecidableEq ι] {requests : ι → Request} {r : Registry} {s : Clients ι} {i : ι}

/-- A step brings its request on by one at least. -/
theorem Stepped.rank_le {after : Clients ι} (next : Stepped requests s i after) :
    min 3 ((s.progress i).rank + 1) ≤ (after.progress i).rank := by
  cases next with
  | found before | missed before | declared before | refused before | overtaken before
  | failed before => simp [progress_advance, before, Progress.rank]
  | kept before => simp [progress_keep, before, Progress.rank]
  | done before => simp [before, Progress.rank]

theorem run_cons (requests : ι → Request) (s : Clients ι) (j : ι) (schedule : List ι) :
    run requests s (j :: schedule) = run requests (step requests s j) schedule := rfl

theorem run_append (requests : ι → Request) (s : Clients ι) (schedule more : List ι) :
    run requests s (schedule ++ more) = run requests (run requests s schedule) more :=
  List.foldl_append

/-- A schedule brings a request on by one at least for each step of its own, and the steps of others
do not set it back. -/
theorem rank_run (requests : ι → Request) (s : Clients ι) (schedule : List ι) (i : ι) :
    min 3 ((s.progress i).rank + schedule.count i) ≤
      ((run requests s schedule).progress i).rank := by
  induction schedule generalizing s with
  | nil => exact Nat.min_le_right ..
  | cons j schedule ih =>
    have rest := ih (step requests s j)
    rw [run_cons]
    by_cases same : j = i
    · subst same
      have here := (stepped requests s j).rank_le
      rw [List.count_cons_self]
      omega
    · rw [(stepped requests s j).progress_of_ne (Ne.symm same)] at rest
      rw [List.count_cons_of_ne same]
      exact rest

/-- A request that has its schema takes its last step as a call of `registerIfAbsent` would. -/
theorem step_registering {schema : Schema} (before : s.progress i = .registering schema) :
    ∃ answer, (step requests s i).progress i = .answered answer ∧
      (Registry.Use.registerIfAbsent schema).on s.registry =
        (answer, (step requests s i).registry) := by
  rw [step, before]
  exact ⟨((Registry.Use.registerIfAbsent schema).on s.registry).1, if_pos rfl, rfl⟩

/-- A request whose steps are taken with no other between is `Registry.Use.getOrRegister`. -/
theorem run_alone (before : s.progress i = .looking) :
    ∃ answer, (run requests s [i, i, i]).progress i = .answered answer ∧
      (Registry.Use.getOrRegister (requests i).name do (requests i).schema ()).on s.registry =
        (answer, (run requests s [i, i, i]).registry) := by
  have self (s : Clients ι) (next : Progress) : (s.advance i next).progress i = next := by
    rw [progress_advance, if_pos rfl]
  rw [run_cons, run_cons, run_cons, Registry.Use.on_getOrRegister_lift]
  cases found : s.registry.get? (requests i).name with
  | some table =>
    have first : step requests s i = s.advance i (.answered (.ok table)) := by
      rw [step, before, found]
    rw [first, step_of_answered (self ..), step_of_answered (self ..)]
    exact ⟨.ok table, self .., rfl⟩
  | none =>
    have first : step requests s i = s.advance i .missing := by rw [step, before, found]
    rw [first]
    cases checked : (requests i).schema () >>= Registry.checkTable (requests i).name with
    | error e =>
      have second : step requests (s.advance i .missing) i =
          (s.advance i .missing).advance i (.answered (.error e)) := by
        rw [step, self, checked]
      rw [second, step_of_answered (self ..)]
      exact ⟨.error e, self .., rfl⟩
    | ok schema =>
      have second : step requests (s.advance i .missing) i =
          (s.advance i .missing).advance i (.registering schema) := by
        rw [step, self, checked]
      rw [second]
      exact step_registering (self ..)

/-! ## Agreement -/

/-- What requests that began with a registry `r` have come to. -/
structure Agreement (requests : ι → Request) (r : Registry) (s : Clients ι) : Prop where
  /-- The registry is the one of the beginning with the stored tables. -/
  registry_eq : s.registry = (s.stored.map Prod.snd).foldl Registry.store r
  /-- Of each name at most one table is stored, and none if there was one. -/
  once : (s.stored.map fun entry => entry.2.tableName).Nodup
  fresh : ∀ entry ∈ s.stored, r.get? entry.2.tableName = none
  /-- A table is stored for a request of its name, from the schema of that request, and it is the
  answer to that request. -/
  owned : ∀ entry ∈ s.stored, s.progress entry.1 = .answered (.ok entry.2) ∧
    (requests entry.1).table r.options = .ok entry.2
  /-- The answer to a request is the table that the registry has: one that it had before or one that
  was stored. -/
  answered : ∀ i table, s.progress i = .answered (.ok table) →
    s.registry.get? (requests i).name = some table ∧
      (r.get? (requests i).name = some table ∨ ∃ j, (j, table) ∈ s.stored)
  /-- Requests of one name have one answer. -/
  same : ∀ i j table other, (requests i).name = (requests j).name →
    s.progress i = .answered (.ok table) → s.progress j = .answered (.ok other) → table = other
  /-- A request that fails does so for its own schema, and stores nothing. -/
  failed : ∀ i e, s.progress i = .answered (.error e) →
    (requests i).table r.options = .error e ∧ ∀ table, (i, table) ∉ s.stored

omit [DecidableEq ι] in
/-- Consistent requests agree: what is answered is the table that the registry has, so requests of
one name have one answer. -/
theorem Consistent.agreement (consistent : s.Consistent requests r) :
    s.Agreement requests r where
  registry_eq := consistent.registry_eq
  once := consistent.once
  fresh := consistent.fresh
  owned := consistent.owned
  answered := by
    intro i table answered
    have present := consistent.justified i
    rw [answered] at present
    refine ⟨present, ?_⟩
    have source : s.registry.get? (requests i).name = some table := present
    rw [consistent.registry_eq] at source
    rcases Registry.get?_of_foldl_store source with before | stored
    · exact .inl before
    · obtain ⟨⟨j, _⟩, member, rfl⟩ := List.mem_map.mp stored
      exact .inr ⟨j, member⟩
  same := by
    intro i j table other name answered otherAnswered
    have present := consistent.justified i
    have otherPresent := consistent.justified j
    rw [answered] at present
    rw [otherAnswered] at otherPresent
    have found : s.registry.get? (requests i).name = some table := present
    have otherFound : s.registry.get? (requests j).name = some other := otherPresent
    rw [name, otherFound] at found
    exact (Option.some.inj found).symm
  failed := by
    intro i e failed
    have refused := consistent.justified i
    rw [failed] at refused
    have own : (requests i).table s.registry.options = .error e := refused
    rw [consistent.options_eq] at own
    refine ⟨own, ?_⟩
    intro table stored
    have owner := (consistent.owned _ stored).2
    rw [own] at owner
    cases owner

/-- Requests that begin together agree, however many they are, whatever their schemas and in
whatever order their steps are taken. A request is answered after three steps of its own at the
latest, and its answer stands; by itself it is `Registry.Use.getOrRegister`. -/
theorem requests_agree (requests : ι → Request) (r : Registry) (schedule : List ι) :
    (run requests (start r) schedule).Agreement requests r ∧
    (∀ i, 3 ≤ schedule.count i →
      ∃ answer, (run requests (start r) schedule).progress i = .answered answer) ∧
    (∀ i answer more, (run requests (start r) schedule).progress i = .answered answer →
      (run requests (start r) (schedule ++ more)).progress i = .answered answer) ∧
    (∀ i, (run requests (start r) schedule).progress i = .looking →
      ∃ answer, (run requests (start r) (schedule ++ [i, i, i])).progress i = .answered answer ∧
        (Registry.Use.getOrRegister (requests i).name do (requests i).schema ()).on
            (run requests (start r) schedule).registry =
          (answer, (run requests (start r) (schedule ++ [i, i, i])).registry)) := by
  refine ⟨((consistent_start requests r).run schedule).agreement, ?_, ?_, ?_⟩
  · intro i steps
    have rank := rank_run requests (start r) schedule i
    exact Progress.exists_of_three_le_rank (by omega)
  · intro i answer more answered
    rw [run_append]
    exact progress_run_of_answered answered more
  · intro i before
    rw [run_append]
    exact run_alone before

end Clients

end TableSql
