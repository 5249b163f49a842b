import TableSql.Proofs.CompiledTable
import TableSql.Registry.Calls

/-!
# Registries in use

What a registry has after any calls, and how it answers the next one. Every table stands under its
own name and is what its schema is compiled to (`Sound`); one call keeps that (`Sound.perform`), so
any number of calls does (`Sound.after`). A call that fails leaves the registry as it found it,
wherever it failed (`perform_of_error`).
-/

namespace TableSql

namespace Registry

/-! ## The tables of a registry -/

@[simp] theorem get?_empty (options : Options) (name : String) :
    (empty options).get? name = none := by
  rw [get?, empty]
  exact Std.TreeMap.getElem?_emptyc

@[simp] theorem options_store (r : Registry) (table : CompiledTable) :
    (r.store table).options = r.options := rfl

theorem get?_store (r : Registry) (table : CompiledTable) (name : String) :
    (r.store table).get? name = if name = table.tableName then some table else r.get? name := by
  rw [get?, get?, store, Std.TreeMap.getElem?_insert]
  by_cases same : name = table.tableName
  · simp [same]
  · simp [same, Ne.symm same]

theorem mem_tableNames {r : Registry} {name : String} :
    name ∈ r.tableNames ↔ ∃ table, r.get? name = some table := by
  rw [tableNames, Std.TreeMap.mem_keys, Std.TreeMap.mem_iff_isSome_getElem?,
    Option.isSome_iff_exists]
  rfl

theorem pairwise_tableNames (r : Registry) : r.tableNames.Pairwise (· < ·) := by
  have ordered : r.tables.keys.Pairwise fun a b => compare a b = .lt := Std.TreeMap.ordered_keys
  exact ordered.imp compareOfLessAndEq_eq_lt.mp

theorem size_eq (r : Registry) : r.size = r.tableNames.length := Std.TreeMap.length_keys.symm

/-! ## What uses do -/

namespace Use

variable {α β : Type} {r : Registry} {name : String}

theorem on_lift (x : Except Error α) : (liftM x : Use α).on r = (x, r) := rfl

theorem on_bind (use : Use α) (f : α → Use β) :
    (use >>= f).on r =
      match use.on r with
      | (.ok a, next) => (f a).on next
      | (.error e, next) => (.error e, next) := by
  show (ExceptT.bindCont f (use.on r).1) (use.on r).2 = _
  rcases use.on r with ⟨_ | _, next⟩ <;> rfl

theorem on_map (f : α → β) (use : Use α) :
    (f <$> use).on r = ((use.on r).1.map f, (use.on r).2) := by
  rw [map_eq_pure_bind, on_bind]
  rcases use.on r with ⟨_ | _, next⟩ <;> rfl

theorem on_lookup (r : Registry) (name : String) :
    (lookup name).on r = (.ok (r.get? name), r) := rfl

theorem on_require (r : Registry) (name : String) :
    (require name).on r =
      match r.get? name with
      | some table => (.ok table, r)
      | none => (.error (.unknownTable name), r) := by
  rw [require, on_bind, on_lookup]
  cases r.get? name <;> rfl

/-- A table is stored once it is compiled, and otherwise nothing is. -/
theorem on_register (r : Registry) (schema : Schema) :
    (register schema).on r =
      match CompiledTable.compile schema r.options with
      | .ok table => (.ok table, r.store table)
      | .error e => (.error e, r) := by
  -- The options are those of the registry that it begins with.
  show (liftM (CompiledTable.compile schema r.options) >>= fun table =>
    modify (·.store table) >>= fun _ => pure table : Use CompiledTable).on r = _
  rw [on_bind, on_lift]
  cases CompiledTable.compile schema r.options <;> rfl

/-- A table of the name that is there is the answer, and it is not replaced. -/
theorem on_registerIfAbsent (r : Registry) (schema : Schema) :
    (registerIfAbsent schema).on r =
      match r.get? schema.tableName with
      | some table => (.ok table, r)
      | none => (register schema).on r := by
  rw [registerIfAbsent, on_bind, on_lookup]
  cases r.get? schema.tableName <;> rfl

/-- The schema is asked for only if the table is not there. It has to declare the table that was
asked for, and that table is looked for once more before it is stored. -/
theorem on_getOrRegister (r : Registry) (name : String) (schema : Use Schema) :
    (getOrRegister name schema).on r =
      match r.get? name with
      | some table => (.ok table, r)
      | none =>
        match schema.on r with
        | (.ok declared, next) =>
          if declared.tableName = name then (registerIfAbsent declared).on next
          else (.error (.configuration (.otherTable name declared.tableName)), next)
        | (.error e, next) => (.error e, next) := by
  rw [getOrRegister, on_bind, on_lookup]
  cases r.get? name with
  | some table => rfl
  | none =>
    show (schema >>= fun declared =>
      (liftM (checkTable name declared) : Use Schema) >>= registerIfAbsent).on r = _
    rw [on_bind]
    -- What asking for the schema does to the registry stays, whatever comes of it.
    rcases schema.on r with ⟨e | declared, next⟩
    · rfl
    · show ((liftM (checkTable name declared) : Use Schema) >>= registerIfAbsent).on next =
        if declared.tableName = name then (registerIfAbsent declared).on next
        else (.error (.configuration (.otherTable name declared.tableName)), next)
      rw [on_bind, on_lift, checkTable]
      by_cases same : declared.tableName = name
      · rw [if_pos same, if_pos same]
      · rw [if_neg same, if_neg same]

/-- The same with a schema that does not use the registry. -/
theorem on_getOrRegister_lift (r : Registry) (name : String) (schema : Except Error Schema) :
    (getOrRegister name (liftM schema)).on r =
      match r.get? name with
      | some table => (.ok table, r)
      | none =>
        match schema >>= checkTable name with
        | .ok declared => (registerIfAbsent declared).on r
        | .error e => (.error e, r) := by
  rw [on_getOrRegister, on_lift]
  cases r.get? name with
  | some table => rfl
  | none =>
    cases schema with
    | error e => rfl
    | ok declared =>
      simp only [bind, Except.bind, checkTable]
      by_cases same : declared.tableName = name
      · rw [if_pos same, if_pos same]
      · rw [if_neg same, if_neg same]

end Use

/-! ## What calls keep -/

/-- Every table of a registry stands under its own name, and is what its schema is compiled to. -/
structure Sound (options : Options) (r : Registry) : Prop where
  options_eq : r.options = options
  named : ∀ name table, r.get? name = some table → table.tableName = name
  compiled : ∀ name table, r.get? name = some table →
    CompiledTable.compile table.schema options = .ok table

theorem sound_empty (options : Options) : (empty options).Sound options where
  options_eq := rfl
  named := by simp
  compiled := by simp

theorem schema_of_compile {schema : Schema} {options : Options} {table : CompiledTable}
    (compiled : CompiledTable.compile schema options = .ok table) : table.schema = schema := by
  obtain ⟨set, -, rfl⟩ := CompiledTable.compile_eq_ok.mp compiled
  rfl

/-- A registry stays sound when a table is stored that its own schema is compiled to. -/
theorem Sound.store {options : Options} {r : Registry} (sound : r.Sound options) {schema : Schema}
    {table : CompiledTable} (compiled : CompiledTable.compile schema options = .ok table) :
    (r.store table).Sound options where
  options_eq := sound.options_eq
  named := by
    intro name other found
    rw [get?_store] at found
    split at found
    · rename_i same
      rw [← Option.some.inj found, same]
    · exact sound.named name other found
  compiled := by
    intro name other found
    rw [get?_store] at found
    split at found
    · rw [← Option.some.inj found, schema_of_compile compiled]
      exact compiled
    · exact sound.compiled name other found

/-- A use leaves a registry as it is, or it gives a table that it has stored. -/
def Use.StoresResult (use : Use CompiledTable) (r : Registry) : Prop :=
  (use.on r).2 = r ∨ ∃ schema table, CompiledTable.compile schema r.options = .ok table ∧
    use.on r = (.ok table, r.store table)

theorem Use.storesResult_register (r : Registry) (schema : Schema) :
    (register schema).StoresResult r := by
  rw [StoresResult, on_register]
  cases compiled : CompiledTable.compile schema r.options with
  | error e => exact .inl rfl
  | ok table => exact .inr ⟨schema, table, compiled, rfl⟩

theorem Use.storesResult_registerIfAbsent (r : Registry) (schema : Schema) :
    (registerIfAbsent schema).StoresResult r := by
  rw [StoresResult, on_registerIfAbsent]
  cases r.get? schema.tableName with
  | some table => exact .inl rfl
  | none => exact storesResult_register r schema

/-- Whatever asking for the schema gives, only a table that is the answer is stored. -/
theorem Use.storesResult_getOrRegister (r : Registry) (name : String)
    (schema : Except Error Schema) : (getOrRegister name (liftM schema)).StoresResult r := by
  rw [StoresResult, on_getOrRegister_lift]
  cases r.get? name with
  | some table => exact .inl rfl
  | none =>
    cases schema >>= checkTable name with
    | error e => exact .inl rfl
    | ok declared => exact storesResult_registerIfAbsent r declared

/-- Everything that a call can do: it leaves the registry as it is, or stores the table that it
answers. -/
theorem perform_cases (r : Registry) (call : Call) :
    (r.perform call).2 = r ∨ ∃ schema table, CompiledTable.compile schema r.options = .ok table ∧
      r.perform call = (.ok (some table), r.store table) := by
  have ofResult {use : Use CompiledTable} (stores : use.StoresResult r) :
      ((some <$> use).on r).2 = r ∨
        ∃ schema table, CompiledTable.compile schema r.options = .ok table ∧
          (some <$> use).on r = (.ok (some table), r.store table) := by
    rw [Use.on_map]
    rcases stores with same | ⟨schema, table, compiled, result⟩
    · exact .inl same
    · rw [result]
      exact .inr ⟨schema, table, compiled, rfl⟩
  cases call with
  | register schema => exact ofResult (Use.storesResult_register r schema)
  | getOrRegister name schema => exact ofResult (Use.storesResult_getOrRegister r name (schema ()))
  | get name => exact .inl rfl
  | require name =>
    refine ofResult (.inl ?_)
    rw [Use.on_require]
    cases r.get? name <;> rfl

/-- A call that fails leaves the registry as it found it. -/
theorem perform_of_error {r : Registry} {call : Call} {e : Error}
    (failed : (r.perform call).1 = .error e) : (r.perform call).2 = r := by
  rcases r.perform_cases call with same | ⟨schema, table, -, result⟩
  · exact same
  · rw [result] at failed
    cases failed

/-- One call keeps a registry sound, as all that it can store is a table that was compiled. -/
theorem Sound.perform {options : Options} {r : Registry} (sound : r.Sound options) (call : Call) :
    (r.perform call).2.Sound options := by
  rcases r.perform_cases call with same | ⟨schema, table, compiled, result⟩
  · rw [same]
    exact sound
  · rw [result]
    rw [sound.options_eq] at compiled
    exact sound.store compiled

/-- Any number of calls does, by induction on the calls. -/
theorem Sound.after {options : Options} {r : Registry} (sound : r.Sound options)
    (calls : List Call) : (r.after calls).Sound options := by
  induction calls generalizing r with
  | nil => exact sound
  | cons call calls ih => exact ih (sound.perform call)

/-! ## How calls are answered -/

/-- How a registry with some options answers every call, and what the call leaves of it. -/
structure Answers (options : Options) (r : Registry) : Prop where
  /-- Storing a table puts it in place of the one of its name, and keeps all others. -/
  stores : ∀ table name,
    (r.store table).get? name = if name = table.tableName then some table else r.get? name
  /-- A table is registered exactly if it is compiled. -/
  registered : ∀ schema table, CompiledTable.compile schema options = .ok table →
    r.perform (.register schema) = (.ok (some table), r.store table)
  notRegistered : ∀ schema e, CompiledTable.compile schema options = .error e →
    r.perform (.register schema) = (.error e, r)
  /-- A table that is there is answered, whatever asking for the schema would do. -/
  found : ∀ name table, r.get? name = some table → ∀ schema : Use Schema,
    (Use.getOrRegister name schema).on r = (.ok table, r)
  /-- A table that is not there is stored exactly if the schema is there, declares the table that
  was asked for, and is compiled. -/
  stored : ∀ name schema table, r.get? name = none →
    (r.perform (.getOrRegister name schema) = (.ok (some table), r.store table) ↔
      ∃ declared, schema () = .ok declared ∧ declared.tableName = name ∧
        CompiledTable.compile declared options = .ok table)
  /-- Otherwise the call fails, for the first of these that is not so. -/
  notStored : ∀ name schema e, r.get? name = none →
    (r.perform (.getOrRegister name schema) = (.error e, r) ↔
      schema () = .error e ∨ ∃ declared, schema () = .ok declared ∧
        if declared.tableName = name then CompiledTable.compile declared options = .error e
        else .configuration (.otherTable name declared.tableName) = e)
  got : ∀ name, r.perform (.get name) = (.ok (r.get? name), r)
  required : ∀ name table,
    r.perform (.require name) = (.ok (some table), r) ↔ r.get? name = some table
  notRequired : ∀ name,
    r.perform (.require name) = (.error (.unknownTable name), r) ↔ r.get? name = none
  failed : ∀ call e, (r.perform call).1 = .error e → (r.perform call).2 = r

theorem perform_register (r : Registry) (schema : Schema) :
    r.perform (.register schema) =
      match CompiledTable.compile schema r.options with
      | .ok table => (.ok (some table), r.store table)
      | .error e => (.error e, r) := by
  rw [perform, Call.use, Use.on_map, Use.on_register]
  cases CompiledTable.compile schema r.options <;> rfl

theorem perform_require (r : Registry) (name : String) :
    r.perform (.require name) =
      match r.get? name with
      | some table => (.ok (some table), r)
      | none => (.error (.unknownTable name), r) := by
  rw [perform, Call.use, Use.on_map, Use.on_require]
  cases r.get? name <;> rfl

/-- A table that is not there is compiled from a schema of its name. -/
theorem perform_getOrRegister {r : Registry} {name : String} (absent : r.get? name = none)
    (schema : Unit → Except Error Schema) :
    r.perform (.getOrRegister name schema) =
      match schema () with
      | .error e => (.error e, r)
      | .ok declared =>
        if declared.tableName = name then
          match CompiledTable.compile declared r.options with
          | .ok table => (.ok (some table), r.store table)
          | .error e => (.error e, r)
        else (.error (.configuration (.otherTable name declared.tableName)), r) := by
  rw [perform, Call.use, Use.on_map, Use.on_getOrRegister, absent]
  have lifted : Use.on (do schema ()) r = (schema (), r) := rfl
  rw [lifted]
  cases schema () with
  | error e => rfl
  | ok declared =>
    by_cases same : declared.tableName = name
    · simp only [if_pos same]
      rw [Use.on_registerIfAbsent, same, absent]
      simp only
      rw [Use.on_register]
      cases CompiledTable.compile declared r.options <;> rfl
    · simp only [if_neg same]
      rfl

/-- A sound registry answers each call as `Answers` says, from what the call does alone: what was
called before counts only by the tables that are there. -/
theorem Sound.answers {options : Options} {r : Registry} (sound : r.Sound options) :
    r.Answers options where
  stores := r.get?_store
  registered := by
    intro schema table compiled
    rw [perform_register, sound.options_eq, compiled]
  notRegistered := by
    intro schema e refused
    rw [perform_register, sound.options_eq, refused]
  found := by
    intro name table present schema
    rw [Use.on_getOrRegister, present]
  stored := by
    intro name schema table absent
    rw [perform_getOrRegister absent, sound.options_eq]
    cases schema () with
    | error e => simp
    | ok declared =>
      -- The table is stored only behind the check of its name and its compilation.
      by_cases same : declared.tableName = name
      · cases compiled : CompiledTable.compile declared options <;>
          simp +contextual [same, compiled]
      · simp [same]
  notStored := by
    intro name schema e absent
    rw [perform_getOrRegister absent, sound.options_eq]
    cases schema () with
    | error e => simp
    | ok declared =>
      by_cases same : declared.tableName = name
      · cases compiled : CompiledTable.compile declared options <;> simp [same, compiled]
      · simp [same]
  got := fun _ => rfl
  required := by
    intro name table
    rw [perform_require]
    cases r.get? name <;> simp
  notRequired := by
    intro name
    rw [perform_require]
    cases r.get? name <;> simp
  failed := fun _ _ => perform_of_error

/-- After any calls a registry is sound, answers every call as it should, and lists the names of its
tables in strictly ascending order. -/
theorem answers_after (options : Options) (calls : List Call) :
    ((empty options).after calls).Sound options ∧
    ((empty options).after calls).Answers options ∧
    ((empty options).after calls).tableNames.Pairwise (· < ·) ∧
    (∀ name, name ∈ ((empty options).after calls).tableNames ↔
      ∃ table, ((empty options).after calls).get? name = some table) ∧
    ((empty options).after calls).size = ((empty options).after calls).tableNames.length := by
  have sound := (sound_empty options).after calls
  exact ⟨sound, sound.answers, pairwise_tableNames _, fun _ => mem_tableNames, size_eq _⟩

end Registry

end TableSql
