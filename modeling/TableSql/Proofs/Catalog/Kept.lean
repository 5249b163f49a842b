import TableSql.Proofs.Catalog.Modes

/-!
# Files written by hand

Bringing a directory up to date removes generated files only. A file that is not marked as generated
is lost in two places, and only when files are written: in the place of a file of the catalog that
differs, and where such a file is written before it is moved to its place. Everywhere else it is
kept, whatever comes of the run.
-/

namespace TableSql.Catalog

open Files

variable {t t' : Tree} {directory : Path} {files : List File} {p : Plan} {place : Location}

/-- The content of a file does not begin like a generated file. -/
def HandWritten (content : List UInt8) : Prop :=
  ∀ text, Text.Utf8.decode? content = some text → generatedTable? text = none

instance (content : List UInt8) : Decidable (HandWritten content) :=
  decidable_of_iff ((Text.Utf8.decode? content).bind generatedTable? = none) (by
    unfold HandWritten
    cases Text.Utf8.decode? content <;> simp)

/-- What is stale is marked as generated, so a file that was written by hand is in another place. -/
theorem Stale.not_leads {name table : String} {content : List UInt8} (wf : t.WellFormed)
    (stale : Stale t directory files name table) (stays : t.DirectoriesStay t')
    (here : t.entry? place = some (.file content)) (handWritten : HandWritten content) :
    ¬t'.Leads (directory.join ⟨name⟩) place := by
  intro leads
  have plain := stale.isPlain wf
  obtain ⟨-, above, opens, rfl⟩ := (Tree.leads_join_iff plain).mp leads
  obtain ⟨text, read, marked⟩ := stale.marked
  obtain ⟨-, -, above', bytes, opens', here', decoded⟩ := (Tree.readText_join_eq_ok plain).mp read
  obtain rfl := opens.unique (opens'.mono stays)
  rw [here, Option.some.injEq, Entry.file.injEq] at here'
  rw [← here'] at decoded
  rw [handWritten text decoded] at marked
  contradiction

/-- Carrying out a plan keeps a file that was written by hand, whatever comes of it, unless a file
that differs is written in its place or through it. Only marked files are removed. -/
theorem kept_of_apply {A : Access (StateM Tree)} (lawful : OnTrees A) (wf : t.WellFormed)
    (planned : Planned t directory files p) {outcome : Except Files.Failure Unit}
    (ran : runOn p.apply t = (outcome, t')) {content : List UInt8}
    (here : t.entry? place = some (.file content)) (handWritten : HandWritten content)
    (apart : ∀ f ∈ files, t.readText f.path ≠ .ok f.content →
      ¬t'.Leads f.path place ∧ ¬t'.Leads (temporary f.path) place) :
    t'.entry? place = some (.file content) := by
  have spares := leaves_apply lawful p t
  rw [ran] at spares
  apply spares.files place content here
  intro path member
  rcases List.mem_append.mp member with inWritten | inRemovals
  · obtain ⟨f, isWritten, inPaths⟩ := List.mem_flatMap.mp inWritten
    obtain ⟨inFiles, differs⟩ := planned.mem_written.mp isWritten
    have notThere := apart f inFiles differs
    simp only [writtenPaths, List.mem_cons, List.not_mem_nil, or_false] at inPaths
    rcases inPaths with rfl | rfl
    · exact notThere.1
    · exact notThere.2
  · obtain ⟨c, removed, rfl⟩ := List.mem_map.mp inRemovals
    obtain ⟨name, table, stale, rfl⟩ := planned.mem_removals.mp removed
    exact stale.not_leads wf spares.toDirectoriesStay here handWritten

/-- Writing leaves the tree as it is, or carries out a plan as far as that goes. -/
theorem eq_or_apply_of_write {A : Access (StateM Tree)} (lawful : OnTrees A) (wf : t.WellFormed)
    {outcome : Except Failure Plan}
    (ran : syncOn A directory files .write t = (outcome, t')) :
    t' = t ∨ ∃ p done, Planned t directory files p ∧ runOn p.apply t = (done, t') := by
  obtain ⟨listed, relisted, made⟩ := runOn_plan lawful directory files t
  unfold syncOn sync at ran
  rw [runOn_bind, runOn_adapt, made] at ran
  cases planned : planOf t directory files listed with
  | error failure =>
    rw [planned] at ran
    cases ran
    exact .inl rfl
  | ok p =>
    rw [planned] at ran
    refine .inr ⟨p, (runOn p.apply t).1, planned_of_planOf wf relisted planned, ?_⟩
    have tree : (runOn p.apply t).2 = t' := by
      change runOn ((p.apply : ExceptT Files.Failure (StateM Tree) Unit).adapt Failure.file >>=
        fun _ => pure p) t = (outcome, t') at ran
      rw [runOn_bind, runOn_adapt] at ran
      cases done : (runOn p.apply t).1 with
      | error failure =>
        rw [done] at ran
        exact congrArg Prod.snd ran
      | ok u =>
        rw [done] at ran
        exact congrArg Prod.snd ran
    rw [← tree]

/-- A file that was written by hand is kept in every mode and whatever comes of the run, unless it
stands in the place of a file that differs and is to be written, or where that file is written
before it is moved to its place. -/
theorem hand_written_kept {A : Access (StateM Tree)} (lawful : OnTrees A) (wf : t.WellFormed)
    {mode : Mode} {outcome : Except Failure Plan}
    (ran : syncOn A directory files mode t = (outcome, t')) {content : List UInt8}
    (here : t.entry? place = some (.file content)) (handWritten : HandWritten content)
    (apart : mode = .write → ∀ f ∈ files, t.readText f.path ≠ .ok f.content →
      ¬t'.Leads f.path place ∧ ¬t'.Leads (temporary f.path) place) :
    t'.entry? place = some (.file content) := by
  by_cases writes : mode = .write
  · subst writes
    rcases eq_or_apply_of_write lawful wf ran with rfl | ⟨p, done, planned, applied⟩
    · exact here
    · exact kept_of_apply lawful wf planned applied here handWritten (apart rfl)
  · have same : (syncOn A directory files mode t).2 = t := syncOn_reads lawful writes
    rw [ran] at same
    change t' = t at same
    rw [same, here]

/-- The file that was written by hand is kept beside the file of a table. -/
theorem hand_written_kept_users :
    withNotes.WellFormed ∧
      withNotes.entry? ["out", "notes.sql"] = some (.file (Text.Utf8.encode "SELECT 42;\n")) ∧
      HandWritten (Text.Utf8.encode "SELECT 42;\n") ∧
      ∃ p t', syncOn inferInstance ⟨"out"⟩ [file ⟨"out"⟩ users] .write withNotes = (.ok p, t') ∧
        t'.entry? ["out", "users.sql"] ≠ none ∧
        t'.entry? ["out", "notes.sql"] = some (.file (Text.Utf8.encode "SELECT 42;\n")) := by
  have wf := wellFormed_withNotes
  have here : withNotes.entry? ["out", "notes.sql"] =
      some (.file (Text.Utf8.encode "SELECT 42;\n")) := by decide +kernel
  have handWritten : HandWritten (Text.Utf8.encode "SELECT 42;\n") := by decide +kernel
  have apart : ∀ f ∈ [file ⟨"out"⟩ users],
      ¬(syncOn inferInstance ⟨"out"⟩ [file ⟨"out"⟩ users] .write withNotes).2.Leads f.path
          ["out", "notes.sql"] ∧
        ¬(syncOn inferInstance ⟨"out"⟩ [file ⟨"out"⟩ users] .write withNotes).2.Leads
          (temporary f.path) ["out", "notes.sql"] := by decide +kernel
  have written : Tree.entry? (syncOn inferInstance ⟨"out"⟩ [file ⟨"out"⟩ users] .write withNotes).2
      ["out", "users.sql"] ≠ none := by decide +kernel
  obtain ⟨p, t', ran⟩ := exists_withNotes
  rw [ran] at apart written
  exact ⟨wf, here, handWritten, p, t', ran, written,
    hand_written_kept onTrees wf ran here handWritten fun _ f member _ => apart f member⟩

/-- A directory with a file that was written by hand in the place of a table's file. -/
def withHandWritten : Tree :=
  { entries := Std.TreeMap.ofList [(["out"], Entry.directory),
      (["out", "users.sql"], Entry.file (Text.Utf8.encode "SELECT 42;\n"))] }

/-- In the place of a table's file a file that was written by hand is lost. -/
theorem hand_written_lost_in_place :
    withHandWritten.WellFormed ∧ Catalog.files ⟨"out"⟩ [users] = .ok [file ⟨"out"⟩ users] ∧
      withHandWritten.entry? ["out", "users.sql"] =
        some (.file (Text.Utf8.encode "SELECT 42;\n")) ∧
      generatedTable? "SELECT 42;\n" = none ∧
      ∃ p t',
        syncOn inferInstance ⟨"out"⟩ [file ⟨"out"⟩ users] .write withHandWritten = (.ok p, t') ∧
        t'.entry? ["out", "users.sql"] = some (.file (Text.Utf8.encode (render users))) ∧
        render users ≠ "SELECT 42;\n" := by
  have entry : Tree.entry? (syncOn inferInstance ⟨"out"⟩ [file ⟨"out"⟩ users] .write
      withHandWritten).2 ["out", "users.sql"] = some (.file (Text.Utf8.encode (render users))) := by
    decide +kernel
  obtain ⟨p, t', ran⟩ : ∃ p t', syncOn inferInstance ⟨"out"⟩ [file ⟨"out"⟩ users] .write
      withHandWritten = (.ok p, t') := exists_of_toBool (by decide +kernel)
  rw [ran] at entry
  exact ⟨by decide +kernel, files_users _, by decide +kernel, by decide +kernel, p, t', ran, entry,
    by decide +kernel⟩

end TableSql.Catalog
