import TableSql.Proofs.Catalog.Names
import TableSql.Proofs.CompiledTable
import TableSql.Proofs.Files.Walk

/-!
# Catalogs without clashes

A table's name can be any text, and many names have one stem. So a catalog is refused if two stems
differ at most in case; otherwise its paths stand in the directory of the catalog, whatever the
tables are called (`StandsIn`), and neither they nor the paths that they are written through are
mistaken for each other (`files_apart`).

Everything comes from the texts of the paths, which begin with the same characters and end alike, so
that they differ exactly as the stems do (`caseless_path`, `caseless_temporary`).
-/

namespace TableSql.Catalog

open Files (IsPlain Path Tree)

/-! ## Stems -/

/-- The characters that the stem of a file's name is made of. -/
def IsPortable (c : Char) : Prop :=
  ('A' ≤ c ∧ c ≤ 'Z') ∨ ('a' ≤ c ∧ c ≤ 'z') ∨ ('0' ≤ c ∧ c ≤ '9') ∨ c = '_' ∨ c = '-'

theorem isPortable_of_isAlphanum {c : Char} (kept : c.isAlphanum = true) : IsPortable c := by
  unfold Char.isAlphanum Char.isAlpha Char.isUpper Char.isLower Char.isDigit at kept
  simp only [Bool.or_eq_true, Bool.and_eq_true, decide_eq_true_eq] at kept
  rcases kept with (upper | lower) | digit
  · exact .inl upper
  · exact .inr (.inl lower)
  · exact .inr (.inr (.inl digit))

/-- A stem is made of portable characters, whatever the name is made of. -/
theorem isPortable_of_mem_fileStem {table : String} {c : Char}
    (member : c ∈ (fileStem table).toList) : IsPortable c := by
  unfold fileStem at member
  rw [String.toList_ofList] at member
  obtain ⟨d, -, rfl⟩ := List.mem_map.mp member
  split
  · next kept =>
    simp only [Bool.or_eq_true, decide_eq_true_eq] at kept
    rcases kept with (alphanumeric | underscore) | hyphen
    · exact isPortable_of_isAlphanum alphanumeric
    · exact .inr (.inr (.inr (.inl underscore)))
    · exact .inr (.inr (.inr (.inr hyphen)))
  · exact .inr (.inr (.inr (.inl rfl)))

/-- The stem of a table's file without regard to case. -/
def caselessStem (t : CompiledTable) : String := Text.lowerAscii (fileStem t.tableName)

theorem lowerAscii_append (a b : String) :
    Text.lowerAscii (a ++ b) = Text.lowerAscii a ++ Text.lowerAscii b := by
  unfold Text.lowerAscii
  rw [String.toList_append, List.map_append, String.ofList_append]

theorem caseless_fileName (t : CompiledTable) :
    Text.lowerAscii (fileName t.tableName) = caselessStem t ++ ".sql" := by
  have ending : Text.lowerAscii ("." ++ fileEnding) = ".sql" := by decide
  unfold fileName
  rw [String.append_assoc, lowerAscii_append, ending]
  rfl

/-! ## Paths -/

/-- Whether a path is that of a portable name directly in a directory, however the directories
are arranged. -/
structure StandsIn (directory p : Path) : Prop where
  named : ∃ stem : String, p = directory.join ⟨stem ++ ".sql"⟩ ∧ ∀ c ∈ stem.toList, IsPortable c
  below : ∃ above, p.parent? = some above ∧ directory.Alike above
  leads : ∀ (t : Tree) place, t.Leads p place →
    ∃ above name, t.Opens directory above ∧ place = above ++ [name]

theorem path_file (directory : Path) (t : CompiledTable) :
    (file directory t).path = directory.join ⟨fileName t.tableName⟩ := by
  simp only [file]

/-- The file of a table stands in the directory of the catalog, whatever the table is called. -/
theorem standsIn_file (directory : Path) (t : CompiledTable) :
    StandsIn directory (file directory t).path := by
  have plain := isPlain_fileName t.tableName
  have named : fileName t.tableName = fileStem t.tableName ++ ".sql" := by
    unfold fileName
    rw [String.append_assoc]
    rfl
  rw [path_file]
  refine ⟨⟨fileStem t.tableName, ?_, fun c => isPortable_of_mem_fileStem⟩, ?_, ?_⟩
  · rw [named]
  · obtain ⟨above, parent, alike, -⟩ := Path.parent?_join directory plain
    exact ⟨above, parent, alike⟩
  · intro tree place leads
    obtain ⟨-, above, opens, same⟩ := (Tree.leads_join_iff plain).mp leads
    exact ⟨above, _, opens, same.symm⟩

/-- What stands before the name in every path of a catalog, without regard to case. -/
def caselessDirectory (directory : Path) : String :=
  Text.lowerAscii (directory.text ++ directory.separator)

theorem caseless_path (directory : Path) (t : CompiledTable) :
    Text.lowerAscii (file directory t).path.text =
      caselessDirectory directory ++ (caselessStem t ++ ".sql") := by
  rw [path_file, Path.text_join directory (isPlain_fileName t.tableName).noSlash, lowerAscii_append,
    caseless_fileName]
  rfl

theorem caseless_temporary (directory : Path) (t : CompiledTable) :
    Text.lowerAscii (temporary (file directory t).path).text =
      caselessDirectory directory ++ (caselessStem t ++ ".sql.tmp") := by
  have ending : ".sql" ++ Text.lowerAscii ".tmp" = ".sql.tmp" := by decide
  show Text.lowerAscii ((file directory t).path.text ++ ".tmp") = _
  rw [lowerAscii_append, caseless_path, String.append_assoc, String.append_assoc, ending]

theorem append_ending_inj (ending : String) : Function.Injective fun stem => stem ++ ending := by
  intro a b same
  have texts := congrArg String.toList same
  simp only [String.toList_append] at texts
  exact String.toList_injective (List.append_cancel_right texts)

/-- Texts that begin and end alike differ as what stands between. -/
theorem append_between_inj (start ending : String) :
    Function.Injective fun stem => start ++ (stem ++ ending) := by
  intro a b same
  have texts := congrArg String.toList same
  simp only [String.toList_append] at texts
  exact String.toList_injective (List.append_cancel_right (List.append_cancel_left texts))

theorem caseless_temporary_ne_path (directory : Path) (t u : CompiledTable) :
    Text.lowerAscii (temporary (file directory t).path).text ≠
      Text.lowerAscii (file directory u).path.text := by
  rw [caseless_temporary, caseless_path]
  intro same
  have ends := congrArg (fun s => s.toList.getLast?) same
  simp at ends

/-! ## Catalogs -/

/-- Where stems differ, so does every text that can be told from them. -/
theorem nodup_map_iff {tables : List CompiledTable} {text : CompiledTable → String}
    {g : String → String} (inj : Function.Injective g) (told : ∀ t, text t = g (caselessStem t)) :
    (tables.map text).Nodup ↔ (tables.map caselessStem).Nodup := by
  have same : text = g ∘ caselessStem := funext told
  rw [same, ← List.map_map, List.nodup_map_iff inj]

theorem nodup_map_fileName {tables : List CompiledTable} :
    (tables.map fun t => Text.lowerAscii (fileName t.tableName)).Nodup ↔
      (tables.map caselessStem).Nodup :=
  nodup_map_iff (append_ending_inj ".sql") caseless_fileName

theorem files_eq_ok {directory : Path} {tables : List CompiledTable} {files : List File} :
    Catalog.files directory tables = .ok files ↔
      (tables.map caselessStem).Nodup ∧ tables.map (file directory) = files := by
  rw [← nodup_map_fileName, ← firstClash?_eq_none]
  unfold Catalog.files
  split
  · next clash => simp [clash]
  · next noClash => simp [noClash]

/-- A catalog has no two files whose names differ at most in case; there is one exactly if no two
stems do. Its files are those of the tables in their order, each directly in the directory, and
what they are written through is apart from all of them and from each other. Otherwise the first
table with the stem of an earlier one is refused. -/
theorem files_apart (directory : Path) (tables : List CompiledTable) :
    ((∃ files, Catalog.files directory tables = .ok files) ↔
      (tables.map caselessStem).Nodup) ∧
    (∀ files, Catalog.files directory tables = .ok files →
      files = tables.map (file directory) ∧
      (∀ f ∈ files, StandsIn directory f.path) ∧
      (files.map fun f => Text.lowerAscii f.path.text).Nodup ∧
      (files.map fun f => Text.lowerAscii (temporary f.path).text).Nodup ∧
      ∀ f ∈ files, ∀ g ∈ files,
        Text.lowerAscii (temporary f.path).text ≠ Text.lowerAscii g.path.text) ∧
    ∀ clash, Catalog.files directory tables = .error clash →
      ∃ (i j : Nat) (first second : CompiledTable), i < j ∧ tables[i]? = some first ∧
        tables[j]? = some second ∧ caselessStem first = caselessStem second ∧
        ((tables.take j).map caselessStem).Nodup ∧
        clash = ⟨first.tableName, second.tableName, (file directory second).path⟩ := by
  refine ⟨?_, ?_, ?_⟩
  · simp only [files_eq_ok]
    exact ⟨fun ⟨_, distinct, _⟩ => distinct, fun distinct => ⟨_, distinct, rfl⟩⟩
  · intro files generated
    obtain ⟨distinct, rfl⟩ := files_eq_ok.mp generated
    refine ⟨rfl, ?_, ?_, ?_, ?_⟩
    · rw [List.forall_mem_map]
      exact fun t _ => standsIn_file directory t
    · rw [List.map_map]
      exact (nodup_map_iff (append_between_inj _ _) (caseless_path directory)).mpr distinct
    · rw [List.map_map]
      exact (nodup_map_iff (append_between_inj _ _) (caseless_temporary directory)).mpr distinct
    · rw [List.forall_mem_map]
      intro t _
      rw [List.forall_mem_map]
      exact fun u _ => caseless_temporary_ne_path directory t u
  · intro clash refused
    unfold Catalog.files at refused
    split at refused
    · next first second found =>
      -- The search stops at the first table whose stem is taken, so none before it clash.
      obtain rfl := Except.error.inj refused
      obtain ⟨before, after, rfl, distinct, inBefore, same⟩ := firstClash?_eq_some found
      obtain ⟨i, below, rfl⟩ := List.mem_iff_getElem.mp inBefore
      refine ⟨i, before.length, before[i], second, below, ?_, ?_, ?_, ?_, rfl⟩
      · rw [List.getElem?_append_left below, List.getElem?_eq_getElem below]
      · rw [List.getElem?_append_right (Nat.le_refl _), Nat.sub_self, List.getElem?_cons_zero]
      · rw [caseless_fileName, caseless_fileName] at same
        exact append_ending_inj _ same
      · rw [List.take_left]
        exact nodup_map_fileName.mp distinct
    · contradiction

/-- Tables whose names would lead out of a directory. -/
def escaping : List CompiledTable :=
  [.single "../a" "id", .single "/etc/b" "id", .single "..\\c" "id"]

/-- Names that would lead out of the directory have files in it all the same. -/
theorem files_apart_escaping :
    Catalog.files ⟨"out"⟩ escaping = .ok (escaping.map (file ⟨"out"⟩)) ∧
      (escaping.map fun t => (file ⟨"out"⟩ t).path.text) =
        ["out/___a.sql", "out/_etc_b.sql", "out/___c.sql"] ∧
      ∀ f ∈ escaping.map (file ⟨"out"⟩), StandsIn ⟨"out"⟩ f.path := by
  obtain ⟨accepted, apart, -⟩ := files_apart ⟨"out"⟩ escaping
  obtain ⟨files, generated⟩ := accepted.mpr (by decide +kernel)
  obtain ⟨rfl, stands, -⟩ := apart files generated
  exact ⟨generated, by decide +kernel, stands⟩

end TableSql.Catalog
