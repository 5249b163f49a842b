import TableSql.Catalog.Sync
import TableSql.Proofs.Clash
import TableSql.Proofs.Files.Path

/-!
# Names of catalog files

The files of a catalog stand in one directory under plain names, no two alike
(`isCatalog_of_files`). A name ends in `.sql`, so a file is never taken for the one that another
file is written to before it is moved (`fileName_ne_temporaryName`), and neither is a file that is
looked at because of its ending (`ne_temporaryName_of_extension`).
-/

namespace TableSql.Catalog

open Files (IsPlain Path)

/-! ## Names -/

theorem toList_fileName (table : String) :
    (fileName table).toList = (fileStem table).toList ++ ".sql".toList := by
  have ending : ".".toList ++ "sql".toList = ".sql".toList := by decide
  rw [fileName, fileEnding, String.toList_append, String.toList_append, List.append_assoc, ending]

/-- The name under which the file of a table is written at first. -/
def temporaryName (table : String) : String := fileName table ++ ".tmp"

theorem toList_temporaryName (table : String) :
    (temporaryName table).toList = (fileStem table).toList ++ ".sql.tmp".toList := by
  have ending : ".sql".toList ++ ".tmp".toList = ".sql.tmp".toList := by decide
  rw [temporaryName, String.toList_append, toList_fileName, List.append_assoc, ending]

/-- No slash is in a stem: it would have been replaced. -/
theorem noSlash_fileStem (table : String) : '/' ∉ (fileStem table).toList := by
  intro slash
  rw [fileStem, String.toList_ofList, List.mem_map] at slash
  obtain ⟨c, -, same⟩ := slash
  split at same
  · next kept =>
    subst same
    simp at kept
  · simp at same

/-- What ends in a text of some length is a plain name, if no slash is in it. -/
theorem isPlain_of_ending {name : String} {stem ending : List Char}
    (whole : name.toList = stem ++ ending) (long : 2 < ending.length)
    (noSlash : '/' ∉ name.toList) : IsPlain name := by
  have length : 2 < name.toList.length := by
    rw [whole, List.length_append]
    omega
  constructor
  · exact noSlash
  all_goals
    rintro rfl
    simp at length

theorem isPlain_fileName (table : String) : IsPlain (fileName table) := by
  apply isPlain_of_ending (toList_fileName table) (by decide)
  rw [toList_fileName, List.mem_append, not_or]
  exact ⟨noSlash_fileStem table, by decide⟩

theorem isPlain_temporaryName (table : String) : IsPlain (temporaryName table) := by
  apply isPlain_of_ending (toList_temporaryName table) (by decide)
  rw [toList_temporaryName, List.mem_append, not_or]
  exact ⟨noSlash_fileStem table, by decide⟩

/-! ## Endings -/

/-- The ending of a name is the end of the name. -/
theorem getLast?_of_extension {name ending : String} (found : Files.extension? name = some ending)
    (filled : ending ≠ "") : name.toList.getLast? = ending.toList.getLast? := by
  unfold Files.extension? at found
  dsimp only at found
  split at found
  · have text := congrArg String.toList (Option.some.inj found)
    rw [String.toList_ofList] at text
    -- From its end the name begins with the ending, which is not empty.
    obtain ⟨c, rest, first⟩ := List.exists_cons_of_ne_nil
      (l := name.toList.reverse.takeWhile (· != '.')) (by
        intro empty
        rw [empty] at text
        exact filled (String.toList_inj.mp text.symm))
    have whole := List.takeWhile_append_dropWhile (p := (· != '.')) (l := name.toList.reverse)
    rw [first] at text whole
    have last : name.toList.getLast? = name.toList.reverse.head? := by simp
    rw [last, ← whole, ← text]
    simp
  · contradiction

theorem getLast?_temporaryName (table : String) :
    (temporaryName table).toList.getLast? = some 'p' := by
  rw [toList_temporaryName]
  simp

theorem getLast?_fileName (table : String) : (fileName table).toList.getLast? = some 'l' := by
  rw [toList_fileName]
  simp

theorem fileName_ne_temporaryName (table other : String) :
    fileName table ≠ temporaryName other := by
  intro same
  have ends := getLast?_fileName table
  rw [same, getLast?_temporaryName] at ends
  exact absurd ends (by decide)

theorem ne_temporaryName_of_extension {name : String}
    (ending : Files.extension? name = some fileEnding) (table : String) :
    name ≠ temporaryName table := by
  rintro rfl
  have ends := getLast?_of_extension ending (by decide)
  rw [getLast?_temporaryName] at ends
  exact absurd ends (by decide)

/-! ## Catalogs -/

/-- Some files are those of a catalog in a directory. -/
structure IsCatalog (directory : Path) (files : List File) : Prop where
  path : ∀ f ∈ files, f.path = directory.join ⟨fileName f.table⟩
  distinct : (files.map fun f => fileName f.table).Nodup

/-- The files that are generated for tables form a catalog: their names are plain names in the
directory, and no two are written through one path. -/
theorem isCatalog_of_files {directory : Path} {tables : List CompiledTable} {files : List File}
    (generated : Catalog.files directory tables = .ok files) : IsCatalog directory files := by
  unfold Catalog.files at generated
  split at generated
  · contradiction
  · next noClash =>
    obtain rfl : tables.map (file directory) = files := Except.ok.inj generated
    constructor
    · intro f member
      obtain ⟨t, -, rfl⟩ := List.mem_map.mp member
      simp only [file]
    · -- Names that differ in more than case differ.
      have differ := firstClash?_eq_none.mp noClash
      rw [List.map_map]
      refine List.Nodup.of_map Text.lowerAscii ?_
      rw [List.map_map]
      exact differ

variable {directory : Path} {files : List File}

theorem temporary_join (directory : Path) (table : String) :
    temporary (directory.join ⟨fileName table⟩) = directory.join ⟨temporaryName table⟩ :=
  Path.extend_join directory (isPlain_fileName table).noSlash (by decide)

theorem IsCatalog.temporary (catalog : IsCatalog directory files) {f : File} (member : f ∈ files) :
    temporary f.path = directory.join ⟨temporaryName f.table⟩ := by
  rw [catalog.path f member, temporary_join]

theorem IsCatalog.of_subset (catalog : IsCatalog directory files) {some : List File}
    (sublist : some.Sublist files) : IsCatalog directory some :=
  ⟨fun f member => catalog.path f (sublist.subset member),
    catalog.distinct.sublist (sublist.map _)⟩

end TableSql.Catalog
