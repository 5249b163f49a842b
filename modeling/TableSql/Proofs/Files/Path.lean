import TableSql.Files.Path
import TableSql.Proofs.Lists
import TableSql.Proofs.Text.Trim

/-!
# Names in a directory

A path is cut at its slashes, and the pieces are put together again without loss
(`splitSlashes_intercalate`). So the path of a plain name in a directory has the pieces of the
directory and the name behind them (`Path.pieces_join`), and the directory above it is the
directory itself, but for pieces that name nothing (`Path.parent?_join`).
-/

namespace TableSql.Files

/-! ## Pieces -/

theorem splitSlashes_ne_nil (cs : List Char) : splitSlashes cs ≠ [] := by
  cases cs with
  | nil => simp [splitSlashes]
  | cons c cs =>
    rw [splitSlashes]
    split
    · simp
    · split <;> simp

/-- A text is cut at every slash, so what is before a slash and what is behind it are cut by
themselves. -/
theorem splitSlashes_append_slash (cs ds : List Char) :
    splitSlashes (cs ++ '/' :: ds) = splitSlashes cs ++ splitSlashes ds := by
  induction cs with
  | nil => simp [splitSlashes]
  | cons c cs ih =>
    rw [List.cons_append, splitSlashes, splitSlashes, ih]
    split
    · simp
    · obtain ⟨piece, pieces, split⟩ := List.exists_cons_of_ne_nil (splitSlashes_ne_nil cs)
      simp [split]

theorem splitSlashes_of_noSlash {cs : List Char} (noSlash : '/' ∉ cs) : splitSlashes cs = [cs] := by
  induction cs with
  | nil => rfl
  | cons c cs ih =>
    rw [List.mem_cons, not_or] at noSlash
    obtain ⟨head, tail⟩ := noSlash
    rw [splitSlashes, if_neg (Ne.symm head), ih tail]

/-- There is no slash in a piece. -/
theorem noSlash_of_mem_splitSlashes {cs piece : List Char} (member : piece ∈ splitSlashes cs) :
    '/' ∉ piece := by
  induction cs generalizing piece with
  | nil => simp_all [splitSlashes]
  | cons c cs ih =>
    obtain ⟨first, rest, split⟩ := List.exists_cons_of_ne_nil (splitSlashes_ne_nil cs)
    rw [split] at ih
    rw [splitSlashes, split] at member
    by_cases slash : c = '/'
    · rw [if_pos slash, List.mem_cons] at member
      rcases member with rfl | member
      · simp
      · exact ih member
    · rw [if_neg slash, List.mem_cons] at member
      rcases member with rfl | member
      · rw [List.mem_cons, not_or]
        exact ⟨Ne.symm slash, ih List.mem_cons_self⟩
      · exact ih (List.mem_cons_of_mem _ member)

/-- The pieces of a text, with slashes between, are the text. -/
theorem intercalate_splitSlashes (cs : List Char) : ['/'].intercalate (splitSlashes cs) = cs := by
  induction cs with
  | nil => rfl
  | cons c cs ih =>
    obtain ⟨first, rest, split⟩ := List.exists_cons_of_ne_nil (splitSlashes_ne_nil cs)
    rw [split] at ih
    rw [splitSlashes, split]
    by_cases slash : c = '/'
    · rw [if_pos slash, List.intercalate_cons_cons, ih, slash]
      rfl
    · rw [if_neg slash]
      cases rest with
      | nil => simp_all
      | cons second rest =>
        rw [List.intercalate_cons_cons] at ih ⊢
        rw [← ih]
        simp

/-- Pieces without slashes are cut out again when they are put together. -/
theorem splitSlashes_intercalate {pieces : List (List Char)} (filled : pieces ≠ [])
    (noSlash : ∀ piece ∈ pieces, '/' ∉ piece) :
    splitSlashes (['/'].intercalate pieces) = pieces := by
  induction pieces with
  | nil => contradiction
  | cons first rest ih =>
    obtain ⟨head, tail⟩ := List.forall_mem_cons.mp noSlash
    cases rest with
    | nil => simpa using splitSlashes_of_noSlash head
    | cons second rest =>
      rw [List.intercalate_cons_cons, List.append_assoc, List.singleton_append,
        splitSlashes_append_slash, splitSlashes_of_noSlash head, ih (by simp) tail]
      rfl

/-! ## Plain names -/

/-- The names that an entry of a directory can have. -/
structure IsPlain (name : String) : Prop where
  noSlash : '/' ∉ name.toList
  filled : name ≠ ""
  noDot : name ≠ "."
  noDots : name ≠ ".."

instance (name : String) : Decidable (IsPlain name) :=
  decidable_of_iff ('/' ∉ name.toList ∧ name ≠ "" ∧ name ≠ "." ∧ name ≠ "..")
    ⟨fun ⟨a, b, c, d⟩ => ⟨a, b, c, d⟩, fun ⟨a, b, c, d⟩ => ⟨a, b, c, d⟩⟩

theorem IsPlain.not_isIdle {name : String} (plain : IsPlain name) : Path.isIdle name = false := by
  simp [Path.isIdle, plain.filled, plain.noDot]

namespace Path

theorem not_isAbsolute {name : String} (noSlash : '/' ∉ name.toList) :
    (Path.mk name).isAbsolute = false := by
  rw [isAbsolute]
  cases found : name.toList with
  | nil => rfl
  | cons c cs =>
    rw [found, List.mem_cons, not_or] at noSlash
    simp [Ne.symm noSlash.1]

/-- What stands between a directory and a name in it. -/
def separator (base : Path) : String :=
  if base.text.isEmpty || base.text.toList.getLast? == some '/' then "" else "/"

theorem text_join {name : String} (base : Path) (noSlash : '/' ∉ name.toList) :
    (base.join ⟨name⟩).text = base.text ++ base.separator ++ name := by
  rw [join, not_isAbsolute noSlash, separator]
  split
  · contradiction
  · split <;> simp

/-- Different names in a directory have different paths. -/
theorem join_inj {base : Path} {a b : String} (ha : '/' ∉ a.toList) (hb : '/' ∉ b.toList) :
    base.join ⟨a⟩ = base.join ⟨b⟩ ↔ a = b := by
  constructor
  · intro same
    have texts := congrArg (·.text.toList) same
    simp only [text_join base ha, text_join base hb, String.toList_append] at texts
    exact String.toList_injective (List.append_cancel_left texts)
  · rintro rfl
    rfl

theorem extend_join {name ending : String} (base : Path) (noSlash : '/' ∉ name.toList)
    (plainEnd : '/' ∉ ending.toList) :
    (base.join ⟨name⟩).extend ending = base.join ⟨name ++ ending⟩ := by
  have longer : '/' ∉ (name ++ ending).toList := by
    rw [String.toList_append, List.mem_append, not_or]
    exact ⟨noSlash, plainEnd⟩
  rw [extend, text_join base noSlash, String.append_assoc, ← text_join base longer]

theorem noSlash_of_mem_pieces {p : Path} {piece : String} (member : piece ∈ p.pieces) :
    '/' ∉ piece.toList := by
  obtain ⟨cs, inText, rfl⟩ := List.mem_map.mp member
  simpa using noSlash_of_mem_splitSlashes inText

/-- The pieces of a name in a directory: those of the directory, of which an empty last one may be
lost, and the name. The path begins where the directory's path begins. -/
theorem pieces_join (base : Path) {name : String} (plain : IsPlain name) :
    ∃ before, (base.pieces = before ∨ base.pieces = before ++ [""]) ∧
      (base.join ⟨name⟩).pieces = before ++ [name] ∧
      (base.join ⟨name⟩).isAbsolute = base.isAbsolute := by
  have last : (splitSlashes name.toList).map String.ofList = [name] := by
    simp [splitSlashes_of_noSlash plain.noSlash]
  have joined : (base.join ⟨name⟩).text.toList =
      base.text.toList ++ base.separator.toList ++ name.toList := by
    rw [text_join base plain.noSlash, String.toList_append, String.toList_append]
  by_cases empty : base.text = ""
  · have same : (base.join ⟨name⟩).text = name := by
      simp [text_join base plain.noSlash, separator, empty]
    refine ⟨[], .inr ?_, ?_, ?_⟩
    · simp [pieces, empty, splitSlashes]
    · simpa [pieces, same] using last
    · have relative : base.isAbsolute = false := by simp [isAbsolute, empty]
      rw [relative, ← not_isAbsolute plain.noSlash, isAbsolute, same, isAbsolute]
  · obtain ⟨c, cs, filled⟩ : ∃ c cs, base.text.toList = c :: cs :=
      List.exists_cons_of_ne_nil (by simpa using empty)
    have absolute : (base.join ⟨name⟩).isAbsolute = base.isAbsolute := by
      simp [isAbsolute, joined, filled]
    by_cases slash : base.text.toList.getLast? = some '/'
    · -- The slash at the end is the separator, and the piece after it is empty.
      obtain ⟨ds, split⟩ : ∃ ds, base.text.toList = ds ++ ['/'] := by
        obtain ⟨ds, split⟩ := List.getLast?_eq_some_iff.mp slash
        exact ⟨ds, split⟩
      refine ⟨(splitSlashes ds).map String.ofList, .inr ?_, ?_, absolute⟩
      · rw [pieces, split, splitSlashes_append_slash, List.map_append]
        rfl
      · have noSeparator : base.separator = "" := by simp [separator, slash]
        rw [pieces, joined, noSeparator, split]
        simp [splitSlashes_append_slash, last]
    · refine ⟨base.pieces, .inl rfl, ?_, absolute⟩
      have withSlash : base.separator = "/" := by simp [separator, empty, slash]
      rw [pieces, joined, withSlash]
      simp [splitSlashes_append_slash, last, pieces]

/-! ## The directory above -/

theorem toList_ofPieces {xs : List String} (notRoot : xs ≠ [""]) :
    (ofPieces xs).text.toList = ['/'].intercalate (xs.map String.toList) := by
  rw [ofPieces.eq_2 _ (by simpa using notRoot), String.toList_intercalate]
  rfl

/-- Pieces put together come apart again; the root and the empty path have one more piece, which
names nothing. -/
theorem pieces_ofPieces {xs : List String} (noSlash : ∀ x ∈ xs, '/' ∉ x.toList) :
    (ofPieces xs).pieces = if xs = [] then [""] else if xs = [""] then ["", ""] else xs := by
  by_cases empty : xs = []
  · subst empty
    decide
  by_cases root : xs = [""]
  · subst root
    decide
  · have apart :
        splitSlashes (['/'].intercalate (xs.map String.toList)) = xs.map String.toList := by
      apply splitSlashes_intercalate (by simpa using empty)
      intro cs member
      obtain ⟨x, inList, rfl⟩ := List.mem_map.mp member
      exact noSlash x inList
    rw [if_neg empty, if_neg root, pieces, toList_ofPieces root, apart, List.map_map]
    simp

theorem toList_text_eq (p : Path) :
    p.text.toList = ['/'].intercalate (p.pieces.map String.toList) := by
  rw [pieces, List.map_map]
  simpa [Function.comp_def] using (intercalate_splitSlashes p.text.toList).symm

/-- Pieces put together begin with these pieces, and what else they have names nothing. -/
theorem exists_pieces_ofPieces {xs : List String} (noSlash : ∀ x ∈ xs, '/' ∉ x.toList) :
    ∃ idle, (ofPieces xs).pieces = xs ++ idle ∧ ∀ x ∈ idle, isIdle x = true := by
  rw [pieces_ofPieces noSlash]
  split
  · next empty => exact ⟨[""], by rw [empty]; rfl, by decide⟩
  · split
    · next root => exact ⟨[""], by rw [root]; rfl, by decide⟩
    · exact ⟨[], (List.append_nil xs).symm, by simp⟩

/-- Two paths that go the same way: their pieces differ at most in ones at the end that name
nothing. -/
structure Alike (p q : Path) : Prop where
  absolute : p.isAbsolute = q.isAbsolute
  pieces : ∃ core idle idle', p.pieces = core ++ idle ∧ q.pieces = core ++ idle' ∧
    (∀ x ∈ idle, isIdle x = true) ∧ ∀ x ∈ idle', isIdle x = true

theorem dropIdle_concat (xs : List String) {name : String} (stays : isIdle name = false) :
    dropIdle (xs ++ [name]) = xs ++ [name] := by
  cases xs with
  | nil => rfl
  | cons first rest => rw [List.cons_append, dropIdle, Text.dropEndWhile_concat rest stays]

theorem dropIdle_eq (xs : List String) :
    ∃ dropped, xs = dropIdle xs ++ dropped ∧ ∀ x ∈ dropped, isIdle x = true := by
  cases xs with
  | nil => exact ⟨[], rfl, by simp⟩
  | cons first rest =>
    obtain ⟨dropped, split, idle⟩ := Text.dropEndWhile_eq isIdle rest
    exact ⟨dropped, by rw [dropIdle, List.cons_append, ← split], idle⟩

theorem dropIdle_eq_nil {xs : List String} (none : dropIdle xs = []) : xs = [] := by
  cases xs with
  | nil => rfl
  | cons first rest => simp [dropIdle] at none

/-- Some of the first pieces of a path put together are a beginning of it. -/
theorem ofPieces_prefix {p : Path} {xs rest : List String} (split : p.pieces = xs ++ rest)
    (filled : rest ≠ []) : (ofPieces xs).text.toList <+: p.text.toList := by
  by_cases empty : xs = []
  · rw [empty]
    exact List.nil_prefix
  rw [toList_text_eq p, split, List.map_append,
    intercalate_append _ (by simpa using empty) (by simpa using filled)]
  by_cases root : xs = [""]
  · rw [root]
    exact List.prefix_append ['/'] _
  · rw [toList_ofPieces root, List.append_assoc]
    exact List.prefix_append _ _

/-- Some of the first pieces of a path put together begin where the path begins. -/
theorem isAbsolute_ofPieces {p : Path} {xs rest : List String} (split : p.pieces = xs ++ rest)
    (someFirst : xs ≠ []) (filled : rest ≠ []) : (ofPieces xs).isAbsolute = p.isAbsolute := by
  have noSlash : ∀ x ∈ xs, '/' ∉ x.toList := fun x member =>
    noSlash_of_mem_pieces (split ▸ List.mem_append_left rest member)
  have notEmpty : (ofPieces xs).text.toList ≠ [] := by
    intro noText
    have onePiece : (ofPieces xs).pieces = [""] := by
      rw [pieces, noText]
      rfl
    rw [pieces_ofPieces noSlash, if_neg someFirst] at onePiece
    split at onePiece
    · exact absurd onePiece (by decide)
    · contradiction
  obtain ⟨tail, whole⟩ := ofPieces_prefix split filled
  obtain ⟨c, cs, first⟩ := List.exists_cons_of_ne_nil notEmpty
  simp [isAbsolute, ← whole, first]

/-- The path above one that ends with a plain name has the pieces before, but for those at its end
that name nothing. -/
theorem parent?_of_pieces {p : Path} {before : List String} {name : String} (plain : IsPlain name)
    (split : p.pieces = before ++ [name]) : p.parent? = some (ofPieces (dropIdle before)) := by
  rw [parent?, split, dropIdle_concat before plain.not_isIdle]
  split
  · next empty => simp at empty
  · next lone =>
    have named := congrArg List.getLast? lone
    simp only [List.getLast?_concat, List.getLast?_singleton, Option.some.injEq] at named
    exact absurd named plain.filled
  · rw [List.dropLast_concat]

/-- Above a name in a directory there is that directory, written at the beginning of the name's
path. -/
theorem parent?_join (base : Path) {name : String} (plain : IsPlain name) :
    ∃ above, (base.join ⟨name⟩).parent? = some above ∧ base.Alike above ∧
      above.text.toList <+: (base.join ⟨name⟩).text.toList := by
  obtain ⟨before, baseIs, joined, absolute⟩ := pieces_join base plain
  obtain ⟨dropped, split, idle⟩ := dropIdle_eq before
  have whole : (base.join ⟨name⟩).pieces = dropIdle before ++ (dropped ++ [name]) := by
    rw [joined, ← List.append_assoc, ← split]
  have noSlash : ∀ x ∈ dropIdle before, '/' ∉ x.toList := fun x member =>
    noSlash_of_mem_pieces (whole ▸ List.mem_append_left _ member)
  have sameStart : base.isAbsolute = (ofPieces (dropIdle before)).isAbsolute := by
    rw [← absolute]
    by_cases empty : dropIdle before = []
    · have lone : (base.join ⟨name⟩).text = name := by
        rw [← String.toList_inj, toList_text_eq, joined, dropIdle_eq_nil empty]
        simp
      rw [empty, isAbsolute, lone]
      exact not_isAbsolute plain.noSlash
    · exact (isAbsolute_ofPieces whole empty (by simp)).symm
  obtain ⟨idleAbove, piecesAbove, allIdle⟩ := exists_pieces_ofPieces noSlash
  refine ⟨_, parent?_of_pieces plain joined, ⟨sameStart, dropIdle before, ?_⟩,
    ofPieces_prefix whole (by simp)⟩
  rcases baseIs with same | longer
  · exact ⟨dropped, idleAbove, by rw [same, ← split], piecesAbove, idle, allIdle⟩
  · refine ⟨dropped ++ [""], idleAbove, ?_, piecesAbove, ?_, allIdle⟩
    · rw [longer, ← List.append_assoc, ← split]
    · intro x member
      rcases List.mem_append.mp member with inDropped | last
      · exact idle x inDropped
      · rw [List.mem_singleton.mp last]
        rfl

end Path

end TableSql.Files
