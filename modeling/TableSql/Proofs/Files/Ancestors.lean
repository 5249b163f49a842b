import TableSql.Proofs.Files.Walk

/-!
# Paths above a path

The paths above a path are beginnings of it (`Path.begins_of_mem_ancestors`). Where a path never
goes up, a beginning of it names a directory on the way to the one that the path names
(`Tree.Opens.isPrefix`).
-/

namespace TableSql.Files

namespace Path

/-- The first path is a beginning of the second, but for pieces that name nothing. -/
structure Begins (q p : Path) : Prop where
  absolute : q.isAbsolute = p.isAbsolute
  pieces : ∃ core idle rest, q.pieces = core ++ idle ∧ p.pieces = core ++ rest ∧
    ∀ x ∈ idle, isIdle x = true

theorem Begins.refl (p : Path) : p.Begins p :=
  ⟨rfl, p.pieces, [], [], (List.append_nil _).symm, (List.append_nil _).symm, by simp⟩

/-- A beginning of a beginning of a path is one of the path. -/
theorem Begins.trans {r q p : Path} (first : r.Begins q) (second : q.Begins p) : r.Begins p := by
  obtain ⟨core, idle, rest, ofR, ofQ, allIdle⟩ := first.pieces
  obtain ⟨core', idle', rest', ofQ', ofP, allIdle'⟩ := second.pieces
  refine ⟨first.absolute.trans second.absolute, ?_⟩
  have here : core <+: q.pieces := ⟨rest, ofQ.symm⟩
  have here' : core' <+: q.pieces := ⟨idle', ofQ'.symm⟩
  -- Of the two beginnings of `q` the shorter one is that of `p`.
  rcases List.prefix_or_prefix_of_prefix here here' with ⟨more, rfl⟩ | ⟨more, rfl⟩
  · exact ⟨core, idle, more ++ rest', ofR, by rw [ofP, List.append_assoc], allIdle⟩
  · refine ⟨core', more ++ idle, rest', by rw [ofR, List.append_assoc], ofP, ?_⟩
    rw [ofQ', List.append_assoc, List.append_cancel_left_eq] at ofQ
    intro x member
    rcases List.mem_append.mp member with inMore | inIdle
    · exact allIdle' x (ofQ ▸ List.mem_append_left _ inMore)
    · exact allIdle x inIdle

/-- The path above a path begins it, unless it is empty. -/
theorem begins_of_parent? {p above : Path} (parent : p.parent? = some above)
    (filled : above.text ≠ "") : above.Begins p := by
  unfold parent? at parent
  split at parent
  · contradiction
  · contradiction
  · next notEmpty notRoot =>
    obtain ⟨dropped, split, -⟩ := dropIdle_eq p.pieces
    obtain ⟨before, last, concat⟩ : ∃ before last, dropIdle p.pieces = before ++ [last] := by
      rcases List.eq_nil_or_concat (dropIdle p.pieces) with empty | ⟨before, last, concat⟩
      · exact absurd empty notEmpty
      · exact ⟨before, last, by rw [concat, List.concat_eq_append]⟩
    rw [concat, List.dropLast_concat] at parent
    obtain rfl := Option.some.inj parent
    obtain ⟨dropped', split', -⟩ := dropIdle_eq before
    have whole : p.pieces = dropIdle before ++ (dropped' ++ [last] ++ dropped) := by
      rw [split, concat]
      simp only [← List.append_assoc, ← split']
    have noSlash : ∀ x ∈ dropIdle before, '/' ∉ x.toList := fun x member =>
      noSlash_of_mem_pieces (whole ▸ List.mem_append_left _ member)
    have someFirst : dropIdle before ≠ [] := by
      intro none
      rw [none] at filled
      exact filled rfl
    obtain ⟨idle, pieces, allIdle⟩ := exists_pieces_ofPieces noSlash
    exact ⟨isAbsolute_ofPieces whole someFirst (by simp), dropIdle before, idle, _, pieces, whole,
      allIdle⟩

/-- Nothing is above the empty path. -/
theorem text_ne_empty_of_mem_upTo {count : Nat} {q p : Path} (member : q ∈ p.upTo count) :
    p.text ≠ "" := by
  intro empty
  cases count with
  | zero => exact List.not_mem_nil member
  | succ count =>
    rw [upTo, if_pos (by simpa using empty)] at member
    exact List.not_mem_nil member

/-- However many of the paths above a path are taken, each is a beginning of it. -/
theorem begins_of_mem_upTo {count : Nat} {q p : Path} (member : q ∈ p.upTo count) :
    q.Begins p := by
  induction count generalizing p with
  | zero => exact absurd member List.not_mem_nil
  | succ count ih =>
    have filled := text_ne_empty_of_mem_upTo member
    rw [upTo, if_neg (by simpa using filled), List.mem_cons] at member
    rcases member with rfl | above
    · exact .refl q
    · cases parent : p.parent? with
      | none =>
        rw [parent] at above
        exact absurd above List.not_mem_nil
      | some directory =>
        rw [parent] at above
        exact (ih above).trans (begins_of_parent? parent (text_ne_empty_of_mem_upTo above))

/-- The paths above a path are beginnings of it. -/
theorem begins_of_mem_ancestors {q p : Path} (member : q ∈ p.ancestors) : q.Begins p :=
  begins_of_mem_upTo member

theorem Alike.noUp {p q : Path} (alike : p.Alike q) (noUp : ".." ∉ p.pieces) :
    ".." ∉ q.pieces := by
  obtain ⟨core, idle, idle', ofP, ofQ, -, allIdle'⟩ := alike.pieces
  intro up
  rw [ofQ] at up
  rcases List.mem_append.mp up with inCore | inIdle
  · exact noUp (ofP ▸ List.mem_append_left _ inCore)
  · exact absurd (allIdle' _ inIdle) (by decide)

end Path

namespace Tree

variable {t : Tree} {place last : Location} {pieces : List String}

/-- A way that never goes up leads down. -/
theorem Way.isPrefix (way : t.Way place pieces last) (noUp : ".." ∉ pieces) : place <+: last := by
  induction way with
  | done _ => exact List.prefix_refl _
  | idle _ _ _ ih => exact ih fun up => noUp (List.mem_cons_of_mem _ up)
  | up => exact absurd List.mem_cons_self noUp
  | down _ _ _ _ _ ih =>
    exact (List.prefix_append _ _).trans (ih fun up => noUp (List.mem_cons_of_mem _ up))

/-- Where a path names a directory, a beginning of it names a directory on the way. -/
theorem Opens.exists_begins {q p : Path} (whole : t.Opens p last) (begins : q.Begins p) :
    ∃ middle rest, t.Opens q middle ∧ t.Way middle rest last ∧ rest ⊆ p.pieces := by
  obtain ⟨core, idle, rest, ofQ, ofP, allIdle⟩ := begins.pieces
  unfold Opens at whole
  rw [ofP] at whole
  obtain ⟨middle, first, second⟩ := way_append.mp whole
  refine ⟨middle, rest, ?_, second, ?_⟩
  · unfold Opens
    rw [ofQ, way_append_idle allIdle, start_eq begins.absolute]
    exact first
  · rw [ofP]
    exact List.subset_append_right _ _

/-- The directory on the way is above the last one, if the path never goes up. -/
theorem Opens.isPrefix {q p : Path} {middle : Location} (opens : t.Opens q middle)
    (whole : t.Opens p last) (begins : q.Begins p) (noUp : ".." ∉ p.pieces) : middle <+: last := by
  obtain ⟨middle', rest, opens', way, subset⟩ := whole.exists_begins begins
  obtain rfl := opens.unique opens'
  exact way.isPrefix fun up => noUp (subset up)

end Tree

end TableSql.Files
