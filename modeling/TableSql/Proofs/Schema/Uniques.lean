import TableSql.Proofs.Schema.Declared

/-!
# Unique groups and their declarations

Which unique groups a table has, said of the declarations themselves. They are read in order; a
declaration with the number of an earlier one makes no group of its own, and every other one makes a
group there (`UniqueSpec.merged`). The columns of the groups together are those that were declared,
each as often as it was declared (`perm_merged`), and the columns of one declaration stay together
in their order (`named_sublist_joined`).
-/

namespace TableSql

/-- The unique constraint that a declaration states. -/
def Declaration.unique? : Declaration → Option UniqueSpec
  | .unique spec => some spec
  | _ => none

/-- The unique constraints among some declarations, in their order. -/
def Declaration.uniques (declarations : List Declaration) : List UniqueSpec :=
  declarations.filterMap Declaration.unique?

namespace UniqueSpec

/-- The columns of the groups that unique constraints make, each group where it begins. -/
def merged (specs : List UniqueSpec) : List (List ColumnRef) := (starts specs).map (·.joined specs)

/-- The constraints that do not have a number that was seen. -/
def unseen (seen : List Int) (specs : List UniqueSpec) : List UniqueSpec :=
  specs.filter fun spec => ¬∃ number ∈ seen, spec.number? = some number

/-- To see one more number is to leave out its constraints. -/
theorem unseen_append (seen : List Int) (number : Int) (specs : List UniqueSpec) :
    unseen (seen ++ [number]) specs =
      (unseen seen specs).filter fun spec => !(spec.number? == some number) := by
  unfold unseen
  rw [List.filter_filter]
  apply List.filter_congr
  intro spec _
  by_cases own : spec.number? = some number
  · simp [own]
  · simp [own, or_and_right, exists_or]

/-- The constraints of a number are not among those that were seen, if the number was not seen. -/
theorem filter_unseen {seen : List Int} {number : Int} (fresh : number ∉ seen)
    (specs : List UniqueSpec) :
    (unseen seen specs).filter (·.number? == some number) =
      specs.filter (·.number? == some number) := by
  unfold unseen
  rw [List.filter_filter]
  apply List.filter_congr
  intro spec _
  by_cases own : spec.number? = some number
  · simp [own, fresh]
  · simp [own]

/-- A number splits what was not seen into its group and the rest. -/
theorem perm_ofNumber_append {seen : List Int} {number : Int} (fresh : number ∉ seen)
    (specs : List UniqueSpec) :
    (ofNumber specs number ++ (unseen (seen ++ [number]) specs).flatMap named).Perm
      ((unseen seen specs).flatMap named) := by
  have split := List.filter_append_perm (·.number? == some number) (unseen seen specs)
  rw [filter_unseen fresh, ← unseen_append] at split
  have columns := split.flatMap_right named
  rw [List.flatMap_append] at columns
  exact columns

/-- The groups that begin after some numbers were seen have the columns of all constraints that
were not seen. -/
theorem perm_startsAfter (seen : List Int) (specs : List UniqueSpec) :
    ((startsAfter seen specs).flatMap (·.joined specs)).Perm
      ((unseen seen specs).flatMap named) := by
  induction specs generalizing seen with
  | nil => exact .refl _
  | cons spec specs ih =>
    -- The groups after `spec` have nothing of it once its number was seen.
    have later (seen' : List Int) (inSeen : ∀ number, spec.number? = some number → number ∈ seen') :
        (startsAfter seen' specs).flatMap (·.joined (spec :: specs)) =
          (startsAfter seen' specs).flatMap (·.joined specs) := by
      apply List.flatMap_congr
      intro other member
      apply joined_cons
      intro number own same
      exact number?_ne_of_mem_startsAfter member (inSeen number same) own
    rw [startsAfter]
    by_cases follows : ∃ number ∈ seen, spec.number? = some number
    · have out : unseen seen (spec :: specs) = unseen seen specs :=
        List.filter_cons_of_neg (by simpa using follows)
      rw [if_pos follows, out, later seen ?_]
      · exact ih seen
      · intro number own
        obtain ⟨number', inSeen, own'⟩ := follows
        rwa [Option.some.inj (own.symm.trans own')]
    · have kept : unseen seen (spec :: specs) = spec :: unseen seen specs :=
        List.filter_cons_of_pos (by simpa using follows)
      rw [if_neg follows, kept, List.flatMap_cons, List.flatMap_cons]
      cases own : spec.number? with
      | none =>
        have alone : spec.joined (spec :: specs) = spec.named := by
          unfold joined
          rw [own]
        rw [alone, later]
        · have tail := ih seen
          rw [Option.toList_none, List.append_nil]
          exact tail.append_left _
        · intro number same
          rw [own] at same
          contradiction
      | some number =>
        have fresh : number ∉ seen := fun inSeen => follows ⟨number, inSeen, own⟩
        have group : spec.joined (spec :: specs) = spec.named ++ ofNumber specs number := by
          unfold joined
          rw [own]
          show ofNumber (spec :: specs) number = _
          rw [ofNumber_cons, if_pos own]
        rw [group, later, List.append_assoc]
        · have tail := (ih (seen ++ [number])).append_left (ofNumber specs number)
          exact (tail.trans (perm_ofNumber_append fresh specs)).append_left _
        · intro number' same
          rw [Option.some.inj (same.symm.trans own)]
          exact List.mem_append_right _ List.mem_cons_self

/-- No column of a constraint is lost, and none is in two groups. -/
theorem perm_merged (specs : List UniqueSpec) :
    (merged specs).flatten.Perm (specs.flatMap named) := by
  have all := perm_startsAfter [] specs
  have none : unseen [] specs = specs := by simp [unseen]
  rw [none] at all
  exact all

/-- The columns of a constraint are in its group, in their order. -/
theorem named_sublist_joined {specs : List UniqueSpec} {spec : UniqueSpec} (member : spec ∈ specs) :
    spec.named.Sublist (spec.joined specs) := by
  unfold joined
  cases own : spec.number? with
  | none => exact .refl _
  | some number =>
    apply List.sublist_flatten_of_mem
    exact List.mem_map_of_mem (List.mem_filter.mpr ⟨member, by simp [own]⟩)

/-- Every constraint has its group. -/
theorem joined_mem_merged {specs : List UniqueSpec} {spec : UniqueSpec} (member : spec ∈ specs) :
    spec.joined specs ∈ merged specs := by
  obtain ⟨first, begins, same⟩ :=
    exists_mem_startsAfter member (fun ⟨_, seen, _⟩ => List.not_mem_nil seen)
  rw [← same specs]
  exact List.mem_map_of_mem begins

end UniqueSpec

/-! ## Positions -/

namespace Schema

/-- The position of the column that a reference means. -/
def position? (s : Schema) : ColumnRef → Option Nat
  | .named name => s.columnIndex? name
  | .position index => if index < s.columns.length then some index else none

/-- The unique groups as positions. -/
def groupPositions (s : Schema) : List (List (Option Nat)) :=
  s.uniqueGroups.map fun group => group.map fun i => some i.val

end Schema

namespace Draft

variable {d : Draft}

/-- A table finds a column where its draft found it. -/
theorem map_position?_eq {s : Schema} (columns : s.columns = d.columns) (ref : ColumnRef) :
    (d.position? ref).map (·.val) = s.position? ref := by
  cases ref with
  | named name =>
    show (d.columns.findFinIdx? _).map _ = s.columns.findIdx? _
    rw [columns, List.findIdx?_eq_map_findFinIdx?_val]
  | position index =>
    show _ = if index < s.columns.length then some index else none
    rw [position?, columns]
    by_cases below : index < d.columns.length
    · simp [below]
    · simp [below]

/-- The positions of references are the same in the draft and in its table. -/
theorem map_filterMap_position? {s : Schema} (columns : s.columns = d.columns)
    {refs : List ColumnRef} (known : d.Known refs) :
    (refs.filterMap d.position?).map (fun i => some i.val) = refs.map s.position? := by
  induction refs with
  | nil => rfl
  | cons ref refs ih =>
    obtain ⟨⟨i, here⟩, rest⟩ := List.forall_mem_cons.mp known
    rw [List.filterMap_cons_some here, List.map_cons, List.map_cons, ih rest,
      ← map_position?_eq columns ref, here, Option.map_some]

/-- The columns of every group that the constraints make are known, if those that the constraints
name are. -/
theorem known_joined (known : ∀ spec ∈ d.uniques, d.Known spec.named) {spec : UniqueSpec}
    (member : spec ∈ d.uniques) : d.Known (spec.joined d.uniques) := by
  intro ref inGroup
  obtain ⟨other, declared, named⟩ := UniqueSpec.exists_named_of_mem_joined member inGroup
  exact known other declared ref named

/-- The unique groups of a table that was built are those that its declarations make. -/
theorem groupPositions_of_build {s : Schema} (built : d.build = .ok s) :
    s.groupPositions = (UniqueSpec.merged d.uniques).map (·.map s.position?) := by
  obtain ⟨-, -, -, -, -, -, _, groups, _, _, -, grouped, -, -, rfl⟩ := build_eq_ok.mp built
  obtain ⟨admitted, -, rfl⟩ := d.resolveUniques_eq_ok.mp grouped
  unfold Schema.groupPositions UniqueSpec.merged
  show d.groups.map _ = _
  unfold groups
  rw [List.map_map, List.map_map]
  apply List.map_congr_left
  intro spec begins
  have declared := UniqueSpec.mem_of_mem_startsAfter begins
  exact map_filterMap_position? rfl
    (known_joined (fun other member => (admitted other member).2) declared)

/-- A draft has the unique constraints among its declarations, and keeps their order. -/
theorem uniques_ofDeclarations (tableName : String) (declarations : List Declaration) :
    (ofDeclarations tableName declarations).uniques = Declaration.uniques declarations := by
  unfold ofDeclarations Declaration.uniques
  rw [foldl_declare]
  show [] ++ declarations.filterMap _ = _
  rw [List.nil_append]
  apply List.filterMap_congr
  intro declaration _
  cases declaration <;> rfl

end Draft

/-- The unique groups of a table are those that its declarations make one after the other. Together
they have the columns that were declared, each as often as it was declared, and the columns of every
declaration are in the group of that declaration, in their order. -/
theorem uniqueGroups_follow_declarations {tableName : String} {declarations : List Declaration}
    {s : Schema} (built : (Draft.ofDeclarations tableName declarations).build = .ok s) :
    s.groupPositions =
        (UniqueSpec.merged (Declaration.uniques declarations)).map (·.map s.position?) ∧
      s.groupPositions.flatten.Perm
        (((Declaration.uniques declarations).flatMap UniqueSpec.named).map s.position?) ∧
      ∀ spec ∈ Declaration.uniques declarations,
        (spec.joined (Declaration.uniques declarations)).map s.position? ∈ s.groupPositions ∧
          (spec.named.map s.position?).Sublist
            ((spec.joined (Declaration.uniques declarations)).map s.position?) := by
  have groups := Draft.groupPositions_of_build built
  rw [Draft.uniques_ofDeclarations] at groups
  refine ⟨groups, ?_, ?_⟩
  · rw [groups, ← List.map_flatten]
    exact (UniqueSpec.perm_merged _).map _
  · intro spec declared
    refine ⟨?_, (UniqueSpec.named_sublist_joined declared).map _⟩
    rw [groups]
    exact List.mem_map_of_mem (UniqueSpec.joined_mem_merged declared)

/-! ### Declarations that interleave -/

deriving instance DecidableEq for UniqueSpec

instance (d : Draft) (refs : List ColumnRef) : Decidable (d.Known refs) :=
  decidable_of_iff (∀ ref ∈ refs, (d.position? ref).isSome = true) (by
    unfold Draft.Known
    simp only [Option.isSome_iff_exists])

instance (d : Draft) (spec : UniqueSpec) : Decidable (d.Admits spec) :=
  inferInstanceAs (Decidable (spec ≠ .group [] ∧ d.Known spec.named))

/-- Two groups with numbers, begun and joined around other constraints. -/
def Declaration.interleaved : List Declaration :=
  [.column ⟨"id", .int .i64, false⟩, .unique (.keyed 2 (.named "email")),
    .column ⟨"email", .text, false⟩, .unique (.single (.named "nickname")),
    .unique (.keyed (-5) (.position 0)), .column ⟨"nickname", .text, true⟩,
    .unique (.group [.position 0, .named "nickname"]), .unique (.keyed 2 (.named "nickname")),
    .unique (.keyed (-5) (.named "email"))]

/-- The table of `Declaration.interleaved`. -/
def Schema.interleaved : Schema :=
  { tableName := "users"
    columns := [⟨"id", .int .i64, false⟩, ⟨"email", .text, false⟩, ⟨"nickname", .text, true⟩]
    sqlTypes := ["BIGINT", "TEXT", "TEXT"]
    keyCount := 1
    uniqueGroups := [[⟨1, by decide⟩, ⟨2, by decide⟩], [⟨2, by decide⟩],
      [⟨0, by decide⟩, ⟨1, by decide⟩], [⟨0, by decide⟩, ⟨2, by decide⟩]]
    foreignKeys := []
    checks := []
    rawLines := []
    typeMap := .empty }

theorem build_interleaved :
    (Draft.ofDeclarations "users" Declaration.interleaved).build = .ok Schema.interleaved := by
  have uniques : (Draft.ofDeclarations "users" Declaration.interleaved).resolveUniques =
      .ok Schema.interleaved.uniqueGroups :=
    (Draft.resolveUniques_eq_ok _).mpr ⟨by decide, by decide, rfl⟩
  exact Draft.build_eq_ok.mpr ⟨by decide, List.cons_ne_nil _ _, by decide, by decide, by decide,
    by decide, _, _, _, _, rfl, uniques, rfl, rfl, rfl⟩

/-- Groups that are joined around other constraints stand where they begin. -/
theorem uniqueGroups_follow_interleaved :
    (Draft.ofDeclarations "users" Declaration.interleaved).build = .ok Schema.interleaved ∧
      Schema.interleaved.groupPositions =
        [[some 1, some 2], [some 2], [some 0, some 1], [some 0, some 2]] ∧
      Schema.interleaved.groupPositions =
        (UniqueSpec.merged (Declaration.uniques Declaration.interleaved)).map
          (·.map Schema.interleaved.position?) ∧
      Schema.interleaved.groupPositions.flatten.Perm
        (((Declaration.uniques Declaration.interleaved).flatMap UniqueSpec.named).map
          Schema.interleaved.position?) := by
  obtain ⟨follows, perm, -⟩ := uniqueGroups_follow_declarations build_interleaved
  exact ⟨build_interleaved, rfl, follows, perm⟩

end TableSql
