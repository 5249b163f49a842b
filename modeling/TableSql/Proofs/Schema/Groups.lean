import TableSql.Proofs.Clash
import TableSql.Proofs.Except
import TableSql.Schema.Draft

/-!
# Unique groups

The groups that the unique constraints of a table make. Each constraint makes a group of its
columns, but for those with a number, which share one group where the first of them stands. So the
groups belong to the constraints that do not follow another of their number (`UniqueSpec.starts`),
and each is made of the columns that all constraints of its number name (`UniqueSpec.joined`).

`resolveUniques_eq_ok` says when the constraints are accepted, and which groups they make then.
-/

namespace TableSql

namespace UniqueSpec

/-- The number of the group that a constraint joins. -/
def number? : UniqueSpec → Option Int
  | .keyed number _ => some number
  | _ => none

/-- The columns that a constraint names itself. -/
def named : UniqueSpec → List ColumnRef
  | .single column => [column]
  | .group columns => columns
  | .keyed _ column => [column]

/-- The columns that the constraints of a number name. -/
def ofNumber (specs : List UniqueSpec) (number : Int) : List ColumnRef :=
  (specs.filter (·.number? == some number)).flatMap named

/-- The columns of a constraint's group, among all constraints of a table. -/
def joined (spec : UniqueSpec) (specs : List UniqueSpec) : List ColumnRef :=
  match spec.number? with
  | none => spec.named
  | some number => ofNumber specs number

/-- The constraints but for those whose number was seen or is that of one before them. -/
def startsAfter (seen : List Int) : List UniqueSpec → List UniqueSpec
  | [] => []
  | spec :: specs =>
    if ∃ number ∈ seen, spec.number? = some number then startsAfter seen specs
    else spec :: startsAfter (seen ++ spec.number?.toList) specs

/-- The constraints at which groups begin. -/
def starts (specs : List UniqueSpec) : List UniqueSpec := startsAfter [] specs

example :
    let specs := [.keyed 7 (.named "a"), .single (.position 1), .keyed 7 (.named "c")]
    (starts specs).map (·.joined specs) = [[.named "a", .named "c"], [.position 1]] := by
  decide

theorem ofNumber_cons (spec : UniqueSpec) (specs : List UniqueSpec) (number : Int) :
    ofNumber (spec :: specs) number =
      if spec.number? = some number then spec.named ++ ofNumber specs number
      else ofNumber specs number := by
  by_cases own : spec.number? = some number <;> simp [ofNumber, own]

/-- A constraint of another number adds nothing to a group. -/
theorem joined_cons {spec : UniqueSpec} (specs : List UniqueSpec) {other : UniqueSpec}
    (apart : ∀ number, other.number? = some number → spec.number? ≠ some number) :
    other.joined (spec :: specs) = other.joined specs := by
  rw [joined, joined]
  cases own : other.number? with
  | none => rfl
  | some number => simp only [ofNumber_cons, apart number own, if_false]

/-- The columns of a group are named by the constraints that make it. -/
theorem exists_named_of_mem_joined {specs : List UniqueSpec} {spec : UniqueSpec}
    (member : spec ∈ specs) {ref : ColumnRef} (inGroup : ref ∈ spec.joined specs) :
    ∃ other ∈ specs, ref ∈ other.named := by
  rw [joined] at inGroup
  cases own : spec.number? with
  | none =>
    rw [own] at inGroup
    exact ⟨spec, member, inGroup⟩
  | some number =>
    rw [own] at inGroup
    obtain ⟨other, selected, named⟩ := List.mem_flatMap.mp inGroup
    exact ⟨other, List.mem_of_mem_filter selected, named⟩

/-- A number that was seen is not that of a constraint at which a group begins. -/
theorem number?_ne_of_mem_startsAfter {seen : List Int} {specs : List UniqueSpec}
    {spec : UniqueSpec} (member : spec ∈ startsAfter seen specs) {number : Int}
    (inSeen : number ∈ seen) : spec.number? ≠ some number := by
  induction specs generalizing seen with
  | nil => exact absurd member List.not_mem_nil
  | cons first specs ih =>
    rw [startsAfter] at member
    by_cases follows : ∃ number ∈ seen, first.number? = some number
    · rw [if_pos follows] at member
      exact ih member inSeen
    · rw [if_neg follows, List.mem_cons] at member
      rcases member with rfl | later
      · exact fun own => follows ⟨number, inSeen, own⟩
      · exact ih later (List.mem_append_left _ inSeen)

theorem mem_of_mem_startsAfter {seen : List Int} {specs : List UniqueSpec} {spec : UniqueSpec}
    (member : spec ∈ startsAfter seen specs) : spec ∈ specs := by
  induction specs generalizing seen with
  | nil => exact member
  | cons first specs ih =>
    rw [startsAfter] at member
    by_cases follows : ∃ number ∈ seen, first.number? = some number
    · rw [if_pos follows] at member
      exact List.mem_cons_of_mem _ (ih member)
    · rw [if_neg follows, List.mem_cons] at member
      exact List.mem_cons.mpr (member.imp_right ih)

/-- Every constraint shares the group of one at which it begins, unless its number was seen. -/
theorem exists_mem_startsAfter {seen : List Int} {specs : List UniqueSpec} {spec : UniqueSpec}
    (member : spec ∈ specs) (fresh : ¬∃ number ∈ seen, spec.number? = some number) :
    ∃ first ∈ startsAfter seen specs, ∀ all, first.joined all = spec.joined all := by
  induction specs generalizing seen with
  | nil => exact absurd member List.not_mem_nil
  | cons head specs ih =>
    rw [startsAfter]
    rcases List.mem_cons.mp member with rfl | later
    · rw [if_neg fresh]
      exact ⟨spec, List.mem_cons_self, fun _ => rfl⟩
    · by_cases follows : ∃ number ∈ seen, head.number? = some number
      · rw [if_pos follows]
        exact ih later fresh
      · rw [if_neg follows]
        by_cases shared : spec.number? ≠ none ∧ spec.number? = head.number?
        · refine ⟨head, List.mem_cons_self, fun all => ?_⟩
          obtain ⟨number, own⟩ := Option.ne_none_iff_exists'.mp shared.1
          rw [joined, joined, ← shared.2, own]
        · have stillFresh : ¬∃ number ∈ seen ++ head.number?.toList,
              spec.number? = some number := by
            rintro ⟨number, inSeen, own⟩
            rcases List.mem_append.mp inSeen with earlier | now
            · exact fresh ⟨number, earlier, own⟩
            · rw [Option.mem_toList] at now
              exact shared ⟨own ▸ Option.some_ne_none number, own.trans now.symm⟩
          obtain ⟨first, inStarts, same⟩ := ih later stillFresh
          exact ⟨first, List.mem_cons_of_mem _ inStarts, same⟩

end UniqueSpec

namespace Draft

/-! ## Positions of references -/

/-- The position that a reference means. -/
def position? (d : Draft) : ColumnRef → Option (Fin d.columns.length)
  | .named name => d.columns.findFinIdx? fun column => column.name == name
  | .position index => if h : index < d.columns.length then some ⟨index, h⟩ else none

theorem resolve_eq_ok {d : Draft} {role : ReferenceRole} {ref : ColumnRef}
    {i : Fin d.columns.length} : d.resolve role ref = .ok i ↔ d.position? ref = some i := by
  have looks : d.resolve role ref =
      match d.position? ref with
      | some position => .ok position
      | none => .error (.configuration (.unknownColumn role ref d.tableName)) := by
    cases ref <;> rfl
  rw [looks]
  cases d.position? ref <;> simp

/-- Whether all references mean columns. -/
def Known (d : Draft) (refs : List ColumnRef) : Prop := ∀ ref ∈ refs, ∃ i, d.position? ref = some i

/-- References lead to some positions, one by one, exactly if all mean columns and these are their
positions. -/
theorem forall₂_position?_iff {d : Draft} {refs : List ColumnRef}
    {positions : List (Fin d.columns.length)} :
    List.Forall₂ (fun ref i => d.position? ref = some i) refs positions ↔
      d.Known refs ∧ refs.filterMap d.position? = positions := by
  constructor
  · intro each
    induction each with
    | nil => exact ⟨List.forall_mem_nil _, rfl⟩
    | @cons ref i refs positions here _ ih =>
      obtain ⟨known, rfl⟩ := ih
      exact ⟨List.forall_mem_cons.mpr ⟨⟨i, here⟩, known⟩, List.filterMap_cons_some here⟩
  · rintro ⟨known, rfl⟩
    induction refs with
    | nil => exact .nil
    | cons ref refs ih =>
      obtain ⟨⟨i, here⟩, rest⟩ := List.forall_mem_cons.mp known
      rw [List.filterMap_cons_some here]
      exact .cons here (ih rest)

theorem mapM_resolve_eq_ok {d : Draft} {role : ReferenceRole} {refs : List ColumnRef}
    {positions : List (Fin d.columns.length)} :
    refs.mapM (d.resolve role) = .ok positions ↔
      d.Known refs ∧ refs.filterMap d.position? = positions := by
  rw [mapM_eq_ok]
  simp only [resolve_eq_ok]
  exact forall₂_position?_iff

/-! ## Groups -/

/-- Puts the columns of a constraint into the groups. -/
def place (d : Draft) (groups : Groups d.columns.length) (spec : UniqueSpec) :
    Groups d.columns.length :=
  match spec with
  | .keyed number column =>
    match d.position? column with
    | some position => joinGroup groups number position
    | none => groups
  | spec => groups ++ [(none, spec.named.filterMap d.position?)]

/-- Whether a constraint can be added to any groups. -/
def Admits (d : Draft) (spec : UniqueSpec) : Prop := spec ≠ .group [] ∧ d.Known spec.named

/-- A constraint is added exactly if it can be, and is put into the groups then. -/
theorem addUnique_eq_ok {d : Draft} (groups : Groups d.columns.length) (spec : UniqueSpec)
    (groups' : Groups d.columns.length) :
    d.addUnique groups spec = .ok groups' ↔ d.Admits spec ∧ d.place groups spec = groups' := by
  cases spec with
  | single column =>
    rw [addUnique, bind_eq_ok]
    simp only [resolve_eq_ok, Admits, Known, UniqueSpec.named, List.forall_mem_singleton, place,
      ne_eq, reduceCtorEq, not_false_eq_true, true_and]
    constructor
    · rintro ⟨i, here, made⟩
      rw [List.filterMap_cons_some here]
      exact ⟨⟨i, here⟩, Except.ok.inj made⟩
    · rintro ⟨⟨i, here⟩, made⟩
      rw [List.filterMap_cons_some here] at made
      exact ⟨i, here, congrArg Except.ok made⟩
  | group columns =>
    rw [addUnique, guard_eq_ok, bind_eq_ok]
    simp only [mapM_resolve_eq_ok, Admits, UniqueSpec.named, place, List.isEmpty_iff,
      UniqueSpec.group.injEq, ne_eq]
    constructor
    · rintro ⟨filled, _, ⟨known, rfl⟩, made⟩
      exact ⟨⟨filled, known⟩, Except.ok.inj made⟩
    · rintro ⟨⟨filled, known⟩, made⟩
      exact ⟨filled, _, ⟨known, rfl⟩, congrArg Except.ok made⟩
  | keyed number column =>
    rw [addUnique, bind_eq_ok]
    simp only [resolve_eq_ok, Admits, Known, UniqueSpec.named, List.forall_mem_singleton, place,
      ne_eq, reduceCtorEq, not_false_eq_true, true_and]
    constructor
    · rintro ⟨i, here, made⟩
      refine ⟨⟨i, here⟩, ?_⟩
      rw [here]
      exact Except.ok.inj made
    · rintro ⟨⟨i, here⟩, made⟩
      rw [here] at made
      exact ⟨i, here, congrArg Except.ok made⟩

variable (d : Draft)

/-- A group with the columns that constraints still to come add to it. -/
def extend (specs : List UniqueSpec) (group : Option Int × List (Fin d.columns.length)) :
    Option Int × List (Fin d.columns.length) :=
  match group.1 with
  | none => group
  | some number =>
    (some number, group.2 ++ (UniqueSpec.ofNumber specs number).filterMap d.position?)

/-- The group that begins at a constraint, with the columns of all constraints that join it. -/
def groupAt (specs : List UniqueSpec) (spec : UniqueSpec) :
    Option Int × List (Fin d.columns.length) :=
  (spec.number?, (spec.joined specs).filterMap d.position?)

theorem map_extend_nil (groups : Groups d.columns.length) : groups.map (d.extend []) = groups := by
  have same : ∀ group, d.extend [] group = group := by
    rintro ⟨number, columns⟩
    cases number <;> simp [extend, UniqueSpec.ofNumber]
  rw [List.map_congr_left fun group _ => same group, List.map_id']

/-- A constraint that joins no group extends none. -/
theorem map_extend_cons {spec : UniqueSpec} {groups : Groups d.columns.length}
    (begins : ¬∃ number ∈ groups.filterMap (·.1), spec.number? = some number)
    (specs : List UniqueSpec) :
    groups.map (d.extend (spec :: specs)) = groups.map (d.extend specs) := by
  refine List.map_congr_left fun group member => ?_
  obtain ⟨number, columns⟩ := group
  cases number with
  | none => rfl
  | some number =>
    have apart : spec.number? ≠ some number := fun own =>
      begins ⟨number, List.mem_filterMap.mpr ⟨_, member, rfl⟩, own⟩
    simp [extend, UniqueSpec.ofNumber_cons, apart]

/-- The other groups that begin after a constraint have nothing of it. -/
theorem map_groupAt_cons {spec : UniqueSpec} {seen : List Int}
    (inSeen : ∀ number, spec.number? = some number → number ∈ seen) (specs : List UniqueSpec) :
    (UniqueSpec.startsAfter seen specs).map (d.groupAt (spec :: specs)) =
      (UniqueSpec.startsAfter seen specs).map (d.groupAt specs) := by
  refine List.map_congr_left fun other member => ?_
  rw [groupAt, groupAt, UniqueSpec.joined_cons]
  intro number own same
  exact UniqueSpec.number?_ne_of_mem_startsAfter member (inSeen number same) own

theorem any_number_iff {n : Nat} (groups : Groups n) (number : Int) :
    groups.any (·.1 == some number) = true ↔ number ∈ groups.filterMap (·.1) := by
  simp [List.any_eq_true, List.mem_filterMap]

/-- A constraint whose number no group has begins a group. -/
theorem place_of_begins {spec : UniqueSpec} (known : d.Known spec.named)
    {groups : Groups d.columns.length}
    (begins : ¬∃ number ∈ groups.filterMap (·.1), spec.number? = some number) :
    d.place groups spec = groups ++ [(spec.number?, spec.named.filterMap d.position?)] := by
  cases spec with
  | keyed number column =>
    obtain ⟨position, found⟩ := known column List.mem_cons_self
    have new : ¬groups.any (·.1 == some number) = true := fun taken =>
      begins ⟨number, (any_number_iff groups number).mp taken, rfl⟩
    have named : [column].filterMap d.position? = [position] := List.filterMap_cons_some found
    simp only [place, found, joinGroup, new, UniqueSpec.number?, UniqueSpec.named, named]
    rfl
  | _ => rfl

/-- A constraint whose number a group has is added to that group. -/
theorem place_of_joins {spec : UniqueSpec} (known : d.Known spec.named)
    {groups : Groups d.columns.length} {number : Int} (own : spec.number? = some number)
    (taken : number ∈ groups.filterMap (·.1)) :
    d.place groups spec = groups.map fun group =>
      if group.1 == some number then (group.1, group.2 ++ spec.named.filterMap d.position?)
      else group := by
  cases spec with
  | keyed other column =>
    obtain rfl : other = number := Option.some.inj own
    obtain ⟨position, found⟩ := known column List.mem_cons_self
    have named : [column].filterMap d.position? = [position] := List.filterMap_cons_some found
    simp only [place, found, joinGroup, (any_number_iff groups other).mpr taken, if_true,
      UniqueSpec.named, named]
  | _ => simp [UniqueSpec.number?] at own

/-- The groups that some constraints make after others: those that were there are extended, and one
begins at each constraint whose number none of them has. -/
theorem foldl_place {specs : List UniqueSpec} (known : ∀ spec ∈ specs, d.Known spec.named)
    (groups : Groups d.columns.length) :
    specs.foldl d.place groups = groups.map (d.extend specs) ++
      (UniqueSpec.startsAfter (groups.filterMap (·.1)) specs).map (d.groupAt specs) := by
  induction specs generalizing groups with
  | nil =>
    rw [map_extend_nil, UniqueSpec.startsAfter, List.map_nil, List.append_nil, List.foldl_nil]
  | cons spec specs ih =>
    obtain ⟨here, rest⟩ := List.forall_mem_cons.mp known
    rw [List.foldl_cons, ih rest, UniqueSpec.startsAfter]
    by_cases follows : ∃ number ∈ groups.filterMap (·.1), spec.number? = some number
    · -- The constraint joins the group of its number, so no group begins and the numbers stay.
      obtain ⟨number, taken, own⟩ := follows
      have placed := d.place_of_joins here own taken
      have numbers : (d.place groups spec).filterMap (·.1) = groups.filterMap (·.1) := by
        rw [placed, List.filterMap_map]
        refine List.filterMap_congr fun group _ => ?_
        show (if _ then _ else _ : Option Int × _).1 = _
        split <;> rfl
      have extended : (d.place groups spec).map (d.extend specs) =
          groups.map (d.extend (spec :: specs)) := by
        rw [placed, List.map_map]
        refine List.map_congr_left fun group _ => ?_
        obtain ⟨other, columns⟩ := group
        cases other with
        | none => rfl
        | some other =>
          by_cases same : other = number
          · simp [extend, UniqueSpec.ofNumber_cons, own, same]
          · have apart : ¬number = other := fun equal => same equal.symm
            simp [extend, UniqueSpec.ofNumber_cons, own, same, apart]
      rw [if_pos ⟨number, taken, own⟩, numbers, extended, map_groupAt_cons]
      intro other same
      rwa [← Option.some.inj (own.symm.trans same)]
    · -- It begins a group, to which the constraints of its number that follow are added.
      have placed := d.place_of_begins here follows
      have begun : d.extend specs (spec.number?, spec.named.filterMap d.position?) =
          d.groupAt (spec :: specs) spec := by
        cases own : spec.number? with
        | none => simp [extend, groupAt, UniqueSpec.joined, own]
        | some number => simp [extend, groupAt, UniqueSpec.joined, UniqueSpec.ofNumber_cons, own]
      have numbers : (d.place groups spec).filterMap (·.1) =
          groups.filterMap (·.1) ++ spec.number?.toList := by
        rw [placed, List.filterMap_append]
        cases spec.number? <;> rfl
      rw [if_neg follows, numbers, placed, List.map_append, List.map_cons, List.map_cons,
        List.map_nil, begun, d.map_extend_cons follows, map_groupAt_cons, List.append_assoc]
      · rfl
      · intro number own
        rw [own]
        exact List.mem_append_right _ List.mem_cons_self

/-- A group is accepted exactly if no column is in it twice. -/
theorem checkGroup_eq_ok {group : List (Fin d.columns.length)} :
    d.checkGroup group = .ok () ↔ group.Nodup := by
  have distinct : (group.map fun position => position.val).Nodup ↔ group.Nodup :=
    List.nodup_map_iff fun _ _ => Fin.ext
  rw [← distinct, ← firstClash?_eq_none, checkGroup]
  cases clash : firstClash? (fun position => position.val) group with
  | none => simp
  | some pair => simp

/-- The groups of a table, in the order in which they begin. -/
def groups : List (List (Fin d.columns.length)) :=
  (UniqueSpec.starts d.uniques).map fun spec => (spec.joined d.uniques).filterMap d.position?

theorem map_snd_foldl_place (known : ∀ spec ∈ d.uniques, d.Known spec.named) :
    (d.uniques.foldl d.place []).map (·.2) = d.groups := by
  rw [d.foldl_place known]
  exact List.map_map

/-- The unique constraints are accepted if none is an empty group, all their columns exist and no
group has a column twice. -/
theorem resolveUniques_eq_ok {groups : List (List (Fin d.columns.length))} :
    d.resolveUniques = .ok groups ↔
      (∀ spec ∈ d.uniques, d.Admits spec) ∧ (∀ group ∈ d.groups, group.Nodup) ∧
        d.groups = groups := by
  rw [resolveUniques, bind_eq_ok]
  constructor
  · rintro ⟨made, folded, rest⟩
    obtain ⟨admitted, rfl⟩ := (foldlM_eq_ok d.addUnique_eq_ok).mp folded
    obtain ⟨checked, equal⟩ := check_eq_ok.mp rest
    rw [d.map_snd_foldl_place fun spec member => (admitted spec member).2] at checked equal
    exact ⟨admitted, fun group member => d.checkGroup_eq_ok.mp (forM_eq_ok.mp checked group member),
      Except.ok.inj equal⟩
  · rintro ⟨admitted, distinct, rfl⟩
    refine ⟨_, (foldlM_eq_ok d.addUnique_eq_ok).mpr ⟨admitted, rfl⟩, check_eq_ok.mpr ?_⟩
    rw [d.map_snd_foldl_place fun spec member => (admitted spec member).2]
    exact ⟨forM_eq_ok.mpr fun group member => d.checkGroup_eq_ok.mpr (distinct group member), rfl⟩

/-- The groups that begin are the groups of all constraints. -/
theorem forall_mem_groups {p : List (Fin d.columns.length) → Prop} :
    (∀ group ∈ d.groups, p group) ↔
      ∀ spec ∈ d.uniques, p ((spec.joined d.uniques).filterMap d.position?) := by
  rw [groups, List.forall_mem_map]
  constructor
  · intro each spec member
    obtain ⟨first, begins, same⟩ :=
      UniqueSpec.exists_mem_startsAfter member (fun ⟨_, seen, _⟩ => List.not_mem_nil seen)
    rw [← same]
    exact each first begins
  · exact fun each spec member => each spec (UniqueSpec.mem_of_mem_startsAfter member)

end Draft

end TableSql
