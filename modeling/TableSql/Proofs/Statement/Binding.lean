import TableSql.Proofs.Except
import TableSql.Statement.Basic

/-!
# Two ways to bind values

A statement is bound to a record, of which each parameter picks the value of its column, or to a
list of values in the order of the parameters. Both are one loop over what each parameter is given
(`bindGiven`), where a record may give nothing. So where a record is long enough, binding it and
binding the values that it gives have the same result, and whatever fails, fails with the error of
the first parameter that refuses what it is given (`bindings_agree`).

* `exists_bindRecord_iff`: a record is bound exactly if all its values that the statement asks for
  exist and can be stored;
* `bindGiven_eq_error`: the loop fails with the error of the first refusal.
-/

namespace TableSql

/-! ## One parameter -/

/-- The stored form of what a parameter is given by a record of some width. -/
def Param.take (width : Nat) (p : Param) : Option Value → Except Error Value
  | some v => p.toStorage v
  | none => .error (.configuration (.shortRecord width p.column p.index))

/-- A parameter refuses what it is given, with the error that says so: it is given nothing, or a
value that can not be stored in its column. -/
inductive Param.Refuses (width : Nat) (p : Param) : Option Value → Error → Prop
  | missing : Refuses width p none (.configuration (.shortRecord width p.column p.index))
  | unfit {v : Value} {error : ConversionError} (refused : p.type.toStorage v = .error error) :
      Refuses width p (some v)
        (.conversion { error with fault := .inColumn p.column error.fault })

namespace Param

variable {width : Nat} {p : Param} {given : Option Value}

/-- A parameter fails exactly with the error of its refusal. -/
theorem take_eq_error {e : Error} : p.take width given = .error e ↔ p.Refuses width given e := by
  constructor
  · intro failed
    cases given with
    | none =>
      obtain rfl := Except.error.inj failed
      exact .missing
    | some v =>
      obtain ⟨error, refused, rfl⟩ := mapError_eq_error.mp failed
      exact .unfit refused
  · intro refuses
    cases refuses with
    | missing => rfl
    | unfit refused => exact mapError_eq_error.mpr ⟨_, refused, rfl⟩

theorem take_eq_ok {stored : Value} :
    p.take width given = .ok stored ↔ ∃ v, given = some v ∧ p.type.toStorage v = .ok stored := by
  cases given with
  | none => simp [take]
  | some v => simp [take, toStorage, mapError_eq_ok]

theorem pick_eq_take (p : Param) (record : List Value) :
    p.pick record = p.take record.length record[p.index]? := by
  cases given : record[p.index]? <;> simp [pick, take, given]

end Param

/-- The first parameter that refuses what it is given, with its error. Each before it is given a
value that can be stored. The width tells nothing where no value is missing. -/
def FirstRefusal (width : Nat) (params : List Param) (given : List (Option Value)) (e : Error) :
    Prop :=
  ∃ (i : Nat) (p : Param) (offer : Option Value), params[i]? = some p ∧ given[i]? = some offer ∧
    p.Refuses width offer e ∧
    ∀ j < i, ∀ q other, params[j]? = some q → given[j]? = some other →
      ∃ v stored, other = some v ∧ q.type.toStorage v = .ok stored

/-! ## Records -/

theorem Param.pick_eq_ok {p : Param} {record : List Value} {stored : Value} :
    p.pick record = .ok stored ↔
      ∃ v, record[p.index]? = some v ∧ p.type.toStorage v = .ok stored := by
  rw [pick_eq_take, take_eq_ok]

/-- The value of a record for a parameter in its stored form, or null where there is none. -/
def storedIn (record : List Value) (p : Param) : Value :=
  match p.pick record with
  | .ok stored => stored
  | .error _ => .null

theorem storedIn_of_pick {record : List Value} {p : Param} {stored : Value}
    (picked : p.pick record = .ok stored) : storedIn record p = stored := by
  rw [storedIn, picked]

/-- A record is bound exactly if every parameter can pick its value, and to the values in their
stored form. -/
theorem bindRecord_eq_ok {st : Statement} {record : List Value} {b : Bound} :
    st.bindRecord record = .ok b ↔
      (∀ p ∈ st.params, p.pick record = .ok (storedIn record p)) ∧
        ⟨st.sql, st.params.map (storedIn record)⟩ = b := by
  rw [Statement.bindRecord, bind_eq_ok]
  simp only [mapM_eq_ok_map fun _ _ => storedIn_of_pick, pure, Except.pure, Except.ok.injEq]
  constructor
  · rintro ⟨_, ⟨each, rfl⟩, rfl⟩
    exact ⟨each, rfl⟩
  · rintro ⟨each, rfl⟩
    exact ⟨_, ⟨each, rfl⟩, rfl⟩

/-- A record is bound exactly if every column that the statement binds has a value in it, and one
that the column can store. -/
theorem exists_bindRecord_iff (st : Statement) (record : List Value) :
    (∃ b, st.bindRecord record = .ok b) ↔
      ∀ p ∈ st.params, ∃ v stored, record[p.index]? = some v ∧ p.type.toStorage v = .ok stored := by
  constructor
  · rintro ⟨b, bound⟩ p member
    obtain ⟨each, -⟩ := bindRecord_eq_ok.mp bound
    obtain ⟨v, found, accepted⟩ := Param.pick_eq_ok.mp (each p member)
    exact ⟨v, _, found, accepted⟩
  · intro each
    refine ⟨_, bindRecord_eq_ok.mpr ⟨fun p member => ?_, rfl⟩⟩
    obtain ⟨v, stored, found, accepted⟩ := each p member
    have picked := Param.pick_eq_ok.mpr ⟨v, found, accepted⟩
    rw [storedIn_of_pick picked]
    exact picked

namespace Statement

variable {st : Statement}

/-! ## What parameters are given -/

/-- Binds what each parameter is given. -/
def bindGiven (st : Statement) (width : Nat) (given : List (Option Value)) :
    Except Error Bound := do
  let values ← (st.params.zip given).mapM fun item => item.1.take width item.2
  return ⟨st.sql, values⟩

/-- The loop fails exactly with the error of the first refusal, by induction on the parameters. -/
theorem bindGiven_eq_error {width : Nat} {given : List (Option Value)} {e : Error} :
    st.bindGiven width given = .error e ↔ FirstRefusal width st.params given e := by
  have loop : st.bindGiven width given = .error e ↔
      (st.params.zip given).mapM (fun item => item.1.take width item.2) = .error e := by
    rw [bindGiven, bind_eq_error]
    exact or_iff_left (by rintro ⟨_, _, impossible⟩; contradiction)
  rw [loop, mapM_eq_error]
  constructor
  · rintro ⟨i, ⟨p, offer⟩, atItem, failed, before⟩
    obtain ⟨atParams, atGiven⟩ := List.getElem?_zip_eq_some.mp atItem
    refine ⟨i, p, offer, atParams, atGiven, Param.take_eq_error.mp failed, ?_⟩
    intro j below q other atQ atOther
    obtain ⟨stored, taken⟩ :=
      before j below (q, other) (List.getElem?_zip_eq_some.mpr ⟨atQ, atOther⟩)
    obtain ⟨v, present, stores⟩ := Param.take_eq_ok.mp taken
    exact ⟨v, stored, present, stores⟩
  · rintro ⟨i, p, offer, atParams, atGiven, refuses, before⟩
    refine ⟨i, (p, offer), List.getElem?_zip_eq_some.mpr ⟨atParams, atGiven⟩,
      Param.take_eq_error.mpr refuses, ?_⟩
    intro j below item atItem
    obtain ⟨atQ, atOther⟩ := List.getElem?_zip_eq_some.mp atItem
    obtain ⟨v, stored, present, stores⟩ := before j below _ _ atQ atOther
    exact ⟨stored, Param.take_eq_ok.mpr ⟨v, present, stores⟩⟩

/-- What a record gives the parameters. -/
def givenBy (st : Statement) (record : List Value) : List (Option Value) :=
  st.params.map fun p => record[p.index]?

/-- Binding a record is binding what it gives. -/
theorem bindRecord_eq_bindGiven (record : List Value) :
    st.bindRecord record = st.bindGiven record.length (st.givenBy record) := by
  have items : st.params.zip (st.givenBy record) =
      st.params.map fun p => (p, record[p.index]?) := by
    simpa [givenBy] using
      List.zip_map' (f := fun p : Param => p) (g := fun p => record[p.index]?) (l := st.params)
  have loop : (st.params.zip (st.givenBy record)).mapM
        (fun item => item.1.take record.length item.2) = st.params.mapM (·.pick record) := by
    rw [items, List.mapM_map]
    refine congrArg st.params.mapM (funext fun p => ?_)
    exact (p.pick_eq_take record).symm
  rw [bindRecord, bindGiven, loop]

/-- Binding values is binding each of them, if there is one for every parameter. -/
theorem bind_eq_bindGiven {values : List Value} (count : values.length = st.params.length)
    (width : Nat) : st.bind values = st.bindGiven width (values.map some) := by
  have loop : (st.params.zip (values.map some)).mapM (fun item => item.1.take width item.2) =
      (st.params.zip values).mapM fun item => item.1.toStorage item.2 := by
    rw [List.zip_map_right, List.mapM_map]
    rfl
  rw [bind, if_neg (not_not.mpr count), bindGiven, loop]

/-- A record that is long enough gives every parameter a value. -/
theorem givenBy_eq_map_some {record : List Value}
    (inRange : ∀ p ∈ st.params, p.index < record.length) :
    st.givenBy record =
      (st.params.pmap (fun p (below : p.index < record.length) => record[p.index]) inRange).map
        some := by
  rw [givenBy, List.map_pmap, ← List.pmap_eq_map inRange]
  refine List.pmap_congr_left _ ?_
  intro p _ below _
  exact List.getElem?_eq_getElem below

/-- The two ways of binding agree. A record that has a value for each parameter is bound as the
values that the parameters pick from it. One that has not is not bound. And binding fails in either
way exactly with the error of the first parameter, in their order, that is given no value or one
that can not be stored. -/
theorem bindings_agree (st : Statement) (record : List Value) :
    (∀ inRange : ∀ p ∈ st.params, p.index < record.length,
      st.bindRecord record = st.bind
        (st.params.pmap (fun p (below : p.index < record.length) => record[p.index]) inRange)) ∧
      ((∃ p ∈ st.params, record.length ≤ p.index) → ∃ e, st.bindRecord record = .error e) ∧
      (∀ e, st.bindRecord record = .error e ↔
        FirstRefusal record.length st.params (st.params.map fun p => record[p.index]?) e) ∧
      ∀ values : List Value, values.length = st.params.length → ∀ width e,
        st.bind values = .error e ↔ FirstRefusal width st.params (values.map some) e := by
  refine ⟨?_, ?_, ?_, ?_⟩
  · intro inRange
    rw [bindRecord_eq_bindGiven, givenBy_eq_map_some inRange,
      bind_eq_bindGiven List.length_pmap record.length]
  · rintro ⟨p, member, outside⟩
    refine exists_error_iff.mpr ?_
    intro bound
    obtain ⟨v, -, given, -⟩ := (exists_bindRecord_iff st record).mp bound p member
    obtain ⟨below, -⟩ := List.getElem?_eq_some_iff.mp given
    omega
  · intro e
    rw [bindRecord_eq_bindGiven, bindGiven_eq_error, givenBy]
  · intro values count width e
    rw [bind_eq_bindGiven count width, bindGiven_eq_error]

/-- A statement whose first parameter is for the second column of a table. -/
def swapped : Statement :=
  ⟨"UPDATE \"t\" SET \"b\" = $1 WHERE \"a\" = $2;",
    [⟨1, "b", .int .u8, false⟩, ⟨0, "a", .bool, false⟩]⟩

/-- Of two values that can not be stored, the first by the order of the parameters is reported. -/
theorem bindings_agree_swapped :
    swapped.bindRecord [.text "x", .bool true] = swapped.bind [.bool true, .text "x"] ∧
      swapped.bindRecord [.text "x", .bool true] =
        .error (.conversion ⟨"u8", .inColumn "b" (.cannotStore .bool)⟩) ∧
      ∃ e, swapped.bindRecord [.text "x"] = .error e := by
  obtain ⟨same, -, refusals, -⟩ := bindings_agree swapped [.text "x", .bool true]
  obtain ⟨-, short, -, -⟩ := bindings_agree swapped [.text "x"]
  have inRange : ∀ p ∈ swapped.params,
      p.index < [Value.text "x", Value.bool true].length := by decide
  refine ⟨same inRange, (refusals _).mpr ?_, short ⟨_, List.mem_cons_self, by decide⟩⟩
  have refuses : Param.Refuses 2 ⟨1, "b", .int .u8, false⟩ (some (.bool true))
      (.conversion ⟨"u8", .inColumn "b" (.cannotStore .bool)⟩) := Param.take_eq_error.mp rfl
  refine ⟨0, _, some (.bool true), rfl, rfl, refuses, ?_⟩
  intro j below
  contradiction

end Statement

end TableSql
