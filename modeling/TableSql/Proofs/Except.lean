import TableSql.Proofs.Lists

/-!
# Computations that can fail

What a result says about the steps that led to it: a success about all of them, and a failure about
the first that failed.
-/

namespace TableSql

variable {ε α β : Type}

theorem bind_eq_ok {x : Except ε α} {f : α → Except ε β} {b : β} :
    (x >>= f) = .ok b ↔ ∃ a, x = .ok a ∧ f a = .ok b := by
  cases x with
  | error e => simp [bind, Except.bind]
  | ok a => simp [bind, Except.bind]

theorem bind_eq_error {x : Except ε α} {f : α → Except ε β} {e : ε} :
    (x >>= f) = .error e ↔ x = .error e ∨ ∃ a, x = .ok a ∧ f a = .error e := by
  cases x with
  | error e => simp [bind, Except.bind]
  | ok a => simp [bind, Except.bind]

/-- What follows a check happens exactly if the check passes. -/
theorem check_eq_ok {x : Except ε PUnit} {rest : PUnit → Except ε α} {a : α} :
    (x >>= rest) = .ok a ↔ x = .ok ⟨⟩ ∧ rest ⟨⟩ = .ok a := by
  cases x with
  | error e => simp [bind, Except.bind]
  | ok u => simp [bind, Except.bind]

theorem mapError_eq_ok {ε' : Type} {x : Except ε α} {f : ε → ε'} {a : α} :
    x.mapError f = .ok a ↔ x = .ok a := by
  cases x with
  | error e => simp [Except.mapError]
  | ok b => simp [Except.mapError]

theorem mapError_eq_error {ε' : Type} {x : Except ε α} {f : ε → ε'} {e' : ε'} :
    x.mapError f = .error e' ↔ ∃ e, x = .error e ∧ f e = e' := by
  cases x with
  | error e => simp [Except.mapError]
  | ok a => simp [Except.mapError]

/-- Two computations are equal up to what a function tells of their errors if their first steps are,
and what follows them. -/
theorem mapError_bind_congr {ε' : Type} {f : ε → ε'} {x y : Except ε α} {k l : α → Except ε β}
    (first : x.mapError f = y.mapError f) (rest : ∀ a, (k a).mapError f = (l a).mapError f) :
    (x >>= k).mapError f = (y >>= l).mapError f := by
  cases x with
  | error e =>
    obtain ⟨e', rfl, same⟩ := mapError_eq_error.mp first.symm
    show Except.error (f e) = Except.error (f e')
    rw [same]
  | ok a =>
    obtain rfl := mapError_eq_ok.mp first.symm
    exact rest a

/-- Computations that are equal up to what a function tells of their results fail alike, or all of
them succeed. -/
theorem map_eq_map_cases {f : α → β} {x y : Except ε α} (same : x.map f = y.map f) :
    (∃ e, x = .error e ∧ y = .error e) ∨ ∃ a b, x = .ok a ∧ y = .ok b ∧ f a = f b := by
  cases x with
  | error e =>
    cases y with
    | error e' =>
      obtain rfl := Except.error.inj same
      exact .inl ⟨e, rfl, rfl⟩
    | ok b => cases same
  | ok a =>
    cases y with
    | error e => cases same
    | ok b => exact .inr ⟨a, b, rfl, rfl, Except.ok.inj same⟩

theorem error_iff_of_map_eq {f : α → β} {x y : Except ε α} (same : x.map f = y.map f) {e : ε} :
    x = .error e ↔ y = .error e := by
  rcases map_eq_map_cases same with ⟨_, rfl, rfl⟩ | ⟨a, b, rfl, rfl, -⟩
  · exact Iff.rfl
  · exact ⟨nofun, nofun⟩

/-- Computations of two steps agree under `g` if the first steps agree under `f`, and the second
steps do after results that agree. -/
theorem map_bind_congr {γ δ : Type} {f : α → γ} {g : β → δ} {x y : Except ε α}
    {k l : α → Except ε β} (first : x.map f = y.map f)
    (rest : ∀ a b, f a = f b → (k a).map g = (l b).map g) :
    (x >>= k).map g = (y >>= l).map g := by
  rcases map_eq_map_cases first with ⟨e, rfl, rfl⟩ | ⟨a, b, rfl, rfl, alike⟩
  · rfl
  · exact rest a b alike

theorem exists_error_iff {x : Except ε α} : (∃ e, x = .error e) ↔ ¬∃ a, x = .ok a := by
  cases x with
  | error e => simp
  | ok a => simp

/-- A check that fails on a condition lets the rest happen exactly without it. -/
theorem guard_eq_ok {c : Prop} [Decidable c] {e : ε} {rest : PUnit → Except ε α} {a : α} :
    (if c then throw e >>= rest else rest ⟨⟩) = .ok a ↔ ¬c ∧ rest ⟨⟩ = .ok a := by
  by_cases h : c
  · simp [h, throw, throwThe, MonadExceptOf.throw, bind, Except.bind]
  · simp [h]

theorem guard_eq_error {c : Prop} [Decidable c] {e e' : ε} {rest : PUnit → Except ε α} :
    (if c then throw e >>= rest else rest ⟨⟩) = .error e' ↔
      (c ∧ e = e') ∨ (¬c ∧ rest ⟨⟩ = .error e') := by
  by_cases h : c
  · simp [h, throw, throwThe, MonadExceptOf.throw, bind, Except.bind]
  · simp [h]

/-- A list is taken through a computation exactly if each of its items is, to the item at the same
position. -/
theorem mapM_eq_ok {f : α → Except ε β} {xs : List α} {ys : List β} :
    xs.mapM f = .ok ys ↔ List.Forall₂ (fun x y => f x = .ok y) xs ys := by
  induction xs generalizing ys with
  | nil => cases ys <;> simp [pure, Except.pure]
  | cons x xs ih =>
    rw [List.mapM_cons, bind_eq_ok]
    constructor
    · rintro ⟨y, here, rest⟩
      rw [bind_eq_ok] at rest
      obtain ⟨tail, tailOk, equal⟩ := rest
      obtain rfl : y :: tail = ys := Except.ok.inj equal
      exact .cons here (ih.mp tailOk)
    · intro each
      cases each with
      | cons here rest => exact ⟨_, here, bind_eq_ok.mpr ⟨_, ih.mpr rest, rfl⟩⟩

/-- The same for a computation whose result on each item is known if there is one. -/
theorem mapM_eq_ok_map {f : α → Except ε β} {g : α → β} (known : ∀ x y, f x = .ok y → g x = y)
    {xs : List α} {ys : List β} :
    xs.mapM f = .ok ys ↔ (∀ x ∈ xs, f x = .ok (g x)) ∧ xs.map g = ys := by
  rw [mapM_eq_ok]
  constructor
  · intro each
    induction each with
    | nil => simp
    | @cons x y xs ys here _ ih =>
      obtain ⟨rest, rfl⟩ := ih
      obtain rfl := known x y here
      exact ⟨List.forall_mem_cons.mpr ⟨here, rest⟩, rfl⟩
  · rintro ⟨each, rfl⟩
    exact forall₂_map_of_forall each

/-- A list fails with the error of the first of its items that fails. -/
theorem mapM_eq_error {f : α → Except ε β} {xs : List α} {e : ε} :
    xs.mapM f = .error e ↔ ∃ (i : Nat) (x : α), xs[i]? = some x ∧ f x = .error e ∧
      ∀ j < i, ∀ y, xs[j]? = some y → ∃ z, f y = .ok z := by
  induction xs with
  | nil => simp [pure, Except.pure]
  | cons x xs ih =>
    rw [List.mapM_cons, bind_eq_error]
    constructor
    · rintro (here | ⟨y, here, rest⟩)
      · exact ⟨0, x, rfl, here, by simp⟩
      · rcases bind_eq_error.mp rest with later | ⟨ys, -, impossible⟩
        · obtain ⟨i, x', atX, failed, before⟩ := ih.mp later
          refine ⟨i + 1, x', by simpa using atX, failed, ?_⟩
          intro j below y' atY
          cases j with
          | zero =>
            obtain rfl : x = y' := by simpa using atY
            exact ⟨y, here⟩
          | succ j => exact before j (by omega) y' (by simpa using atY)
        · contradiction
    · rintro ⟨i, x', atX, failed, before⟩
      cases i with
      | zero =>
        obtain rfl : x = x' := by simpa using atX
        exact .inl failed
      | succ i =>
        obtain ⟨y, here⟩ := before 0 (by omega) x rfl
        refine .inr ⟨y, here, bind_eq_error.mpr (.inl (ih.mpr ?_))⟩
        refine ⟨i, x', by simpa using atX, failed, ?_⟩
        intro j below y' atY
        exact before (j + 1) (by omega) y' (by simpa using atY)

/-- Two computations take a list to results that are equal up to what a function tells of their
errors if they do so with each of its items. -/
theorem mapError_mapM_congr {ε' : Type} {h : ε → ε'} {f g : α → Except ε β} {xs : List α}
    (each : ∀ x ∈ xs, (f x).mapError h = (g x).mapError h) :
    (xs.mapM f).mapError h = (xs.mapM g).mapError h := by
  induction xs with
  | nil => rfl
  | cons x xs ih =>
    obtain ⟨here, later⟩ := List.forall_mem_cons.mp each
    rw [List.mapM_cons, List.mapM_cons]
    refine mapError_bind_congr here ?_
    intro y
    refine mapError_bind_congr (ih later) ?_
    intro ys
    rfl

/-- A state is taken through the items of a list exactly if each of them passes its check, where the
check does not look at the state. -/
theorem foldlM_eq_ok {f : β → α → Except ε β} {passes : α → Prop} {g : β → α → β}
    (step : ∀ b x b', f b x = .ok b' ↔ passes x ∧ g b x = b') {xs : List α} {b b' : β} :
    xs.foldlM f b = .ok b' ↔ (∀ x ∈ xs, passes x) ∧ xs.foldl g b = b' := by
  induction xs generalizing b with
  | nil => simp [pure, Except.pure]
  | cons x xs ih =>
    rw [List.foldlM_cons, bind_eq_ok, List.forall_mem_cons, List.foldl_cons]
    constructor
    · rintro ⟨middle, here, rest⟩
      obtain ⟨passed, rfl⟩ := (step b x middle).mp here
      obtain ⟨others, last⟩ := ih.mp rest
      exact ⟨⟨passed, others⟩, last⟩
    · rintro ⟨⟨passed, others⟩, last⟩
      exact ⟨g b x, (step b x _).mpr ⟨passed, rfl⟩, ih.mpr ⟨others, last⟩⟩

theorem forM_eq_ok {f : α → Except ε Unit} {xs : List α} :
    xs.forM f = .ok () ↔ ∀ x ∈ xs, f x = .ok () := by
  induction xs with
  | nil => simp [pure, Except.pure]
  | cons x xs ih =>
    show (f x >>= fun _ => xs.forM f) = .ok () ↔ _
    rw [check_eq_ok, List.forall_mem_cons, ih]

theorem exists_mapM_iff {f : α → Except ε β} {xs : List α} :
    (∃ ys, xs.mapM f = .ok ys) ↔ ∀ x ∈ xs, ∃ y, f x = .ok y := by
  simp only [mapM_eq_ok]
  exact exists_forall₂_iff

/-- A list is taken through an optional computation exactly if each of its items is. -/
theorem mapM_eq_some {f : α → Option β} {xs : List α} {ys : List β} :
    xs.mapM f = some ys ↔ List.Forall₂ (fun x y => f x = some y) xs ys := by
  induction xs generalizing ys with
  | nil => cases ys <;> simp
  | cons x xs ih =>
    rw [List.mapM_cons, Option.bind_eq_bind, Option.bind_eq_some_iff]
    constructor
    · rintro ⟨y, here, rest⟩
      obtain ⟨tail, tailSome, equal⟩ := Option.bind_eq_some_iff.mp rest
      obtain rfl : y :: tail = ys := Option.some.inj equal
      exact .cons here (ih.mp tailSome)
    · intro each
      cases each with
      | cons here rest => exact ⟨_, here, Option.bind_eq_some_iff.mpr ⟨_, ih.mpr rest, rfl⟩⟩

end TableSql
