import TableSql.Proofs.Statement.Tokens

/-!
# What placeholders stand for

A statement is sent as text and a list of values. `resolve` puts the values back where the text has
placeholders, the way the database does: `$n` is the value of number `n`, and each `?` takes the
next value. `resolveFrom_tokens` says that this finds, at every place of a template, the parameter
that the template asks for there, in either style and after any mix of new and repeated places.

The numbers are written while the list of parameters still grows, so the induction is over the
pieces with the final list fixed: what was taken so far is a prefix of it, and numbers count from
its front.
-/

namespace TableSql

open Sql

/-- A token, or what a placeholder stands for. -/
inductive Item (α : Type) where
  | token (t : Token)
  | value (a : α)
deriving DecidableEq, Repr

/-- The item with its value replaced. -/
def Item.map {α β : Type} (f : α → β) : Item α → Item β
  | .token t => .token t
  | .value a => .value (f a)

namespace Sql

/-- What a token stands for when some of the values are used already, and how many are then. -/
def denote? {α : Type} (xs : List α) (used : Nat) : Token → Option (Item α × Nat)
  | .numbered n => (if n = 0 then none else xs[n - 1]?).map fun a => (.value a, used)
  | .positional => xs[used]?.map fun a => (.value a, used + 1)
  | t => some (.token t, used)

/-- Replaces placeholders by what they stand for when some of the values are used already. -/
def resolveFrom {α : Type} (xs : List α) : Nat → List Token → Option (List (Item α))
  | _, [] => some []
  | used, t :: ts => do
    let (item, next) ← denote? xs used t
    let rest ← resolveFrom xs next ts
    return item :: rest

/-- Replaces every placeholder by what it stands for in a list. -/
def resolve {α : Type} (xs : List α) (ts : List Token) : Option (List (Item α)) :=
  resolveFrom xs 0 ts

/-- What a token stands for does not depend on what the values are. -/
theorem denote?_map {α β : Type} (f : α → β) (xs : List α) (used : Nat) (t : Token) :
    denote? (xs.map f) used t = (denote? xs used t).map fun here => (here.1.map f, here.2) := by
  cases t with
  | numbered n =>
    by_cases zero : n = 0
    · simp [denote?, zero]
    · cases found : xs[n - 1]? <;> simp [denote?, zero, found, Item.map]
  | positional => cases found : xs[used]? <;> simp [denote?, found, Item.map]
  | word | name | text | number | symbol => rfl

theorem resolveFrom_cons {α : Type} {xs : List α} {used next : Nat} {t : Token} {item : Item α}
    (here : denote? xs used t = some (item, next)) (ts : List Token) :
    resolveFrom xs used (t :: ts) = (resolveFrom xs next ts).map (item :: ·) := by
  rw [resolveFrom, here]
  cases h : resolveFrom xs next ts <;> simp [h]

/-- Neither does what the tokens stand for together: values may be replaced before or after. -/
theorem resolveFrom_map {α β : Type} (f : α → β) (xs : List α) (used : Nat) (ts : List Token) :
    resolveFrom (xs.map f) used ts = (resolveFrom xs used ts).map (List.map (Item.map f)) := by
  induction ts generalizing used with
  | nil => rfl
  | cons t ts ih =>
    cases here : denote? xs used t with
    | none => simp [resolveFrom, denote?_map, here]
    | some step =>
      obtain ⟨item, next⟩ := step
      have mapped : denote? (xs.map f) used t = some (item.map f, next) := by
        rw [denote?_map, here, Option.map_some]
      rw [resolveFrom_cons mapped, resolveFrom_cons here, ih]
      cases resolveFrom xs next ts <;> rfl

theorem denote?_of_not_isPlaceholder {α : Type} (xs : List α) (used : Nat) {t : Token}
    (plain : t.isPlaceholder = false) : denote? xs used t = some (.token t, used) := by
  cases t with
  | numbered | positional => exact absurd plain (by simp [Token.isPlaceholder])
  | word | name | text | number | symbol => rfl

/-- Tokens without placeholders stay as they are. -/
theorem resolveFrom_plain {α : Type} (xs : List α) (used : Nat) (plain ts : List Token)
    (noPlaceholder : ∀ t ∈ plain, t.isPlaceholder = false) :
    resolveFrom xs used (plain ++ ts) =
      (resolveFrom xs used ts).map (plain.map Item.token ++ ·) := by
  induction plain with
  | nil => simp
  | cons t plain ih =>
    have rest := ih fun u member => noPlaceholder u (List.mem_cons_of_mem t member)
    have here := denote?_of_not_isPlaceholder xs used (noPlaceholder t List.mem_cons_self)
    rw [List.cons_append, resolveFrom_cons here, rest]
    cases resolveFrom xs used ts <;> simp

end Sql

namespace Template

/-- A template with each place as the parameter that it asks for. -/
def items : Template → List (Item Param)
  | [] => []
  | .text s :: t => ((tokens? s).getD []).map .token ++ items t
  | .name s :: t => .token (.name s) :: items t
  | .bind p :: t | .again p :: t => .value p :: items t

theorem items_append (t u : Template) : items (t ++ u) = items t ++ items u := by
  induction t with
  | nil => rfl
  | cons piece t ih => cases piece <;> simp [items, ih]

/-- Parts that are joined have their items one after the other, with what is read between them. -/
theorem items_join (between : String) (templates : List Template) :
    items (join between templates) =
      (((tokens? between).getD []).map Item.token).intercalate (templates.map items) := by
  induction templates with
  | nil => rfl
  | cons t rest ih =>
    cases rest with
    | nil => simp [join]
    | cons u rest =>
      rw [join_cons_cons, items_append, items, ih]
      simp [List.intercalate_cons_cons]

/-- The parameters that the places of a template ask for. -/
def places : Template → List Param
  | [] => []
  | .text _ :: t | .name _ :: t => places t
  | .bind p :: t | .again p :: t => p :: places t

theorem places_append (t u : Template) : places (t ++ u) = places t ++ places u := by
  induction t with
  | nil => rfl
  | cons piece t ih => cases piece <;> simp [places, ih]

/-- Parameters are only ever added at the end. -/
theorem prefix_allParams (style : PlaceholderStyle) (params : List Param) (t : Template) :
    params <+: allParams style params t := by
  induction t generalizing params with
  | nil => exact List.prefix_rfl
  | cons piece t ih =>
    have longer := ih (params ++ piece.taken style params)
    exact (List.prefix_append params (piece.taken style params)).trans longer

/-- Each parameter of a template was there before or is asked for by one of its places. -/
theorem mem_allParams {style : PlaceholderStyle} {params : List Param} {t : Template} {p : Param}
    (member : p ∈ allParams style params t) : p ∈ params ∨ p ∈ places t := by
  induction t generalizing params with
  | nil => exact .inl member
  | cons piece t ih =>
    rcases ih member with before | after
    · rcases List.mem_append.mp before with old | new
      · exact .inl old
      · cases piece with
        | text s => exact absurd new List.not_mem_nil
        | name s => exact absurd new List.not_mem_nil
        | bind q => exact .inr (List.mem_cons.mpr (.inl (List.mem_singleton.mp new)))
        | again q =>
          simp only [Piece.taken] at new
          split at new
          · exact absurd new List.not_mem_nil
          · exact .inr (List.mem_cons.mpr (.inl (List.mem_singleton.mp new)))
    · cases piece with
      | text s => exact .inr after
      | name s => exact .inr after
      | bind q => exact .inr (List.mem_cons_of_mem q after)
      | again q => exact .inr (List.mem_cons_of_mem q after)

/-- A repeated number is that of a parameter of the same column. -/
theorem index_of_boundNumber? {style : PlaceholderStyle} {params : List Param} {p : Param}
    {number : Nat} (known : boundNumber? style params p = some number) :
    style = .numbered ∧ ∃ i q, number = i + 1 ∧ params[i]? = some q ∧ q.index = p.index := by
  cases style with
  | positional => simp [boundNumber?] at known
  | numbered =>
    simp only [boundNumber?, Option.map_eq_some_iff] at known
    obtain ⟨i, found, rfl⟩ := known
    obtain ⟨below, sameIndex, -⟩ := List.findIdx?_eq_some_iff_getElem.mp found
    exact ⟨rfl, i, params[i], rfl, List.getElem?_eq_getElem below, by simpa using sameIndex⟩

/-- The number of used values before a place: with `?` all that were taken, with `$n` any. -/
theorem denote?_token {style : PlaceholderStyle} {xs : List Param} {used i : Nat} {p : Param}
    (found : xs[i]? = some p) (inOrder : style = .positional → used = i) :
    ∃ next, denote? xs used (style.token (i + 1)) = some (.value p, next) ∧
      (style = .positional → next = i + 1) := by
  cases style with
  | numbered => exact ⟨used, by simp [PlaceholderStyle.token, denote?, found], nofun⟩
  | positional =>
    obtain rfl := inOrder rfl
    exact ⟨used + 1, by simp [PlaceholderStyle.token, denote?, found], fun _ => rfl⟩

/-- A parameter taken once stays at its number. -/
theorem getElem?_allParams (style : PlaceholderStyle) {params : List Param} {i : Nat} {p : Param}
    (found : params[i]? = some p) (t : Template) :
    (allParams style params t)[i]? = some p := by
  obtain ⟨below, rfl⟩ := List.getElem?_eq_some_iff.mp found
  exact List.prefix_iff_getElem?.mp (prefix_allParams style params t) i below

/-- A place for a new parameter denotes it, and the rest goes on after it. -/
theorem resolveFrom_new {style : PlaceholderStyle} {xs : List Param} {used i : Nat} {p : Param}
    {ts : List Token} {rest : List (Item Param)} (found : xs[i]? = some p)
    (inOrder : style = .positional → used = i)
    (after : ∀ next, (style = .positional → next = i + 1) → resolveFrom xs next ts = some rest) :
    resolveFrom xs used (style.token (i + 1) :: ts) = some (.value p :: rest) := by
  obtain ⟨next, here, nextInOrder⟩ := denote?_token found inOrder
  rw [resolveFrom_cons here, after next nextInOrder]
  rfl

/-- At each place stands a placeholder of the parameter that the template asks for there. Columns
at the same position are one parameter, so a repeated number is that of the column itself. -/
theorem resolveFrom_tokens {style : PlaceholderStyle} {columns : List Param}
    (distinct : ∀ p ∈ columns, ∀ q ∈ columns, p.index = q.index → p = q) {free : Bool}
    {t : Template} (formed : WellFormed free t) (asked : ∀ p ∈ places t, p ∈ columns)
    {params : List Param} (known : ∀ p ∈ params, p ∈ columns) {used : Nat}
    (inOrder : style = .positional → used = params.length) :
    resolveFrom (allParams style params t) used (tokens style params t) = some (items t) := by
  induction formed generalizing params used with
  | nil => rfl
  | @text free next s t _ _ plain _ ih =>
    have noPlaceholder : ∀ u ∈ (tokens? s).getD [], u.isPlaceholder = false := by
      intro u member
      simpa using List.all_eq_true.mp plain u member
    have rest := ih asked known inOrder
    rw [tokens_text, allParams_text, resolveFrom_plain _ _ _ _ noPlaceholder, rest]
    rfl
  | @name s t _ _ ih =>
    have rest := ih asked known inOrder
    rw [tokens_name, allParams_name, resolveFrom_cons (denote?_of_not_isPlaceholder _ used rfl),
      rest]
    rfl
  | @bind p t _ ih =>
    obtain ⟨askedHere, askedRest⟩ := List.forall_mem_cons.mp asked
    have knownNext : ∀ q ∈ params ++ [p], q ∈ columns :=
      List.forall_mem_append.mpr ⟨known, by simpa using askedHere⟩
    -- `p` is next after `params`, and stays there whatever the rest of the template takes.
    have found : (allParams style (params ++ [p]) t)[params.length]? = some p :=
      getElem?_allParams style (by simp) t
    rw [tokens_bind, allParams_bind, items]
    exact resolveFrom_new found inOrder fun next nextInOrder =>
      ih askedRest knownNext (by simpa using nextInOrder)
  | @again p t _ ih =>
    obtain ⟨askedHere, askedRest⟩ := List.forall_mem_cons.mp asked
    cases bound : boundNumber? style params p with
    | none =>
      -- As for `bind`: no number stands for this column so far.
      have knownNext : ∀ q ∈ params ++ [p], q ∈ columns :=
        List.forall_mem_append.mpr ⟨known, by simpa using askedHere⟩
      have found : (allParams style (params ++ [p]) t)[params.length]? = some p :=
        getElem?_allParams style (by simp) t
      simp only [tokens, allParams, Piece.taken, Piece.tokens, Piece.againNumber, bound,
        Option.isSome_none, Bool.false_eq_true, if_false, Option.getD_none, List.singleton_append,
        items]
      exact resolveFrom_new found inOrder fun next nextInOrder =>
        ih askedRest knownNext (by simpa using nextInOrder)
    | some number =>
      -- The number is that of a parameter at the same position, and there is only one.
      obtain ⟨rfl, i, q, rfl, atNumber, sameIndex⟩ := index_of_boundNumber? bound
      obtain rfl : q = p :=
        distinct q (known q (List.mem_of_getElem? atNumber)) p askedHere sameIndex
      have found := getElem?_allParams .numbered atNumber t
      have here : denote? (allParams .numbered params t) used (.numbered (i + 1)) =
          some (.value q, used) := by simp [denote?, found]
      have rest := ih askedRest known inOrder
      simp only [tokens, allParams, Piece.taken, Piece.tokens, Piece.againNumber, bound,
        Option.isSome_some, if_true, List.append_nil, Option.getD_some, List.singleton_append]
      rw [PlaceholderStyle.token, resolveFrom_cons here, rest]
      rfl

end Template

end TableSql
