import TableSql.Proofs.Sql.Reading
import TableSql.Statement.Template

/-!
# The tokens of a template

Rendering writes text, and a reader of SQL sees tokens. `Template.tokens` says piece by piece which
tokens these are, and `tokens?_render` that the rendered text reads as just them:

* every text of the template is read by itself;
* a name is one token, whatever its characters;
* a place is the placeholder of a number, which depends on the parameters taken before it.

This needs that no piece extends the last token of the piece before. `WellFormed` says so by looking
at neighbours only: names and places follow a text that ends between tokens, and what follows a
name, a place or a word begins with white space or a symbol. Texts have no placeholders of their
own, so all placeholders are places.
-/

namespace TableSql

open Sql

/-- The token of a placeholder. -/
def PlaceholderStyle.token (style : PlaceholderStyle) (number : Nat) : Token :=
  match style with
  | .numbered => .numbered number
  | .positional => .positional

/-! ## What writing a piece adds -/

namespace Piece

/-- The number of a place for a column after some parameters: the one that the column has already,
or the next. -/
def againNumber (style : PlaceholderStyle) (params : List Param) (p : Param) : Nat :=
  (Template.boundNumber? style params p).getD (params.length + 1)

/-- The text of a piece that is written after some parameters. -/
def sql (style : PlaceholderStyle) (params : List Param) : Piece → String
  | .text s => s
  | .name s => quoteName s
  | .bind _ => Template.placeholder style (params.length + 1)
  | .again p => Template.placeholder style (againNumber style params p)

/-- The parameter that a piece takes after some others, if any. -/
def taken (style : PlaceholderStyle) (params : List Param) : Piece → List Param
  | .text _ | .name _ => []
  | .bind p => [p]
  | .again p => if (Template.boundNumber? style params p).isSome then [] else [p]

/-- The tokens of a piece that is written after some parameters. -/
def tokens (style : PlaceholderStyle) (params : List Param) : Piece → List Token
  | .text s => (tokens? s).getD []
  | .name s => [.name s]
  | .bind _ => [style.token (params.length + 1)]
  | .again p => [style.token (againNumber style params p)]

end Piece

namespace Template

/-- A piece is written as its text and takes its parameter, if it takes one. -/
theorem write_eq (style : PlaceholderStyle) (st : Statement) (piece : Piece) :
    write style st piece =
      ⟨st.sql ++ piece.sql style st.params, st.params ++ piece.taken style st.params⟩ := by
  cases piece with
  | text s => simp [write, Piece.sql, Piece.taken]
  | name name => simp [write, Piece.sql, Piece.taken]
  | bind p => rfl
  | again p =>
    cases known : boundNumber? style st.params p with
    | none => simp [write, writeBind, Piece.sql, Piece.taken, Piece.againNumber, known]
    | some number => simp [write, Piece.sql, Piece.taken, Piece.againNumber, known]

/-- The tokens of a template that is written after some parameters. -/
def tokens (style : PlaceholderStyle) : List Param → Template → List Token
  | _, [] => []
  | params, piece :: t =>
    piece.tokens style params ++ tokens style (params ++ piece.taken style params) t

/-- All parameters after a template that is written after some of them. -/
def allParams (style : PlaceholderStyle) : List Param → Template → List Param
  | params, [] => params
  | params, piece :: t => allParams style (params ++ piece.taken style params) t

section

variable (style : PlaceholderStyle) (params : List Param) (t : Template)

@[simp] theorem tokens_nil : tokens style params [] = [] := rfl

@[simp] theorem tokens_text (s : String) :
    tokens style params (.text s :: t) = (tokens? s).getD [] ++ tokens style params t := by
  rw [tokens, Piece.taken, List.append_nil, Piece.tokens]

@[simp] theorem tokens_name (s : String) :
    tokens style params (.name s :: t) = .name s :: tokens style params t := by
  rw [tokens, Piece.taken, List.append_nil, Piece.tokens, List.singleton_append]

@[simp] theorem tokens_bind (p : Param) :
    tokens style params (.bind p :: t) =
      style.token (params.length + 1) :: tokens style (params ++ [p]) t := rfl

@[simp] theorem tokens_again (p : Param) :
    tokens style params (.again p :: t) =
      style.token (Piece.againNumber style params p) ::
        tokens style (params ++ Piece.taken style params (.again p)) t := rfl

@[simp] theorem allParams_nil : allParams style params [] = params := rfl

@[simp] theorem allParams_text (s : String) :
    allParams style params (.text s :: t) = allParams style params t := by
  rw [allParams, Piece.taken, List.append_nil]

@[simp] theorem allParams_name (s : String) :
    allParams style params (.name s :: t) = allParams style params t := by
  rw [allParams, Piece.taken, List.append_nil]

@[simp] theorem allParams_bind (p : Param) :
    allParams style params (.bind p :: t) = allParams style (params ++ [p]) t := rfl

@[simp] theorem allParams_again (p : Param) :
    allParams style params (.again p :: t) =
      allParams style (params ++ Piece.taken style params (.again p)) t := rfl

end

theorem tokens_append (style : PlaceholderStyle) (params : List Param) (t u : Template) :
    tokens style params (t ++ u) =
      tokens style params t ++ tokens style (allParams style params t) u := by
  induction t generalizing params with
  | nil => rfl
  | cons piece t ih => simp [tokens, allParams, ih]

theorem allParams_append (style : PlaceholderStyle) (params : List Param) (t u : Template) :
    allParams style params (t ++ u) = allParams style (allParams style params t) u := by
  induction t generalizing params with
  | nil => rfl
  | cons piece t ih => simp [allParams, ih]

theorem params_foldl_write (style : PlaceholderStyle) (t : Template) (st : Statement) :
    (t.foldl (write style) st).params = allParams style st.params t := by
  induction t generalizing st with
  | nil => rfl
  | cons piece t ih => rw [List.foldl_cons, ih, write_eq, allParams]

theorem params_render (style : PlaceholderStyle) (t : Template) :
    (render style t).params = allParams style [] t := params_foldl_write style t ⟨"", []⟩

theorem join_cons_cons (between : String) (t u : Template) (rest : List Template) :
    join between (t :: u :: rest) = t ++ .text between :: join between (u :: rest) := by
  simp [join, List.intercalate_cons_cons]

/-! ## Well-formed templates -/

/-- The characters that extend no word, number, placeholder or quoted name. -/
def isSeparator (c : Char) : Bool := isSpace c || isSymbol c

/-- Whether a text may be written: after a name, a place or a word it has to begin with a
separator. -/
def opens (free : Bool) (s : String) : Bool :=
  match s.toList with
  | [] => false
  | c :: _ => free || isSeparator c

/-- Whether a text ends between tokens, or in a word; no other end is good. -/
def endsFree? (s : String) : Option Bool :=
  match Mode.between.run? s.toList with
  | some (_, .between) => some true
  | some (_, .word _) => some false
  | _ => none

/-- Whether no token of a text is a placeholder. -/
def isPlain (s : String) : Bool := ((tokens? s).getD []).all fun t => !t.isPlaceholder

/-- No piece of a template extends the last token of the piece before, and no text has placeholders.
The flag says whether what was written before the template ends between tokens. -/
inductive WellFormed : Bool → Template → Prop
  | nil {free : Bool} : WellFormed free []
  | text {free next : Bool} {s : String} {t : Template} :
      opens free s = true → endsFree? s = some next → isPlain s = true → WellFormed next t →
      WellFormed free (.text s :: t)
  | name {name : String} {t : Template} :
      IsName name → WellFormed false t → WellFormed true (.name name :: t)
  | bind {p : Param} {t : Template} : WellFormed false t → WellFormed true (.bind p :: t)
  | again {p : Param} {t : Template} : WellFormed false t → WellFormed true (.again p :: t)

theorem WellFormed.free {t : Template} (formed : WellFormed false t) {free : Bool} :
    WellFormed free t := by
  cases formed with
  | nil => exact .nil
  | text opening ending plain rest =>
    refine .text ?_ ending plain rest
    unfold opens at opening ⊢
    split at opening
    · contradiction
    · simpa using Or.inr opening

/-- What may follow a name may be added to any template in good form. -/
theorem WellFormed.append {free : Bool} {t u : Template} (first : WellFormed free t)
    (second : WellFormed false u) : WellFormed free (t ++ u) := by
  induction first with
  | nil => exact second.free
  | text opening ending plain _ ih => exact .text opening ending plain ih
  | name isName _ ih => exact .name isName ih
  | bind _ ih => exact .bind ih
  | again _ ih => exact .again ih

/-- Templates in good form are in good form together if what is between them begins with a separator
and ends between tokens. -/
theorem WellFormed.join {between : String} (opening : opens false between = true)
    (ending : endsFree? between = some true) (plain : isPlain between = true)
    {templates : List Template} (each : ∀ t ∈ templates, WellFormed true t) :
    WellFormed true (join between templates) := by
  induction templates with
  | nil => exact .nil
  | cons t rest ih =>
    have restFormed := ih fun u member => each u (List.mem_cons_of_mem t member)
    cases rest with
    | nil => simpa [Template.join] using each t List.mem_cons_self
    | cons u rest =>
      rw [join_cons_cons]
      exact (each t List.mem_cons_self).append (.text opening ending plain restFormed)

/-! ## Reading a rendered template -/

/-- The modes in which a template may go on: between tokens, or before a separator only. -/
def Accepts (free : Bool) (m : Mode) : Prop :=
  if free then m = .between else ∀ c, isSeparator c = true → m.extend? c = none

theorem accepts_between (free : Bool) : Accepts free .between := by
  cases free
  · exact fun c _ => rfl
  · rfl

/-- No word and no number goes on with a separator. -/
theorem not_extends_of_isSeparator {c : Char} (separator : isSeparator c = true) :
    extendsWord c = false ∧ c.isDigit = false := by
  simp only [isSeparator, isSpace, isSymbol, Bool.or_eq_true, decide_eq_true_eq, List.mem_cons,
    List.not_mem_nil, or_false] at separator
  -- Six kinds of white space, then thirteen symbols.
  rcases separator with
    (rfl | rfl | rfl | rfl | rfl | rfl) |
    (rfl | rfl | rfl | rfl | rfl | rfl | rfl | rfl | rfl | rfl | rfl | rfl | rfl) <;> decide

theorem accepts_word (cs : List Char) : Accepts false (.word cs) := by
  intro c separator
  obtain ⟨notWord, -⟩ := not_extends_of_isSeparator separator
  simp [Mode.extend?, notWord]

theorem accepts_parameter (digits : List Char) : Accepts false (.parameter digits) := by
  intro c separator
  obtain ⟨-, noDigit⟩ := not_extends_of_isSeparator separator
  simp [Mode.extend?, noDigit]

theorem accepts_closing (cs : List Char) : Accepts false (.closing .name cs) := by
  intro c separator
  have noQuote : c ≠ Quoted.name.quote := by
    rintro rfl
    exact absurd separator (by decide)
  simp [Mode.extend?, noQuote]

/-- A text of a template that ends well is read as its own tokens. -/
theorem reads_text {s : String} {next : Bool} (ending : endsFree? s = some next) :
    ∃ m, Reads s.toList ((tokens? s).getD []) m ∧ Accepts next m := by
  unfold endsFree? at ending
  split at ending
  · rename_i ended run
    obtain rfl : true = next := Option.some.inj ending
    have reads : Reads s.toList (ended ++ []) .between := ⟨ended, [], run, rfl, rfl⟩
    refine ⟨.between, ?_, rfl⟩
    rw [tokens?_of_reads reads]
    exact reads
  · rename_i ended cs run
    obtain rfl : false = next := Option.some.inj ending
    have reads : Reads s.toList (ended ++ [.word (String.ofList cs)]) (.word cs) :=
      ⟨ended, [.word (String.ofList cs)], run, rfl, rfl⟩
    refine ⟨.word cs, ?_, accepts_word cs⟩
    rw [tokens?_of_reads reads]
    exact reads
  · contradiction

/-- A placeholder after text that ends between tokens is one more token. -/
theorem reads_placeholder (style : PlaceholderStyle) (number : Nat) {sql : String}
    {ts : List Token} (sofar : Reads sql.toList ts .between) :
    ∃ m, Reads (sql ++ placeholder style number).toList (ts ++ [style.token number]) m ∧
      Accepts false m := by
  rw [String.toList_append]
  cases style with
  | numbered =>
    have longer := sofar.append_free (reads_numbered number) (by simp)
    exact ⟨_, longer, accepts_parameter _⟩
  | positional =>
    have longer := sofar.append_free reads_positional (by decide)
    exact ⟨_, longer, accepts_between false⟩

/-- Each piece adds its tokens: the induction is on the template, and carries what was read of the
text so far with the mode in which it may go on. -/
theorem reads_foldl_write (style : PlaceholderStyle) {free : Bool} {t : Template}
    (formed : WellFormed free t) {st : Statement} {ts : List Token} {m : Mode}
    (sofar : Reads st.sql.toList ts m) (accepts : Accepts free m) :
    ∃ last, Reads (t.foldl (write style) st).sql.toList (ts ++ tokens style st.params t) last := by
  induction formed generalizing st ts m with
  | nil => exact ⟨m, by simpa using sofar⟩
  | @text free next s t opening ending _ _ ih =>
    obtain ⟨textMode, textReads, textAccepts⟩ := reads_text ending
    have longer : Reads (st.sql ++ s).toList (ts ++ (tokens? s).getD []) textMode := by
      unfold opens at opening
      split at opening
      · contradiction
      · rename_i c cs split
        rw [String.toList_append, split]
        rw [split] at textReads
        -- A text that starts anywhere follows the mode between tokens; one that starts with a
        -- separator may follow a name, a place or a word.
        refine sofar.append textReads rfl ?_
        cases free with
        | true => rw [show m = .between from accepts]; rfl
        | false => exact accepts c (by simpa using opening)
    obtain ⟨last, reads⟩ := @ih ⟨st.sql ++ s, st.params⟩ _ _ longer textAccepts
    exact ⟨last, by simpa [write] using reads⟩
  | @name s t isName _ ih =>
    obtain rfl : m = .between := accepts
    have longer : Reads (st.sql ++ quoteName s).toList (ts ++ [.name s])
        (.closing .name s.toList) := by
      rw [String.toList_append]
      exact sofar.append_free (reads_quoteName isName) (by simp [quoteName, delimited])
    obtain ⟨last, reads⟩ := @ih ⟨st.sql ++ quoteName s, st.params⟩ _ _ longer
      (accepts_closing s.toList)
    exact ⟨last, by simpa [write] using reads⟩
  | @bind p t _ ih =>
    obtain rfl : m = .between := accepts
    obtain ⟨placeMode, longer, placeAccepts⟩ :=
      reads_placeholder style (st.params.length + 1) sofar
    obtain ⟨last, reads⟩ := @ih (writeBind style st p) _ _ longer placeAccepts
    exact ⟨last, by simpa [write, writeBind] using reads⟩
  | @again p t _ ih =>
    obtain rfl : m = .between := accepts
    obtain ⟨placeMode, longer, placeAccepts⟩ :=
      reads_placeholder style (Piece.againNumber style st.params p) sofar
    -- Whether a parameter is taken is up to `write`: both outcomes write one placeholder.
    have written := write_eq style st (.again p)
    obtain ⟨last, reads⟩ := @ih (write style st (.again p)) _ _ (by rw [written]; exact longer)
      placeAccepts
    rw [written] at reads
    exact ⟨last, by simpa [tokens, Piece.tokens, written] using reads⟩

/-- The rendered text of a template reads as the tokens of its pieces. -/
theorem tokens?_render (style : PlaceholderStyle) {t : Template} (formed : WellFormed true t) :
    tokens? (render style t).sql = some (tokens style [] t) := by
  have start : Reads (Statement.mk "" []).sql.toList [] .between := ⟨[], [], rfl, rfl, rfl⟩
  obtain ⟨last, reads⟩ := reads_foldl_write style formed start rfl
  exact tokens?_of_reads (by simpa [render] using reads)

/-! ## Repeated parts -/

/-- Parts that each take one new parameter: the numbers go on from the parameters before. -/
theorem tokens_join_taking {style : PlaceholderStyle} {part : Param → Template}
    (read : Param → Nat → List Token)
    (each : ∀ params p, tokens style params (part p) = read p (params.length + 1))
    (takes : ∀ params p, allParams style params (part p) = params ++ [p])
    (between : String) (params ps : List Param) :
    tokens style params (join between (ps.map part)) =
        ((tokens? between).getD []).intercalate
          ((ps.zipIdx (params.length + 1)).map fun x => read x.1 x.2) ∧
      allParams style params (join between (ps.map part)) = params ++ ps := by
  induction ps generalizing params with
  | nil => simp [join]
  | cons p ps ih =>
    cases ps with
    | nil => simp [join, each, takes]
    | cons q ps =>
      obtain ⟨tokensRest, paramsRest⟩ := ih (params ++ [p])
      simp only [List.map_cons] at tokensRest paramsRest
      constructor
      · simp only [List.map_cons, join_cons_cons, tokens_append, takes, tokens_text, each,
          tokensRest]
        simp [List.zipIdx_cons, List.intercalate_cons_cons]
      · simp only [List.map_cons, join_cons_cons, allParams_append, takes, allParams_text,
          paramsRest]
        simp

/-- Parts that take no new parameter. -/
theorem tokens_join_idle {α : Type} {style : PlaceholderStyle} {params : List Param} {xs : List α}
    {part : α → Template} (idle : ∀ x ∈ xs, allParams style params (part x) = params)
    (between : String) :
    tokens style params (join between (xs.map part)) =
        ((tokens? between).getD []).intercalate (xs.map fun x => tokens style params (part x)) ∧
      allParams style params (join between (xs.map part)) = params := by
  induction xs with
  | nil => simp [join]
  | cons x xs ih =>
    have here := idle x List.mem_cons_self
    cases xs with
    | nil => simp [join, here]
    | cons y xs =>
      obtain ⟨tokensRest, paramsRest⟩ := ih fun z member => idle z (List.mem_cons_of_mem x member)
      simp only [List.map_cons] at tokensRest paramsRest
      constructor
      · simp only [List.map_cons, join_cons_cons, tokens_append, here, tokens_text, tokensRest]
        simp [List.intercalate_cons_cons]
      · simp only [List.map_cons, join_cons_cons, allParams_append, here, allParams_text,
          paramsRest]

end Template

end TableSql
