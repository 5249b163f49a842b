import Mathlib.Data.List.Forall2
import TableSql.Proofs.Sql.Reading

/-!
# Reading line by line

SQL text may be put together from parts that end with a line break: no token goes on over it, so the
tokens of the whole are those of the parts (`ReadsLines.append`). A line that begins with `--` adds
none, as long as it is one line (`readsLines_comment`).
-/

namespace TableSql.Sql

/-- A text has no line break. -/
def OneLine (s : String) : Prop := '\n' ∉ s.toList ∧ '\r' ∉ s.toList

instance (s : String) : Decidable (OneLine s) := by
  unfold OneLine
  infer_instance

theorem OneLine.append {s s' : String} (first : OneLine s) (second : OneLine s') :
    OneLine (s ++ s') := by
  unfold OneLine at *
  rw [String.toList_append]
  simp only [List.mem_append, not_or]
  exact ⟨⟨first.1, second.1⟩, first.2, second.2⟩

/-- Texts of one line are one line together if what is between them has no line break. -/
theorem OneLine.intercalate {between : String} (oneLine : OneLine between) {texts : List String}
    (each : ∀ s ∈ texts, OneLine s) : OneLine (between.intercalate texts) := by
  induction texts with
  | nil =>
    rw [String.intercalate_nil]
    decide
  | cons s texts ih =>
    obtain ⟨here, others⟩ := List.forall_mem_cons.mp each
    cases texts with
    | nil => rwa [String.intercalate_singleton]
    | cons s' texts =>
      rw [String.intercalate_cons_cons]
      exact (here.append oneLine).append (ih others)

/-- A text is read as some tokens, and any other may follow it. -/
def ReadsLines (s : String) (ts : List Token) : Prop := Reads s.toList ts .between

variable {s s' sql : String} {ts us : List Token}

theorem tokens?_of_readsLines (reads : ReadsLines s ts) : tokens? s = some ts :=
  tokens?_of_reads reads

/-- A text that any other may follow is read by itself, and so is the one that follows. -/
theorem ReadsLines.append (first : ReadsLines s ts) (second : ReadsLines s' us) :
    ReadsLines (s ++ s') (ts ++ us) := by
  unfold ReadsLines at *
  rw [String.toList_append]
  by_cases empty : s'.toList = []
  · -- Nothing follows, and nothing is read of it.
    rw [empty] at second ⊢
    obtain ⟨_, _, run, closed, rfl⟩ := second
    cases run
    cases closed
    simpa using first
  · exact first.append_free second empty

theorem readsLines_join {texts : List String} {tss : List (List Token)}
    (each : List.Forall₂ ReadsLines texts tss) : ReadsLines (String.join texts) tss.flatten := by
  induction each with
  | nil => exact ⟨[], [], rfl, rfl, rfl⟩
  | cons here _ ih =>
    rw [String.join_cons, List.flatten_cons]
    exact here.append ih

theorem readsLines_empty : ReadsLines "" [] := ⟨[], [], rfl, rfl, rfl⟩

/-- In a comment every character is read over but a line break. -/
theorem run?_comment {cs : List Char} (noFeed : '\n' ∉ cs) (noReturn : '\r' ∉ cs) :
    Mode.comment.run? cs = some ([], .comment) := by
  induction cs with
  | nil => rfl
  | cons c cs ih =>
    rw [List.mem_cons, not_or] at noFeed noReturn
    have stays : Mode.comment.step? c = some ([], .comment) := by
      simp [Mode.step?, Mode.extend?, Ne.symm noFeed.1, Ne.symm noReturn.1]
    rw [Mode.run?_cons, stays, Option.bind_some, ih noFeed.2 noReturn.2]
    rfl

/-- A text that begins with a comment and is all of it but a line break adds no tokens. -/
theorem readsLines_comment {head : String}
    (begins : Mode.between.run? head.toList = some ([], .comment)) (oneLine : OneLine s) :
    ReadsLines (head ++ s ++ "\n") [] := by
  have body := run?_comment oneLine.1 oneLine.2
  have ending : Mode.comment.run? "\n".toList = some ([], .between) := by decide
  have whole := Mode.run?_append (Mode.run?_append begins body) ending
  refine ⟨[], [], ?_, rfl, rfl⟩
  rwa [String.toList_append, String.toList_append]

/-- A line break ends the last token of a text, whatever it is, and adds none. -/
theorem readsLines_of_tokens (read : tokens? sql = some ts) : ReadsLines (sql ++ "\n") ts := by
  unfold tokens? at read
  obtain ⟨⟨ended, last⟩, run, rest⟩ := Option.bind_eq_some_iff.mp read
  obtain ⟨pending, closed, same⟩ := Option.bind_eq_some_iff.mp rest
  obtain rfl : ended ++ pending = ts := Option.some.inj same
  have breaks : last.run? ['\n'] = some (pending, .between) := by
    cases last with
    | comment =>
      obtain rfl : [] = pending := Option.some.inj closed
      rfl
    | inside kind cs => simp [Mode.close?] at closed
    | closing kind cs =>
      have apart : (Mode.closing kind cs).extend? '\n' = none := by cases kind <;> rfl
      rw [Mode.run?_of_extend?_none apart closed]
      simp [Mode.run?, Mode.step?, Mode.extend?, Mode.close?, Mode.start?, isSpace]
    | _ =>
      rw [Mode.run?_of_extend?_none rfl closed]
      simp [Mode.run?, Mode.step?, Mode.extend?, Mode.close?, Mode.start?, isSpace]
  refine ⟨ended ++ pending, [], ?_, rfl, (List.append_nil _).symm⟩
  rw [String.toList_append]
  exact Mode.run?_append run breaks

end TableSql.Sql
