import TableSql.Text.Cased
import TableSql.Text.CaseIgnorable
import TableSql.Text.LowerTable

/-!
# Lower case

The full lower-case form of a text, as Unicode defines it without regard to language.

* Most characters have one small form, or are their own (`capitalRuns`);
* `İ` becomes two characters, a small `i` and a dot above;
* a capital sigma is final, `ς`, when a letter with case stands before it and none after it,
  looking past the characters that case rules ignore; elsewhere it is `σ`.
-/

namespace TableSql.Text

/-- Whether a capital letter lies in the run. -/
def CapitalRun.has (r : CapitalRun) (n : Nat) : Bool :=
  r.first ≤ n && n ≤ r.last && (n - r.first) % r.step == 0

/-- The small form of a character whose small form is one character; others are their own. -/
def lowerOne (c : Char) : Char :=
  match capitalRuns.find? (·.has c.toNat) with
  | some r => Char.ofNat (c.toNat + r.shift).toNat
  | none => c

/-- Whether the first character that case rules do not ignore has case. -/
def startsCased (cs : List Char) : Bool :=
  match cs.dropWhile caseIgnorable.has with
  | [] => false
  | c :: _ => cased.has c

/-- The small sigma between two texts, the one before it read backwards. -/
def lowerSigma (before after : List Char) : Char :=
  if startsCased before && !startsCased after then 'ς' else 'σ'

/-- Lower case of the characters that follow `before`, which is read backwards. -/
def lowerAfter (before : List Char) : List Char → List Char
  | [] => []
  | c :: cs =>
    let small :=
      if c = 'Σ' then [lowerSigma before cs]
      else if c = 'İ' then ['i', '\u0307']
      else [lowerOne c]
    small ++ lowerAfter (c :: before) cs

/-- The lower-case form of a text. -/
def lower (s : String) : String := String.ofList (lowerAfter [] s.toList)

/-- Lower case of the letters `A` to `Z` only. -/
def lowerAscii (s : String) : String := String.ofList (s.toList.map Char.toLower)

end TableSql.Text
