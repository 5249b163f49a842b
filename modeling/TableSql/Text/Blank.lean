import TableSql.Text.Ranges

/-!
# Blanks, trimming and words

A blank is a character with the Unicode property `White_Space`. A text is trimmed of blanks at
its ends and split at them into words.

* `trim` drops the longest runs of blanks at both ends, `trimEnd` the one at the end only;
* `words` are the maximal runs of characters that are not blanks, so no word is empty.
-/

namespace TableSql.Text

/-- The characters with the Unicode property `White_Space`. -/
def blanks : Ranges :=
  [(0x9, 0xD), (0x20, 0x20), (0x85, 0x85), (0xA0, 0xA0), (0x1680, 0x1680), (0x2000, 0x200A),
   (0x2028, 0x2029), (0x202F, 0x202F), (0x205F, 0x205F), (0x3000, 0x3000)]

/-- Whether a character is white space. -/
def isBlank (c : Char) : Bool := blanks.has c

/-- Drops the longest run of `p` at the end. -/
def dropEndWhile {α : Type} (p : α → Bool) (xs : List α) : List α :=
  (xs.reverse.dropWhile p).reverse

/-- The text without the characters in `p` at its end. -/
def trimEndOf (p : Char → Bool) (s : String) : String :=
  String.ofList (dropEndWhile p s.toList)

/-- The text without the blanks at its end. -/
def trimEnd (s : String) : String := trimEndOf isBlank s

/-- The text without the blanks at its two ends. -/
def trim (s : String) : String :=
  String.ofList (dropEndWhile isBlank (s.toList.dropWhile isBlank))

/-- The maximal runs of characters that are not blanks. -/
def words : List Char → List (List Char)
  | [] => []
  | c :: cs =>
    if isBlank c then words cs
    else match cs with
      | [] => [[c]]
      | d :: _ =>
        if isBlank d then [c] :: words cs
        else match words cs with
          | [] => [[c]]
          | w :: ws => (c :: w) :: ws

end TableSql.Text
