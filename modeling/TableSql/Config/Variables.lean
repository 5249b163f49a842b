/-!
# Variables in a configuration

A text may refer to variables of the environment: a dollar sign before a name in braces stands for
the value of the variable. A value is inserted as it is and not looked at again, and a dollar sign
before anything but a brace stands for itself.

`expand` replaces the references from left to right and stops at the first that it can not replace.
-/

namespace TableSql.Config

/-- A part of a text with references. -/
inductive Part where
  | plain (c : Char)
  | variable (name : String)
  /-- A reference that the text ends in. -/
  | unclosed (name : String)
deriving DecidableEq, Repr

/-- The parts of a text that goes on after `name`: the name of an open reference so far, backwards,
or `none` outside of references. -/
def partsAfter : (name : Option (List Char)) → List Char → List Part
  | none, [] => []
  | some name, [] => [.unclosed (String.ofList name.reverse)]
  | none, '$' :: '\x7b' :: cs => partsAfter (some []) cs
  | none, c :: cs => .plain c :: partsAfter none cs
  | some name, '\x7d' :: cs => .variable (String.ofList name.reverse) :: partsAfter none cs
  | some name, c :: cs => partsAfter (some (c :: name)) cs

/-- The parts of a text. -/
def parts (text : String) : List Part := partsAfter none text.toList

/-- The variables that a text refers to, from left to right. -/
def variableNames (text : String) : List String :=
  (parts text).filterMap fun
    | .variable name => some name
    | _ => none

/-- Why a reference can not be replaced. -/
inductive ExpansionFault where
  | unclosed (name : String)
  | noName
  | unset (name : String)
deriving DecidableEq, Repr

/-- The wording of an expansion fault. -/
def ExpansionFault.message : ExpansionFault → String
  | .unclosed name => "unterminated env var reference: $\x7b" ++ name ++ "\x7d"
  | .noName => "invalid env var reference: $\x7b\x7d"
  | .unset name => "missing env var for config expansion: " ++ name

/-- The text that a part stands for. -/
def Part.text (value? : String → Option String) : Part → Except ExpansionFault String
  | .plain c => .ok c.toString
  | .unclosed name => .error (.unclosed name)
  | .variable name =>
    if name.isEmpty then .error .noName
    else
      match value? name with
      | some value => .ok value
      | none => .error (.unset name)

/-- The text with every reference replaced by the value of its variable. -/
def expand (value? : String → Option String) (text : String) : Except ExpansionFault String := do
  return String.join (← (parts text).mapM (·.text value?))

end TableSql.Config
