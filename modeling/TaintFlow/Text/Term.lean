/-
Module: TaintFlow.Text.Term
Purpose: Write structured values on one line: a name applied to a value, a name with labelled fields,
  a value that may be missing.
Main exports: Text.applied, Text.labelled, Text.optional
-/

namespace TaintFlow.Text

/-- A name applied to one value: `Name(value)`. -/
def applied (name value : String) : String :=
  name ++ "(" ++ value ++ ")"

/-- A name with labelled fields between braces, as in `Name { label: value, … }`. -/
def labelled (name : String) (fields : List (String × String)) : String :=
  name ++ " \x7b " ++ ", ".intercalate (fields.map fun (label, value) => label ++ ": " ++ value)
    ++ " \x7d"

/-- A value that may be missing: `None` or `Some(value)`. -/
def optional {α : Type} (shown : α → String) : Option α → String
  | none => "None"
  | some value => applied "Some" (shown value)

/-- A truth value in lower case. -/
def truth (value : Bool) : String :=
  if value then "true" else "false"

end TaintFlow.Text
