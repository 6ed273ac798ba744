import Conduit.Text.Quoted

/-!
# Inspection texts

The one-line form in which components show their state: the name of the component, then its fields
with their values between braces.
-/

namespace Conduit.Text

/-- `Name { field: value, … }`, or the bare name when there are no fields. -/
def inspectRecord (name : String) (fields : List (String × String)) : String :=
  if fields.isEmpty then name
  else name ++ " \x7b " ++ ", ".intercalate (fields.map fun f ↦ f.1 ++ ": " ++ f.2) ++ " \x7d"

/-- `Name(value)`. -/
def inspectWrapped (name value : String) : String :=
  name ++ "(" ++ value ++ ")"

/-- `None` or `Some(value)`. -/
def inspectOption : Option String → String
  | none => "None"
  | some value => inspectWrapped "Some" value

/-- `[value, …]`. -/
def inspectList (values : List String) : String :=
  "[" ++ ", ".intercalate values ++ "]"

end Conduit.Text
