/-!
# One-line renderings of records

A record renders as its name and its fields in order, `Name { field: value }`. An open record shows
only some of its fields and says so with two dots. Lists render in brackets and maps in braces.
-/

namespace Deliberation.Text

/-- Items separated by a comma and a blank. -/
def separated (items : List String) : String := String.intercalate ", " items

/-- Field names with their values. -/
def labelled (fields : List (String × String)) : List String :=
  fields.map fun (label, value) => label ++ ": " ++ value

/-- A record that shows all its fields. -/
def record (name : String) (fields : List (String × String)) : String :=
  name ++ " \x7b " ++ separated (labelled fields) ++ " \x7d"

/-- A record that shows some of its fields. -/
def openRecord (name : String) (fields : List (String × String)) : String :=
  name ++ " \x7b " ++ separated (labelled fields ++ [".."]) ++ " \x7d"

/-- A value wrapped by a name. -/
def wrapped (name value : String) : String := name ++ "(" ++ value ++ ")"

/-- A list of rendered items. -/
def bracketed (items : List String) : String := "[" ++ separated items ++ "]"

/-- A map of rendered keys and values. -/
def braced (entries : List (String × String)) : String :=
  "\x7b" ++ separated (labelled entries) ++ "\x7d"

end Deliberation.Text
