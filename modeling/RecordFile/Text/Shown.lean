/-! # Values shown with their parts

The form in which the program reports an error that ends it: a name, and between braces
the parts by name.
-/

namespace RecordFile.Text

def shownParts (name : String) (parts : List (String × String)) : String :=
  let shown := parts.map fun part => part.1 ++ ": " ++ part.2
  name ++ " \x7b " ++ ", ".intercalate shown ++ " \x7d"

def shownAround (name value : String) : String := name ++ "(" ++ value ++ ")"

end RecordFile.Text
