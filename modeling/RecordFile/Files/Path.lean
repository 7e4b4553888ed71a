/-! # Paths

Joining only puts texts together. Two paths are compared by their parts, and doubled slashes,
slashes at the end and dots inside are not parts.
-/

namespace RecordFile.Path

/-! ## Texts -/

def splitSlashes : List Char → List (List Char)
  | [] => [[]]
  | c :: rest =>
    if c = '/' then [] :: splitSlashes rest
    else
      match splitSlashes rest with
      | [] => [[c]]
      | first :: others => (c :: first) :: others

def split (path : String) : List String := (splitSlashes path.toList).map String.ofList

def isAbsolute (path : String) : Bool := path.toList.head? == some '/'

/-- An absolute name stands alone. -/
def join (base name : String) : String :=
  if isAbsolute name then name
  else if base = "" ∨ base.toList.getLast? = some '/' then base ++ name
  else base ++ "/" ++ name

/-- A text between slashes that leads nowhere else. -/
def isIdle (text : String) : Bool := text == "" || text == "."

def ofReversed (texts : List String) : String := "/".intercalate texts.reverse

/-- Last text first, and spelled as in the path. -/
def directory (path : String) : List String := ((split path).reverse.dropWhile isIdle).tail

/-- A relative path without the idle texts at its ends. -/
def trimIdle (path : String) : String :=
  if isAbsolute path then path
  else ofReversed (((split path).dropWhile isIdle).reverse.dropWhile isIdle)

/-! ## Parts -/

inductive Part
  | root
  /-- The dot at the beginning of a relative path. -/
  | here
  | up
  | name (text : String)
  deriving DecidableEq, Repr

def Part.ofText? (text : String) : Option Part :=
  if isIdle text then none
  else if text = ".." then some .up
  else some (.name text)

def parts (path : String) : List Part :=
  let texts := split path
  let start : List Part :=
    if isAbsolute path then [.root] else if texts.head? = some "." then [.here] else []
  start ++ texts.filterMap Part.ofText?

def same (a b : String) : Bool := parts a == parts b

def fileName? (path : String) : Option String :=
  match (parts path).getLast? with
  | some (.name text) => some text
  | _ => none

end RecordFile.Path
