import RecordFile.Files.Path
import RecordFile.Files.Tree

/-! # A file system of directories and files

There are no links. A path is followed name by name: each place on the way has to be a
directory.
-/

namespace RecordFile

structure FileSystem where
  root : Node
  workingDirectory : Location

namespace FileSystem

def empty (workingDirectory : Location) : FileSystem where
  root := .ofLocation workingDirectory
  workingDirectory

def node? (files : FileSystem) (location : Location) : Option Node := files.root.get? location

def put (files : FileSystem) (location : Location) (node : Node) : FileSystem :=
  { files with root := files.root.put location node }

def erase (files : FileSystem) (location : Location) : FileSystem :=
  { files with root := files.root.erase location }

/-! ## Following a path -/

def maxPathSize : Nat := 4095

def checkText (path : String) : Except FileFault Unit :=
  if path.toList.any (·.toNat == 0) then .error .nulInName
  else if path = "" then .error .missing
  else .ok ()

def checkPath (path : String) : Except FileFault Unit := do
  checkText path
  if maxPathSize < path.utf8ByteSize then .error .nameTooLong

def start (files : FileSystem) (path : String) : Trail :=
  let root : Trail := ⟨files.root, []⟩
  if Path.isAbsolute path then root else files.workingDirectory.foldl Trail.down root

def lookup (files : FileSystem) (path : String) : Except FileFault (Location × Node) := do
  checkPath path
  let trail ← (files.start path).follow (Path.split path)
  match trail.node? with
  | some node => .ok (trail.location, node)
  | none => .error .missing

def isPresent (files : FileSystem) (path : String) : Bool :=
  match files.lookup path with
  | .ok _ => true
  | .error _ => false

def isDirectory (files : FileSystem) (path : String) : Bool :=
  match files.lookup path with
  | .ok (_, .directory _) => true
  | _ => false

/-- Follows a name from a place whose absolute path the system takes. -/
def enterAbsolute (trail : Trail) (name : String) : Except FileFault Trail :=
  if maxPathSize < trail.pathSize + 1 then .error .nameTooLong else trail.enter name

/-- The path may be of any length, but not that of a place on the way. -/
def canonical (files : FileSystem) (path : String) : Except FileFault Location := do
  checkText path
  let trail ← (Path.split path).foldlM enterAbsolute (files.start path)
  if maxPathSize < trail.pathSize then .error .nameTooLong
  else if trail.node?.isNone then .error .missing
  else .ok trail.location

def content? (files : FileSystem) (path : String) : Option Bytes :=
  match files.lookup path with
  | .ok (_, .file content) => some content
  | _ => none

/-! ## Changing the system -/

/-- The names up to its directory, its own name, and whether slashes follow. -/
structure Entry where
  above : List String
  name : String
  slashed : Bool

/-- Slashes at the end are not part of the name. The root is no entry. -/
def entry? (path : String) : Option Entry :=
  let names := Path.split path
  let trimmed := (names.reverse.dropWhile (· == "")).reverse
  trimmed.getLast?.map fun name => ⟨trimmed.dropLast, name, trimmed.length < names.length⟩

def Entry.isDots (entry : Entry) : Bool := entry.name == "." || entry.name == ".."

def makeDirectory (files : FileSystem) (path : String) : Except FileFault FileSystem := do
  checkPath path
  let some entry := entry? path | .error .alreadyExists
  let above ← (files.start path).follow entry.above
  let place ← above.enter entry.name
  if entry.isDots ∨ place.node?.isSome then .error .alreadyExists
  else .ok (files.put place.location (.directory []))

/-- Makes the directory whose path has these texts, last text first, and those above it that
are missing. What was made stays when a later one fails. -/
def makeDirectories (files : FileSystem) : List String → Except FileFault Unit × FileSystem
  | [] => (.ok (), files)
  | text :: above =>
    if Path.isIdle text then files.makeDirectories above
    else
      let path := Path.ofReversed (text :: above)
      match files.makeDirectory path with
      | .ok files => (.ok (), files)
      | .error .missing =>
        match files.makeDirectories above with
        | (.error fault, files) => (.error fault, files)
        | (.ok (), files) =>
          match files.makeDirectory path with
          | .ok files => (.ok (), files)
          | .error fault => (if files.isDirectory path then .ok () else .error fault, files)
      -- A directory that is there already is as good as one that was made.
      | .error fault => (if files.isDirectory path then .ok () else .error fault, files)

def makeDirectoriesAbove (files : FileSystem) (path : String) :
    Except FileFault Unit × FileSystem :=
  files.makeDirectories (Path.directory path)

def truncate (files : FileSystem) (path : String) :
    Except FileFault (Location × FileSystem) := do
  checkPath path
  let some entry := entry? path | .error .isDirectory
  let above ← (files.start path).follow entry.above
  -- The names above must lead to a directory.
  let _ ← above.enter "."
  if entry.slashed ∨ entry.isDots then .error .isDirectory
  else
    let place ← above.enter entry.name
    match place.node? with
    | some (.directory _) => .error .isDirectory
    | _ => .ok (place.location, files.put place.location (.file []))

def writeFile (files : FileSystem) (path : String) (content : Bytes) :
    Except FileFault FileSystem := do
  let (location, files) ← files.truncate path
  .ok (files.put location (.file content))

def removeFile (files : FileSystem) (path : String) : Except FileFault FileSystem := do
  match ← files.lookup path with
  | (_, .directory _) => .error .isDirectory
  | (location, .file _) => .ok (files.erase location)

end FileSystem

end RecordFile
