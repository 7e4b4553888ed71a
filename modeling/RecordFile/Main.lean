import RecordFile.Tool.Program

/-! # The program on the system's files

The places that the arguments can lead to are read, and what the program changed there is written
back. No other module touches the system.
-/

namespace RecordFile

/-! ## Places -/

def pathOf (location : Location) : String := "/" ++ "/".intercalate location

def locationOf (path : String) : Location := (Path.split path).filter (· ≠ "")

def nextPlace (location : Location) (name : String) : Location :=
  if name = "" ∨ name = "." then location
  else if name = ".." then location.dropLast
  else location ++ [name]

def placesAlong : Location → List String → List Location
  | location, [] => [location]
  | location, name :: rest => location :: placesAlong (nextPlace location name) rest

/-- Every place that a command line can look at. -/
def placesOf (workingDirectory : Location) (arguments : List String) : List Location :=
  match Tool.Invocation.ofArguments arguments with
  | .error _ => []
  | .ok invocation => invocation.paths.flatMap fun path =>
    placesAlong (if Path.isAbsolute path then [] else workingDirectory) (Path.split path)

/-! ## Reading and writing back -/

def readNode (location : Location) : IO (Option Node) := do
  match ← (IO.FS.readBinFile (pathOf location)).toBaseIO with
  | .ok content => return some (.file content.toList)
  | .error (.noFileOrDirectory ..) => return none
  | .error _ => return some (.directory [])

def readFiles (workingDirectory : Location) (places : List Location) : IO FileSystem := do
  let mut files := FileSystem.empty workingDirectory
  for place in places do
    match ← readNode place, files.node? place with
    | some node, none => files := files.put place node
    | _, _ => pure ()
  return files

def writeContent (location : Location) (content : Bytes) : IO Unit :=
  IO.FS.writeBinFile (pathOf location) ⟨content.toArray⟩

/-- Writes a place out when what stands there has changed. -/
def writeNode (location : Location) (earlier now : Option Node) : IO Unit := do
  match earlier, now with
  | some (.file before), some (.file content) =>
    if content ≠ before then writeContent location content
  | _, some (.file content) => writeContent location content
  | none, some (.directory _) => IO.FS.createDirAll (pathOf location)
  | _, _ => return ()

end RecordFile

open RecordFile in
def main (arguments : List String) : IO UInt32 := do
  let workingDirectory := locationOf (toString (← IO.currentDir))
  let places := placesOf workingDirectory arguments
  let files ← readFiles workingDirectory places
  let outcome := Tool.runProgram arguments files
  for place in places do
    writeNode place (files.node? place) (outcome.files.node? place)
  IO.print outcome.output
  match outcome.errorLine? with
  | some line => IO.eprintln line
  | none => if outcome.exitCode ≠ 0 then IO.eprint Tool.usageText
  return UInt32.ofNat outcome.exitCode
