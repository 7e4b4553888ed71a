import RecordFile.Tool.Arguments
import RecordFile.Tool.Copy
import RecordFile.Tool.Listing
import RecordFile.Tool.Search
import RecordFile.Tool.Summary

/-! # The program

A failed command ends with 1 and a line about its error, a command line that makes no sense with 2.
-/

namespace RecordFile.Tool

structure Outcome where
  exitCode : Nat
  output : String
  errorLine? : Option String
  files : FileSystem

/-! ## Commands -/

def programName : String := "isamdb"

def release : String := "0.3.0"

def versionText : String :=
  Text.ofLines ["isamdb CLI v" ++ release, "isamdb Core v" ++ release]

def needPath (invocation : Invocation) (name : CommandName) : Except ToolError String :=
  match invocation.path? with
  | some path => .ok path
  | none => .error (.pathRequired name.word)

def needRecordLength (invocation : Invocation) (name : CommandName) :
    Except ToolError UInt16 :=
  match invocation.recordLength? with
  | some recordLength => .ok recordLength
  | none => .error (.recordLengthRequired name.word)

/-- A missing path is told first. -/
def needBoth (invocation : Invocation) (name : CommandName) :
    Except ToolError (String × UInt16) := do
  let path ← needPath invocation name
  let recordLength ← needRecordLength invocation name
  return (path, recordLength)

def Invocation.paths (invocation : Invocation) : List String :=
  match invocation.command with
  | .copy output => invocation.path?.toList ++ [output]
  | _ => invocation.path?.toList

/-- Only a copy changes the files. -/
def Invocation.run (invocation : Invocation) (files : FileSystem) :
    Except ToolError String × FileSystem :=
  match invocation.command with
  | .inspect format =>
    ((needPath invocation .inspect).bind fun path =>
      inspect files path invocation.recordLength? format, files)
  | .dump offset limit? =>
    ((needBoth invocation .dump).bind fun (path, recordLength) =>
      dump files path recordLength offset limit?, files)
  | .find key inHex =>
    ((needBoth invocation .find).bind fun (path, recordLength) =>
      find files path recordLength key inHex, files)
  | .copy output =>
    match needBoth invocation .copy with
    | .ok (path, recordLength) => copy files path recordLength output
    | .error error => (.error error, files)
  | .version => (.ok versionText, files)

/-! ## Outcomes -/

def usageText : String := Text.ofLines
  ["Usage: " ++ programName ++ " [OPTIONS] <COMMAND>",
    "",
    "Commands: " ++ ", ".intercalate (CommandName.all.map CommandName.word)]

def Stop.outcome (files : FileSystem) : Stop → Outcome
  | .misuse => ⟨2, "", none, files⟩
  | .help => ⟨0, usageText, none, files⟩
  | .version => ⟨0, Text.ofLines [programName ++ " " ++ release], none, files⟩

def Outcome.ofResult : Except ToolError String × FileSystem → Outcome
  | (.ok output, files) => ⟨0, output, none, files⟩
  | (.error error, files) => ⟨1, "", some ("Error: " ++ error.shown), files⟩

def runProgram (arguments : List String) (files : FileSystem) : Outcome :=
  match Invocation.ofArguments arguments with
  | .ok invocation => .ofResult (invocation.run files)
  | .error stop => stop.outcome files

end RecordFile.Tool
