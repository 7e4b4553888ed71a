import RecordFile.Text.Decimal

/-! # Arguments

A command line is a command with options before and after it. It is read from left to right, up to
the first thing that is wrong or that asks for help.
-/

namespace RecordFile.Tool

/-! ## Options and commands -/

inductive OptionName
  | path
  | recordLength
  | verbose
  | help
  | version
  | format
  | limit
  | offset
  | hex
  | output
  deriving DecidableEq, Repr

namespace OptionName

def long : OptionName → String
  | path => "path"
  | recordLength => "record-length"
  | verbose => "verbose"
  | help => "help"
  | version => "version"
  | format => "format"
  | limit => "limit"
  | offset => "offset"
  | hex => "hex"
  | output => "output"

def letter? : OptionName → Option Char
  | path => some 'p'
  | recordLength => some 'r'
  | verbose => some 'v'
  | help => some 'h'
  | version => some 'V'
  | format => some 'f'
  | limit => some 'l'
  | offset => some 'o'
  | hex => none
  | output => some 'o'

def takesValue : OptionName → Bool
  | verbose | help | version | hex => false
  | path | recordLength | format | limit | offset | output => true

def accepts (name : OptionName) (value : String) : Bool :=
  match name with
  | path | output => value ≠ ""
  | recordLength => (Text.readSigned? value).any (· < 0x10000)
  | limit | offset => (Text.readCount? value).any (· < 0x10000000000000000)
  | verbose | help | version | format | hex => true

end OptionName

inductive CommandName
  | inspect
  | dump
  | find
  | copy
  | version
  | help
  deriving DecidableEq, Repr

namespace CommandName

def all : List CommandName := [inspect, dump, find, copy, version, help]

def word : CommandName → String
  | inspect => "inspect"
  | dump => "dump"
  | find => "find"
  | copy => "export"
  | version => "version"
  | help => "help"

def ofWord? (word : String) : Option CommandName := all.find? (·.word == word)

def common : List OptionName := [.path, .recordLength, .verbose, .help]

def ownOptions : CommandName → List OptionName
  | inspect => [.format]
  | dump => [.limit, .offset]
  | find => [.hex]
  | copy => [.output]
  | version | help => []

def wordLimit : CommandName → Nat
  | find | help => 1
  | inspect | dump | copy | version => 0

end CommandName

/-! ## Reading -/

inductive Stop
  | misuse
  | help
  | version
  deriving DecidableEq, Repr

structure Progress where
  command? : Option CommandName := none
  before : List (OptionName × String) := []
  after : List (OptionName × String) := []
  words : List String := []
  /-- An option whose value is the next argument. -/
  waiting? : Option OptionName := none
  /-- Two dashes have been read. -/
  wordsOnly : Bool := false
  deriving DecidableEq, Repr

namespace Progress

def options (progress : Progress) : List OptionName :=
  match progress.command? with
  | none => CommandName.common ++ [.version]
  | some command => CommandName.common ++ command.ownOptions

def given (progress : Progress) : List (OptionName × String) :=
  if progress.command?.isNone then progress.before else progress.after

/-- Each option can be given once on either side. -/
def give (progress : Progress) (name : OptionName) (value : String) : Except Stop Progress :=
  match name with
  | .help => .error .help
  | .version => .error .version
  | _ =>
    if progress.given.any (·.1 == name) || !name.accepts value then .error .misuse
    else if progress.command?.isNone then
      .ok { progress with before := progress.before ++ [(name, value)] }
    else .ok { progress with after := progress.after ++ [(name, value)] }

/-- A letter whose option has a value takes the rest. -/
def giveLetters (progress : Progress) : List Char → Except Stop Progress
  | [] => .ok progress
  | letter :: rest =>
    match progress.options.find? (·.letter? == some letter) with
    | none => .error .misuse
    | some name =>
      if name.takesValue then
        match rest with
        | [] => .ok { progress with waiting? := some name }
        | '=' :: value => progress.give name (String.ofList value)
        | value => progress.give name (String.ofList value)
      else do (← progress.give name "").giveLetters rest

def giveLong (progress : Progress) (text : List Char) : Except Stop Progress :=
  let long := String.ofList (text.takeWhile (· != '='))
  match progress.options.find? (·.long == long), text.dropWhile (· != '=') with
  | none, _ => .error .misuse
  | some name, [] =>
    if name.takesValue then .ok { progress with waiting? := some name }
    else progress.give name ""
  | some name, _ :: value =>
    if name.takesValue then progress.give name (String.ofList value) else .error .misuse

def giveWord (progress : Progress) (word : String) : Except Stop Progress :=
  match progress.command? with
  | none =>
    match CommandName.ofWord? word with
    | some command =>
      if progress.wordsOnly then .error .misuse
      else .ok { progress with command? := some command }
    | none => .error .misuse
  | some command =>
    if progress.words.length < command.wordLimit then
      .ok { progress with words := progress.words ++ [word] }
    else .error .misuse

def take (progress : Progress) (argument : String) : Except Stop Progress :=
  if progress.wordsOnly || progress.command? == some .help then progress.giveWord argument
  else
    -- What looks like an option is no value, but a dash alone is one.
    match argument.toList, progress.waiting? with
    | '-' :: _ :: _, some _ => .error .misuse
    | _, some name => { progress with waiting? := none }.give name argument
    | ['-', '-'], none => .ok { progress with wordsOnly := true }
    | '-' :: '-' :: text, none => progress.giveLong text
    | '-' :: letter :: rest, none => progress.giveLetters (letter :: rest)
    | _, none => progress.giveWord argument

end Progress

/-! ## Invocations -/

inductive Command
  | inspect (format : String)
  | dump (offset : Nat) (limit? : Option Nat)
  | find (key : String) (inHex : Bool)
  | copy (output : String)
  | version
  deriving DecidableEq, Repr

structure Invocation where
  path? : Option String
  recordLength? : Option UInt16
  verbose : Bool
  command : Command
  deriving DecidableEq, Repr

namespace Progress

/-- After the command counts more than before it. -/
def value? (progress : Progress) (name : OptionName) : Option String :=
  (progress.after.lookup name).or (progress.before.lookup name)

def command (progress : Progress) : Except Stop Command :=
  match progress.command?, progress.words with
  | some .inspect, _ => .ok (.inspect ((progress.value? .format).getD "text"))
  | some .dump, _ =>
    .ok (.dump (((progress.value? .offset).bind Text.readCount?).getD 0)
      ((progress.value? .limit).bind Text.readCount?))
  | some .find, [key] => .ok (.find key (progress.value? .hex).isSome)
  | some .copy, _ =>
    match progress.value? .output with
    | some output => .ok (.copy output)
    | none => .error .misuse
  | some .version, _ => .ok .version
  | some .help, [word] =>
    if (CommandName.ofWord? word).isSome then .error .help else .error .misuse
  | some .help, _ => .error .help
  | _, _ => .error .misuse

def finish (progress : Progress) : Except Stop Invocation := do
  if progress.waiting?.isSome then .error .misuse
  else
    let command ← progress.command
    let recordLength? := (progress.value? .recordLength).bind Text.readSigned?
    return {
      path? := progress.value? .path
      recordLength? := recordLength?.map UInt16.ofNat
      verbose := (progress.value? .verbose).isSome
      command }

end Progress

def Invocation.ofArguments (arguments : List String) : Except Stop Invocation := do
  let progress ← arguments.foldlM Progress.take {}
  progress.finish

end RecordFile.Tool
