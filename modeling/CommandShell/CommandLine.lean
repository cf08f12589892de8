import CommandShell.Shell

/-!
# The command line

The options of the program, and what it does for given options, files and input when its input is
no terminal: text on two channels and an exit code.
-/

namespace CommandShell

/-! ## Options -/

structure Options where
  /-- A settings file of the highest precedence. -/
  config : Option String := none
  /-- Run lines from the input instead of a session. -/
  batch : Bool := false
  noHistory : Bool := false
  /-- Show the settings instead of running. -/
  inspectConfig : Bool := false
  help : Bool := false
deriving DecidableEq

/-- Why arguments are refused. -/
inductive UsageError where
  /-- No path, or an empty one, was given for the settings file. -/
  | missingPath
  | unexpected (argument : String)
  /-- A flag takes no value. -/
  | unexpectedValue (flag value : String)
  | repeated (option : String)
deriving DecidableEq

/-- An option that is still open while arguments are read. -/
inductive OpenOption where
  | none
  /-- The next argument may be the path. -/
  | wantsPath
  /-- The path is there but not checked yet. -/
  | hasPath (path : String)
deriving DecidableEq

namespace Options

/-- Sets the path of the settings file. -/
def setPath (o : Options) (path : String) : Except UsageError Options :=
  if o.config.isSome then .error (.repeated "--config <PATH>")
  else if path.isEmpty then .error .missingPath
  else .ok { o with config := some path }

/-- Closes an option that is still open. -/
def close (o : Options) : OpenOption → Except UsageError Options
  | .none => .ok o
  | .wantsPath => .error .missingPath
  | .hasPath path => o.setPath path

def setBatch (o : Options) : Except UsageError Options :=
  if o.batch then .error (.repeated "--batch") else .ok { o with batch := true }

def setNoHistory (o : Options) : Except UsageError Options :=
  if o.noHistory then .error (.repeated "--no-history") else .ok { o with noHistory := true }

def setInspectConfig (o : Options) : Except UsageError Options :=
  if o.inspectConfig then .error (.repeated "--inspect-config") else .ok { o with inspectConfig := true }

/-- A long option, its name and the value after an equals sign. -/
def splitLong (argument : String) : String × Option String :=
  let cs := argument.toList.drop 2
  let name := String.ofList (cs.takeWhile (· != '='))
  match cs.dropWhile (· != '=') with
  | [] => (name, none)
  | _ :: value => (name, some (String.ofList value))

/-- A flag without a value, after the option in front of it is closed. -/
def flag (o : Options) (pending : OpenOption) (name : String) (value : Option String)
    (set : Options → Except UsageError Options) : Except UsageError Options :=
  match value with
  | some v => .error (.unexpectedValue ("--" ++ name) v)
  | none => (o.close pending).bind set

/-- Reads arguments, an option still open. A request for help ends the reading. -/
def parseFrom (o : Options) (pending : OpenOption) : List String → Except UsageError Options
  | [] => o.close pending
  | "--" :: rest =>
    match rest with
    | [] => o.close pending
    | argument :: _ => .error (.unexpected argument)
  | argument :: rest =>
    if "--".toList.isPrefixOf argument.toList then
      match splitLong argument with
      | ("config", some path) =>
        match (o.close pending).bind (·.setPath path) with
        | .error e => .error e
        | .ok o => parseFrom o .none rest
      | ("config", none) =>
        match o.close pending with
        | .error e => .error e
        | .ok o => parseFrom o .wantsPath rest
      | ("batch", value) =>
        match o.flag pending "batch" value setBatch with
        | .error e => .error e
        | .ok o => parseFrom o .none rest
      | ("no-history", value) =>
        match o.flag pending "no-history" value setNoHistory with
        | .error e => .error e
        | .ok o => parseFrom o .none rest
      | ("inspect-config", value) =>
        match o.flag pending "inspect-config" value setInspectConfig with
        | .error e => .error e
        | .ok o => parseFrom o .none rest
      | ("help", value) => o.flag pending "help" value fun o => .ok { o with help := true }
      | _ => .error (.unexpected argument)
    else if argument.toList.head? = some '-' ∧ argument ≠ "-" then
      if argument.toList.take 2 = ['-', 'h'] then
        (o.close pending).map fun o => { o with help := true }
      else .error (.unexpected argument)
    else if pending = .wantsPath then parseFrom o (.hasPath argument) rest
    else .error (.unexpected argument)

/-- The options of some arguments. -/
def parse (arguments : List String) : Except UsageError Options :=
  parseFrom {} .none arguments

end Options

/-! ## Messages -/

def usageLine : String :=
  "Usage: cmdshell [OPTIONS]"

def helpText : String :=
  endedLines [
    "Interactive command shell with argument binding and suggestions", "",
    usageLine, "",
    "Options:",
    "      --config <PATH>   Extra JSON config file, merged last",
    "      --batch           Read commands from stdin and echo each line before running it",
    "      --no-history      Do not load or save input history",
    "      --inspect-config  Print the effective merged config as JSON and exit",
    "  -h, --help            Print help"]

namespace UsageError

def message : UsageError → String
  | missingPath => "a value is required for '--config <PATH>' but none was supplied"
  | unexpected argument => "unexpected argument '" ++ argument ++ "' found"
  | unexpectedValue flag value =>
    "unexpected value '" ++ value ++ "' for '" ++ flag ++ "' found; no more were expected"
  | repeated option => "the argument '" ++ option ++ "' cannot be used multiple times"

/-- The usage is shown as well. -/
def showsUsage : UsageError → Bool
  | missingPath => false
  | _ => true

def text (e : UsageError) : String :=
  endedLines (["error: " ++ e.message, ""] ++ (if e.showsUsage then [usageLine, ""] else []) ++
    ["For more information, try '--help'."])

end UsageError

/-! ## Running -/

/-- What a run of the program leaves behind. -/
structure ProgramResult where
  exitCode : Nat
  output : String := ""
  errors : String := ""
deriving DecidableEq

namespace ProgramResult

/-- A run that broke off, with its causes. -/
def failed (causes : Causes) : ProgramResult :=
  { exitCode := 1, errors := endedLines ["error: " ++ causes.text] }

/-- An exit code as the system keeps it: its lowest eight bits. -/
def systemCode (code : Int32) : Nat :=
  (code.toInt % 256).toNat

/-- The exit code of a program that crashed. -/
def crashCode : Nat := 101

def ofBatch (r : BatchRun) : ProgramResult :=
  let output := printedOn .output r.events
  let errors := printedOn .errors r.events
  match r.ending with
  | .finished failed => ⟨systemCode (r.exitCode failed), output, errors⟩
  | .unreadable =>
    ⟨1, output, errors ++ (failed ⟨unreadableLineMessage, [FileProblem.notText.message]⟩).errors⟩
  | .crashed message => ⟨crashCode, output, errors ++ message ++ "\n"⟩

end ProgramResult

/-- Shows the settings of some sources. -/
def inspect (sources : SettingsSources) (files : FileTree) : ProgramResult :=
  match sources.load Settings.ofText? files with
  | .error e => .failed e.causes
  | .ok loaded => { exitCode := 0, output := loaded.inspection.pretty ++ "\n" }

/-- Runs the program on an input that is no terminal. -/
def runProgram (sources : SettingsSources) (o : Options) (files : FileTree) (input : List UInt8) :
    ProgramResult :=
  let sources := { sources with explicit := o.config }
  if o.help then { exitCode := 0, output := helpText }
  else if o.inspectConfig then inspect sources files
  else match Shell.batch sources files input with
    | .error e => .failed e.causes
    | .ok r => .ofBatch r

end CommandShell
