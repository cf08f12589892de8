import CommandShell.CommandLine

/-!
# The program

The outermost layer: it reads files, the environment and lines, prints what the library answers, and
waits as long as a command takes.
-/

namespace CommandShell.Program

/-! ## Files -/

/-- What stands at a path on the disk. What is there but cannot be read counts as a folder. -/
def entryOnDisk (path : String) : IO (Option FileEntry) := do
  try
    let bytes ← IO.FS.readBinFile path
    return some (.file bytes.toList)
  catch e =>
    match e with
    | .noFileOrDirectory .. => return none
    | _ => return some .folder

/-- The tree with what stands at a path on the disk. -/
def withDisk (t : FileTree) (path : String) : IO FileTree := do
  match ← entryOnDisk path with
  | none => return t
  | some entry =>
    let t := ((Path.parent? path).map fun folder => (t.makeFolders folder).1).getD t
    match t.locate path with
    | .ok place => return t.put place entry
    | .error _ => return t

/-- The working folder as an empty tree. -/
def workingTree : IO FileTree := do
  let folder := (← IO.currentDir).toString
  return (({ workingFolder := Path.names folder } : FileTree).makeFolders folder).1

/-- Writes a file back to the disk. -/
def saveToDisk (t : FileTree) (path : String) : IO Unit := do
  match Path.parent? path with
  | some "" => pure ()
  | some folder => IO.FS.createDirAll folder
  | none => pure ()
  match t.readBytes path with
  | .ok bytes => IO.FS.writeBinFile path ⟨bytes.toArray⟩
  | .error _ => pure ()

/-! ## Environment -/

/-- The folder for the user's configuration. -/
def userFolder : IO (Option String) := do
  match ← IO.getEnv "XDG_CONFIG_HOME" with
  | some folder => if Path.isAbsolute folder then return some folder
  | none => pure ()
  return ((← IO.getEnv "HOME").filter (· != "")).map (Path.inside · ".config")

def sourcesOf (o : Options) : IO SettingsSources := do
  return ⟨← userFolder, ← IO.getEnv "CMDSHELL_CONFIG", o.config⟩

/-! ## Printing -/

def print (colored : Bool) (e : Event) : IO Unit := do
  match e with
  | .called c args => IO.sleep (UInt32.ofNat (min ((c.handler args).nanos / Number.tenTo 6) (Number.twoTo 32 - 1)))
  | _ => pure ()
  for (channel, line) in e.printed colored do
    match channel with
    | .output => IO.println line
    | .errors => IO.eprintln line

/-- The bytes of the next line of the input, with its end; `line` was read already, backwards. None are
left at the end of input. -/
partial def nextLine (input : IO.FS.Stream) (line : List UInt8) : IO (List UInt8) := do
  match (← input.read 1).toList with
  | [] => return line.reverse
  | c :: _ => if c = 10 then return (c :: line).reverse else nextLine input (c :: line)

def fail (causes : Causes) : IO UInt32 := do
  IO.eprint (ProgramResult.failed causes).errors
  return 1

/-! ## Runs -/

/-- Runs the lines of the input one by one. -/
partial def batch (e : Engine) (prompt : String) (s : Session) (failed : Bool) : IO UInt32 := do
  let line ← nextLine (← IO.getStdin) []
  if line.isEmpty then
    return UInt32.ofNat (ProgramResult.systemCode (BatchRun.exitCode ⟨[], s, .finished failed⟩ failed))
  let r := e.runLines prompt s failed (inputLines line)
  r.events.forM (print false)
  match r.ending with
  | .unreadable => fail ⟨unreadableLineMessage, [FileProblem.notText.message]⟩
  | .crashed message =>
    IO.eprintln message
    return UInt32.ofNat ProgramResult.crashCode
  | .finished failed =>
    if r.session.running then batch e prompt r.session failed
    else return UInt32.ofNat (ProgramResult.systemCode (r.exitCode failed))

/-- Reads lines from a terminal and carries them out, until an exit or the end of input. -/
partial def converse (e : Engine) (o : InteractionOptions) (i : Interaction) :
    IO (Interaction × SessionEnd) := do
  if !i.session.running then return (i, .finished)
  let i := i.beginTurn o
  let q := i.request e o
  IO.print (Editor.plainPrompt q.prompt q.initial)
  (← IO.getStdout).flush
  match Text.decodeBytes (← nextLine (← IO.getStdin) []) with
  | none => return (i, .readFailed FileProblem.notText.message)
  | some typed =>
    match Editor.plainLine q.initial typed with
    | none => return (i, .finished)
    | some line =>
      let (i, step) := i.accept e o line
      (step.map Step.events).getD [] |>.forM (print true)
      match step.bind Step.crash? with
      | some message => return (i, .crashed message)
      | none => converse e o i

/-- A session on a terminal: greeting, lines, and the history saved at the end. -/
def session (sources : SettingsSources) (o : Options) (files : FileTree) (loaded : LoadedSettings) :
    IO UInt32 := do
  let s := loaded.settings
  let store := Shell.historyFile sources s o.noHistory
  let files ← match store with
    | some f => withDisk files f.path
    | none => pure files
  IO.print (endedLines (Shell.greeting s loaded.summary store.isSome))
  let e := Shell.engine s
  let options : InteractionOptions := { prompt := s.promptText, loadedAt := 0, sharesHistory := true }
  let pending := store.bind fun f => (f.load files).toOption
  let (i, ending) ← converse e options { session := e.start Shell.services, pending := pending }
  match ending with
  | .crashed message =>
    IO.eprintln message
    return UInt32.ofNat ProgramResult.crashCode
  | .readFailed message => fail ⟨message, []⟩
  | .finished =>
    match store with
    | some f =>
      try
        saveToDisk (f.save files i.mergePending.history.entries).1 f.path
      catch _ => pure ()
    | none => pure ()
    IO.println ""
    return UInt32.ofNat (ProgramResult.systemCode i.session.exitCode)

def run (o : Options) : IO UInt32 := do
  let sources ← sourcesOf o
  let files ← sources.searchPaths.foldlM withDisk (← workingTree)
  if o.inspectConfig then
    let r := inspect sources files
    IO.print r.output
    IO.eprint r.errors
    return UInt32.ofNat r.exitCode
  match sources.load Settings.ofText? files with
  | .error e => fail e.causes
  | .ok loaded =>
    let e := Shell.engine loaded.settings
    if o.batch || !(← (← IO.getStdin).isTty) then
      batch e loaded.settings.promptText (e.start Shell.services) false
    else session sources o files loaded

end CommandShell.Program

def main (arguments : List String) : IO UInt32 := do
  match CommandShell.Options.parse arguments with
  | .error e =>
    IO.eprint e.text
    return 2
  | .ok o =>
    if o.help then
      IO.print CommandShell.helpText
      return 0
    else CommandShell.Program.run o
