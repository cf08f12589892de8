import CommandShell.Editor.Console
import CommandShell.SettingsFiles
import CommandShell.Transcript

/-!
# The shell

The built-in commands with the settings of the user: a greeting and an interactive session on a
terminal, or a batch run of an input.
-/

namespace CommandShell.Shell

/-! ## Parts -/

/-- The engine that settings ask for. -/
def engine (s : Settings) : Engine where
  table := Builtin.table
  converters := Builtin.converters
  stackTokens := s.stackTokens

/-- The services that commands can ask for. -/
def services : Registry :=
  Registry.ofContents [.users .example]

/-- The file that keeps the history, unless it is turned off. -/
def historyFile (sources : SettingsSources) (s : Settings) (noHistory : Bool) : Option HistoryFile :=
  if noHistory || !s.historyEnabled then none
  else (s.history.path.or sources.defaultHistoryPath).map fun path => ⟨path, s.historyMaxEntries⟩

/-! ## The greeting -/

def boxWidth : Nat := 58

/-- A text cut to a number of characters, with dots at its end if it is longer. -/
def fitText (n : Nat) (s : String) : String :=
  let cs := s.toList
  if cs.length ≤ n then s
  else if n ≤ 3 then Editor.dots n
  else String.ofList (cs.take (n - 3)) ++ Editor.dots 3

def boxRule : String :=
  "+" ++ String.ofList (List.replicate (boxWidth + 2) '-') ++ "+"

/-- A line of the box in a color; the color's codes take no room. -/
def colorLine (code text : String) : String :=
  "| " ++ Builtin.painted code text ++ String.ofList (List.replicate (boxWidth - text.length) ' ') ++ " |"

def boxLine (text : String) : String :=
  "| " ++ padRight boxWidth (fitText boxWidth text) ++ " |"

/-- A numbered line of the box. -/
def stepLine (n : Nat) (text : String) : String :=
  "|  " ++ toString n ++ ") " ++ padRight (boxWidth - 4) (fitText (boxWidth - 4) text) ++ " |"

/-- What the greeting tells about the history. -/
def historyStatus (summary : SettingsSummary) (kept : Bool) : String :=
  if kept then summary.historyPath.getD "default location" else "disabled"

/-- The greeting before the first line. -/
def greeting (s : Settings) (summary : SettingsSummary) (historyKept : Bool) : List String :=
  let tokens := s.stackTokens
  [boxRule,
    colorLine "1;36" "cmdshell interactive shell",
    colorLine "2;37" "type a command, Tab completes, ctrl-c cancels",
    boxRule,
    boxLine ("Config: ok (loaded files: " ++ toString summary.loadedFiles ++ ")"),
    boxLine ("History: " ++ historyStatus summary historyKept),
    boxLine ("Commands: " ++ String.intercalate ", " Builtin.table.names),
    boxRule,
    "| Quick start                                                 |",
    stepLine 0 "help [command]",
    stepLine 1 ("<args> " ++ tokens.push ++ "   push onto the argument stack"),
    stepLine 2 (tokens.pop ++ "  pop   " ++ tokens.clear ++ "  clear"),
    stepLine 3 "exit [code]",
    boxRule,
    ""]

/-! ## Interactive -/

/-- What appears on the terminal. -/
inductive Screen where
  | text (s : String)
  | drawing (d : Editor.Drawing)

/-- What an event of a session shows. -/
def screenOf : SessionEvent Editor.Drawing → Screen
  | .source d => .drawing d
  | .engine e => .text e.shownText
  | .entered _ => .text ""
  | .prefilled _ => .text ""

structure Visit where
  screen : List Screen
  ending : SessionEnd
  exitCode : Int32
  files : FileTree

/-- A session with the settings of some sources, its lines typed as keys. -/
def interactive (sources : SettingsSources) (noHistory : Bool) (width : Nat) (files : FileTree)
    (keys : List Editor.Key) : Except SettingsError Visit :=
  match sources.load Settings.ofText? files with
  | .error e => .error e
  | .ok loaded =>
    let s := loaded.settings
    let store := historyFile sources s noHistory
    let (run, files) := runInteractive (Editor.keySource width s.maxSuggestions) (engine s)
      { prompt := s.promptText, sharesHistory := true } store files ((engine s).start services) {} keys
    let greet := Screen.text (endedLines (greeting s loaded.summary store.isSome))
    .ok ⟨greet :: run.events.map screenOf ++ [.text "\n"], run.ending, run.state.session.exitCode, files⟩

/-! ## Batch -/

/-- A batch run with the settings of some sources. -/
def batch (sources : SettingsSources) (files : FileTree) (input : List UInt8) :
    Except SettingsError BatchRun :=
  match sources.load Settings.ofText? files with
  | .error e => .error e
  | .ok loaded =>
    let s := loaded.settings
    .ok ((engine s).runBatch s.promptText ((engine s).start services) input)

end CommandShell.Shell
