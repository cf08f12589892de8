import CommandShell.Failure
import CommandShell.FileTree
import CommandShell.Settings

/-!
# Files with settings

Settings are looked for at several paths, from the lowest to the highest precedence: the system's,
the user's, the working folder's, the one that the environment names and the one that the command
line names. Paths without a file are passed over, but the command line's has to exist. What a text says
about settings is up to a reader.

    (t.mergePaths read ps).map settings = the settings of ps, each overridden by the later ones
-/

namespace CommandShell

/-- Why settings were not loaded. -/
inductive SettingsError where
  | notFound (path : String)
  | unreadable (path : String) (problem : FileProblem)
  | malformed (path : String)
deriving DecidableEq

namespace SettingsError

def message : SettingsError → String
  | notFound path => "config file not found: " ++ path
  | unreadable path _ => "failed to read config at " ++ path
  | malformed path => "failed to parse JSON in " ++ path

/-- The message and what is behind it. -/
def causes : SettingsError → Causes
  | notFound path => ⟨(notFound path).message, []⟩
  | unreadable path problem => ⟨(unreadable path problem).message, [problem.message]⟩
  | malformed path => ⟨(malformed path).message, ["not the text of settings"]⟩

end SettingsError

/-- Settings files that were found, lowest precedence first. -/
structure LoadedSettings where
  searched : List String
  files : List (String × Settings)

namespace LoadedSettings

/-- All files together, each overridden by the later ones. -/
def settings (l : LoadedSettings) : Settings :=
  (l.files.map (·.2)).foldl Settings.mergedWith {}

def paths (l : LoadedSettings) : List String :=
  l.files.map (·.1)

end LoadedSettings

/-! ## Loading -/

/-- The settings that a text stands for, none for a text that is malformed. -/
abbrev SettingsReader := String → Option Settings

/-- The settings of one file. -/
def FileTree.readSettings (t : FileTree) (read : SettingsReader) (path : String) :
    Except SettingsError Settings :=
  match t.readText path with
  | .error p => .error (.unreadable path p)
  | .ok text =>
    match read text with
    | some s => .ok s
    | none => .error (.malformed path)

/-- The settings of all files among some paths, in order; the first bad file decides the error. -/
def FileTree.collectSettings (t : FileTree) (read : SettingsReader) :
    List String → Except SettingsError (List (String × Settings))
  | [] => .ok []
  | path :: rest =>
    if t.exists? path then
      match t.readSettings read path with
      | .error e => .error e
      | .ok s => (t.collectSettings read rest).map ((path, s) :: ·)
    else t.collectSettings read rest

/-- The files among some paths, to be merged in the order of the paths. -/
def FileTree.mergePaths (t : FileTree) (read : SettingsReader) (paths : List String) :
    Except SettingsError LoadedSettings :=
  (t.collectSettings read paths).map fun files => ⟨paths, files⟩

/-- Where settings are looked for. -/
structure SettingsSources where
  /-- The folder for the user's configuration. -/
  userFolder : Option String := none
  /-- The path that the environment names. -/
  environment : Option String := none
  /-- The path that the command line names. -/
  explicit : Option String := none

namespace SettingsSources

/-- The folder for what belongs to this program, inside the user's. -/
def ownFolder (folder : String) : String :=
  Path.inside folder "cmdshell"

/-- All places but the command line's, lowest precedence first. -/
def standardLocations (s : SettingsSources) : List String :=
  ["/etc/cmdshell/config.json"] ++
    (s.userFolder.map fun folder => Path.inside (ownFolder folder) "config.json").toList ++
    [".cmdshell/config.json"] ++ s.environment.toList

/-- The paths that are looked at whatever the command line says. A path that comes up again is looked
at in its first place only. -/
def standardPaths (s : SettingsSources) : List String :=
  Path.distinct s.standardLocations

/-- The standard paths, then the command line's unless it is one of them already. -/
def searchPaths (s : SettingsSources) : List String :=
  Path.distinct (s.standardPaths ++ s.explicit.toList)

/-- Loads the settings of all sources. -/
def load (s : SettingsSources) (read : SettingsReader) (t : FileTree) : Except SettingsError LoadedSettings :=
  match s.explicit.filter fun path => !t.exists? path with
  | some path => .error (.notFound path)
  | none => t.mergePaths read s.searchPaths

/-- Where the history is kept unless the settings say so. -/
def defaultHistoryPath (s : SettingsSources) : Option String :=
  s.userFolder.map fun folder => Path.inside (ownFolder folder) "history"

end SettingsSources

/-! ## Inspection -/

namespace LoadedSettings

/-- The values that are used, with the defaults filled in. -/
def effective (l : LoadedSettings) : Json :=
  let s := l.settings
  .object [
    ("prompt", .string s.promptText),
    ("stack", .object [
      ("push", .string s.stackTokens.push),
      ("pop", .string s.stackTokens.pop),
      ("clear", .string s.stackTokens.clear)]),
    ("history_enabled", .bool s.historyEnabled),
    ("history_path", .ofOption s.history.path),
    ("history_max_entries", .ofNat s.historyMaxEntries),
    ("cancel_delay_ms", .ofNat s.cancelTiming.delay),
    ("cancel_interval_ms", .ofNat s.cancelTiming.pollInterval),
    ("max_suggestions", .ofNat s.maxSuggestions)]

/-- Where the settings come from, what the files say and what is used. -/
def inspection (l : LoadedSettings) : Json :=
  .object [
    ("searched_paths", .array (l.searched.map .string)),
    ("loaded_paths", .array (l.paths.map .string)),
    ("config", l.settings.json),
    ("effective", l.effective)]

end LoadedSettings

/-- What the greeting tells about the settings. -/
structure SettingsSummary where
  loadedFiles : Nat
  historyPath : Option String
deriving DecidableEq

def LoadedSettings.summary (l : LoadedSettings) : SettingsSummary :=
  ⟨l.files.length, l.settings.history.path⟩

namespace SettingsSummary

/-- The text of an inspection is no JSON. -/
def unreadableMessage : String :=
  "failed to parse config inspection"

/-- The summary of an inspection; what it does not tell counts as nothing. -/
def ofInspection (v : Json) : SettingsSummary where
  loadedFiles := (((v.field? "loaded_paths").bind Json.array?).map List.length).getD 0
  historyPath := ((v.field? "effective").bind (·.field? "history_path")).bind Json.string?

/-- The summary of an inspection's text. -/
def ofText? (text : String) : Option SettingsSummary :=
  (Json.ofText? text).map ofInspection

end SettingsSummary
end CommandShell
