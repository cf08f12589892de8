import CommandShell.FileTree
import CommandShell.History

/-!
# The history file

One entry on each line. Saving keeps the last entries up to a limit and makes the folder if it is
missing; loading drops blank lines and all but the last of several equal lines.

    load (save es) = the last entries of es, for entries without line ends, blanks and repetitions
-/

namespace CommandShell

/-- Why the history was not loaded or not saved. -/
inductive HistoryFileError where
  | unreadable (path : String) (problem : FileProblem)
  | noFolder (path : String) (problem : FileProblem)
  | unwritable (path : String) (problem : FileProblem)
deriving DecidableEq

def HistoryFileError.message : HistoryFileError → String
  | unreadable path _ => "failed to read history at " ++ path
  | noFolder path _ => "failed to create directory " ++ path
  | unwritable path _ => "failed to write history at " ++ path

structure HistoryFile where
  path : String
  /-- The most entries that are saved. -/
  maxEntries : Nat

namespace HistoryFile

/-- The entries of a text. -/
def entriesOf (text : String) : List String :=
  dedupe (Text.lines text)

/-- Each entry with a line end, the single empty entry as nothing. -/
def textOf (entries : List String) : String :=
  let body := String.intercalate "\n" entries
  if body.isEmpty then "" else body ++ "\n"

/-- The entries of the file; none without a file. -/
def load (f : HistoryFile) (t : FileTree) : Except HistoryFileError (List String) :=
  if t.exists? f.path then
    match t.readText f.path with
    | .ok text => .ok (entriesOf text)
    | .error p => .error (.unreadable f.path p)
  else .ok []

/-- The tree with the folder of the file. -/
def withFolder (f : HistoryFile) (t : FileTree) : FileTree × Option HistoryFileError :=
  match Path.parent? f.path with
  | none => (t, none)
  | some "" => (t, none)
  | some folder =>
    match t.makeFolders folder with
    | (t, some p) => (t, some (.noFolder folder p))
    | (t, none) => (t, none)

/-- Saves entries: the tree afterwards, and what went wrong. -/
def save (f : HistoryFile) (t : FileTree) (entries : List String) : FileTree × Option HistoryFileError :=
  match f.withFolder t with
  | (t, some e) => (t, some e)
  | (t, none) =>
    match t.write f.path (Text.encodeText (textOf (lastEntries f.maxEntries entries))) with
    | .ok t => (t, none)
    | .error p => (t, some (.unwritable f.path p))

end HistoryFile
end CommandShell
