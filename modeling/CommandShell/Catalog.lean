import CommandShell.Text.Case

/-!
# The catalog of commands

What help tells about each command: its name as declared, its help line and the summary of its
parameters. Two lines for each command, the help line in a column of its own.
-/

namespace CommandShell

structure CatalogEntry where
  name : String
  help : String
  usage : String
deriving DecidableEq

abbrev Catalog := List CatalogEntry

/-- A text filled up with spaces to a number of characters. -/
def padRight (n : Nat) (s : String) : String :=
  s ++ String.ofList (List.replicate (n - s.length) ' ')

/-- The entry of a name, in any case. -/
def Catalog.find? (c : Catalog) (name : String) : Option CatalogEntry :=
  List.find? (fun e => Text.sameName e.name name) c

/-- The column in which help lines start. -/
def helpColumn : Nat := 20

/-- All commands with their help; a long name still has a space after it. -/
def Catalog.listing (c : Catalog) : List String :=
  c.flatMap fun e =>
    [padRight (helpColumn - 1) e.name ++ " " ++ e.help, padRight helpColumn "" ++ e.usage]

end CommandShell
