import CommandShell.Assoc
import CommandShell.Command

/-!
# The table of commands

Commands by lowercase name, in the order of these names, and the name of the default one. A table is
built from a list of commands; the first command that offends against those before it, or in itself,
decides the error.

    get? t n = the command whose name is n in any case
-/

namespace CommandShell

/-! ## Algorithm -/

/-- Why a list of commands is no table. -/
inductive TableError where
  | duplicateCommand (name : String)
  | severalDefaults (first second : String)
  | duplicateParameter (command parameter : String)
deriving DecidableEq

def TableError.message : TableError → String
  | duplicateCommand name => "duplicate command name: " ++ name
  | severalDefaults first second => "more than one default command: " ++ first ++ ", " ++ second
  | duplicateParameter command parameter =>
    "duplicate parameter '" ++ parameter ++ "' in command: " ++ command

/-- Commands by lowercase name, sorted. -/
structure CommandTable where
  entries : List (String × Command) := []
  /-- The lowercase name of the default command. -/
  defaultKey : Option String := none

namespace CommandTable

def get? (t : CommandTable) (name : String) : Option Command :=
  Assoc.find? (Text.lowercase name) t.entries

/-- All commands, in the order of their lowercase names. -/
def commands (t : CommandTable) : List Command :=
  t.entries.map (·.2)

/-- The command for lines that name none. -/
def default? (t : CommandTable) : Option Command :=
  t.defaultKey.bind fun key => Assoc.find? key t.entries

def names (t : CommandTable) : List String :=
  t.commands.map (·.name)

def catalog (t : CommandTable) : Catalog :=
  t.commands.map (·.entry)

/-- The first parameter whose name an earlier one has; `before` are the names in front. -/
def repeatedParameter? (before : List String) : List Parameter → Option Parameter
  | [] => none
  | p :: rest =>
    if before.any (Text.sameName · p.name) then some p else repeatedParameter? (p.name :: before) rest

/-- The table with one more command. A default command is noted before it is entered. -/
def add (t : CommandTable) (c : Command) : Except TableError CommandTable :=
  let key := Text.lowercase c.name
  if (t.get? c.name).isSome then .error (.duplicateCommand c.name)
  else match repeatedParameter? [] c.params with
    | some p => .error (.duplicateParameter c.name p.name)
    | none =>
      if c.isDefault then
        match t.default? with
        | some first => .error (.severalDefaults first.name c.name)
        | none => .ok ⟨Assoc.insert key c t.entries, some key⟩
      else .ok ⟨Assoc.insert key c t.entries, t.defaultKey⟩

/-- The table of some commands, added in order. -/
def build (cs : List Command) : Except TableError CommandTable :=
  cs.foldlM add {}

end CommandTable
end CommandShell
