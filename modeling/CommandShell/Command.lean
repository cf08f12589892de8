import CommandShell.Failure
import CommandShell.Output
import CommandShell.Value

/-!
# Commands and their parameters

A command has a name, parameters in order, a help line and a handler that answers its arguments.
A parameter without a default must be given, unless the registry fills it.

    usage c = the name and, for each parameter that the user sees, its type, name and default
-/

namespace CommandShell

/-! ## Parameters -/

/-- The declared type of a parameter. -/
inductive ParameterType where
  | text
  | integer
  | float
  | boolean
  | enumeration (name : String) (variants : List String)
  /-- A type of the host, for which a converter may be registered under the tag. -/
  | custom (tag : String)
  /-- Filled with the service of a kind; the user neither sees nor sets it. -/
  | injected (kind : Kind) (typeName : String)

namespace ParameterType

/-- The name of the type as the user sees it. -/
def displayName : ParameterType → String
  | text => "string"
  | integer => "int"
  | float => "float"
  | boolean => "bool"
  | enumeration name _ => name
  | custom tag => tag
  | injected _ typeName => typeName

def isBoolean : ParameterType → Bool
  | boolean => true
  | _ => false

def isInjected : ParameterType → Bool
  | injected .. => true
  | _ => false

end ParameterType

/-- Values that a host suggests for a parameter, from its services and what is typed so far. -/
abbrev Provider := Registry → String → List String

structure Parameter where
  name : String
  type : ParameterType
  default : Option Value := none
  provider : Option Provider := none

namespace Parameter

def isInjected (p : Parameter) : Bool :=
  p.type.isInjected

/-- The user has to give a value. -/
def isRequired (p : Parameter) : Bool :=
  p.default.isNone && !p.isInjected

def usage (p : Parameter) : String :=
  match p.default with
  | some v => "(" ++ p.type.displayName ++ " [" ++ p.name ++ "] = " ++ v.text ++ ")"
  | none => "(" ++ p.type.displayName ++ " " ++ p.name ++ ")"

end Parameter

/-! ## Commands -/

/-- What a handler does with its arguments: it may ask the shell to end, at once; after some nanoseconds
it gives an output or fails. -/
structure Response where
  result : Except Causes Output
  exit : Option Int32 := none
  nanos : Nat := 0

structure Command where
  name : String
  params : List Parameter := []
  help : String := ""
  /-- Runs lines whose first token names no command. -/
  isDefault : Bool := false
  handler : Arguments → Response

namespace Command

/-- The place of the parameter with a name, in any case. -/
def paramIndex? (c : Command) (name : String) : Option Nat :=
  c.params.findIdx? fun p => Text.sameName p.name name

/-- The parameters that the user sees. -/
def visibleParams (c : Command) : List Parameter :=
  c.params.filter (!·.isInjected)

/-- The parameters with their places. -/
def places (c : Command) : List (Parameter × Nat) :=
  c.params.zipIdx

/-- The visible parameter that a flag names, with its place. -/
def flagTarget? (c : Command) (name : String) : Option (Parameter × Nat) :=
  (c.places.find? fun t => Text.sameName t.1.name name).filter fun t => !t.1.isInjected

def usage (c : Command) : String :=
  c.name ++ String.join (c.visibleParams.map fun p => " " ++ p.usage)

def entry (c : Command) : CatalogEntry :=
  ⟨c.name, c.help, c.usage⟩

end Command
end CommandShell
