import CommandShell.Registry
import CommandShell.Text.Quoted

/-!
# Argument values

The value that a parameter is bound to, how it is shown, and the arguments of a command as values by
parameter name.
-/

namespace CommandShell

inductive Value where
  /-- Neither given nor defaulted. -/
  | absent
  | str (s : String)
  | int (n : Int64)
  | float (x : Float)
  | bool (b : Bool)
  /-- A declared name of an enumeration, as declared. -/
  | enum (name : String)
  /-- An object that a converter of the host made. -/
  | custom (o : Object)
  /-- A service from the registry. -/
  | injected (o : Object)

namespace Value

/-- Values are equal by content, floating point numbers by comparison, objects by identity. -/
def same : Value → Value → Bool
  | absent, absent => true
  | str a, str b => a == b
  | int a, int b => a == b
  | float a, float b => a == b
  | bool a, bool b => a == b
  | enum a, enum b => a == b
  | custom a, custom b => a.identity == b.identity
  | injected a, injected b => a.identity == b.identity
  | _, _ => false

def isAbsent : Value → Bool
  | absent => true
  | _ => false

def boolText (b : Bool) : String :=
  if b then "true" else "false"

/-- A value as it is shown to the user. -/
def text : Value → String
  | absent => "null"
  | str s => s
  | int n => toString n.toInt
  | float x => Number.plainText x
  | bool b => boolText b
  | enum name => name
  | custom _ | injected _ => "<object>"

/-- A value as it is shown in a diagnosis. -/
def diagnosis : Value → String
  | absent => "Absent"
  | str s => "Str(" ++ Text.quoted s ++ ")"
  | int n => "Int(" ++ toString n.toInt ++ ")"
  | float x => "Float(" ++ Number.plainText x ++ ")"
  | bool b => "Bool(" ++ boolText b ++ ")"
  | enum name => "Enum(" ++ name ++ ")"
  | custom _ => "Custom(..)"
  | injected _ => "Injected(..)"

end Value

/-- The arguments of a command: a value for each parameter, in the order of declaration. -/
structure Arguments where
  slots : List (String × Value)

namespace Arguments

def values (a : Arguments) : List Value :=
  a.slots.map (·.2)

/-- The value of the parameter with a name, in any case. -/
def get? (a : Arguments) (name : String) : Option Value :=
  (a.slots.find? fun s => Text.sameName s.1 name).map (·.2)

/-- A text, or a name of an enumeration. -/
def str? (a : Arguments) (name : String) : Option String :=
  match a.get? name with
  | some (.str s) => some s
  | some (.enum s) => some s
  | _ => none

def int? (a : Arguments) (name : String) : Option Int64 :=
  match a.get? name with
  | some (.int n) => some n
  | _ => none

/-- A floating point number; a whole number is one too. -/
def float? (a : Arguments) (name : String) : Option Float :=
  match a.get? name with
  | some (.float x) => some x
  | some (.int n) => some (Number.floatOfInt n.toInt)
  | _ => none

def bool? (a : Arguments) (name : String) : Option Bool :=
  match a.get? name with
  | some (.bool b) => some b
  | _ => none

/-- The content of an object that a converter made. -/
def custom? (a : Arguments) (name : String) : Option Content :=
  match a.get? name with
  | some (.custom o) => some o.content
  | _ => none

/-- The content of the first service of a kind among the arguments. -/
def injected? (a : Arguments) (k : Kind) : Option Content :=
  a.values.findSome? fun v =>
    match v with
    | .injected o => if o.kind = k then some o.content else none
    | _ => none

end Arguments
end CommandShell
