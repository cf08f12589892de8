import CommandShell.Assoc
import CommandShell.Number.Decimal

/-!
# JSON values

A value keeps the members of an object in order. Values that were read have their members sorted
by name, each name once.

    field? v name = the member of v with that name
-/

namespace CommandShell

/-- A number is whole, within 64 bits, or floating point. -/
inductive Json.Number where
  | integer (n : Int)
  | float (x : Float)

inductive Json where
  | null
  | bool (b : Bool)
  | number (n : Json.Number)
  | string (s : String)
  | array (items : List Json)
  | object (members : List (String × Json))

namespace Json

instance : Inhabited Json := ⟨.null⟩

/-- A record: named values, sorted by name. -/
abbrev Record := List (String × Json)

def ofNat (n : Nat) : Json :=
  .number (.integer n)

def ofInt (n : Int) : Json :=
  .number (.integer n)

/-- A text, or null for none. -/
def ofOption (s : Option String) : Json :=
  (s.map Json.string).getD .null

/-- The member of a given name, for an object. -/
def field? (v : Json) (name : String) : Option Json :=
  match v with
  | .object ms => Assoc.find? name ms
  | _ => none

def array? : Json → Option (List Json)
  | .array items => some items
  | _ => none

def string? : Json → Option String
  | .string s => some s
  | _ => none

end Json
end CommandShell
