import CommandShell.Json.Basic

/-!
# JSON texts

    compact v = v on one line without blanks
    pretty v  = v with a line for every item, two blanks deeper inside each bracket

A floating point number has the fewest digits that read back. It is written with a point between
10^-5 and 10^16, and with one digit in front of the point and an exponent elsewhere.
-/

namespace CommandShell.Json

/-! ## Algorithm -/

/-- A control character as an escape of four hexadecimal digits. -/
def controlEscape (c : Char) : String :=
  "\\u00" ++ String.ofList [Nat.digitChar (c.toNat / 16), Nat.digitChar (c.toNat % 16)]

def escapedChar (c : Char) : String :=
  if c = '"' then "\\\""
  else if c = '\\' then "\\\\"
  else if c = '\n' then "\\n"
  else if c = '\r' then "\\r"
  else if c = '\t' then "\\t"
  else if c = '\x08' then "\\b"
  else if c = '\x0c' then "\\f"
  else if c.toNat < 0x20 then controlEscape c
  else c.toString

def stringText (s : String) : String :=
  "\"" ++ String.join (s.toList.map escapedChar) ++ "\""

/-- The decimal `d · 10^p` with a point, at least one digit on each side of it. -/
def pointText (d : Nat) (p : Int) : String :=
  let text := Number.positional d p
  if 0 ≤ p then text ++ ".0" else text

/-- The decimal `d · 10^p` with one digit in front of the point, and an exponent with its sign. -/
def exponentText (d : Nat) (p : Int) : String :=
  let digits := (toString d).toList
  let e : Int := digits.length - 1 + p
  let mantissa := match digits with
    | [] => ""
    | [c] => c.toString
    | c :: rest => c.toString ++ "." ++ String.ofList rest
  mantissa ++ "e" ++ (if e < 0 then "-" else "+") ++ toString e.natAbs

def floatText (x : Float) : String :=
  let sign := if CommandShell.Number.isNegative x then "-" else ""
  let (d, p) := CommandShell.Number.shortest .even (CommandShell.Number.magnitude x)
  let e : Int := (toString d).length - 1 + p
  sign ++ (if -5 ≤ e ∧ e ≤ 15 then pointText d p else exponentText d p)

def numberText : Number → String
  | .integer n => toString n
  | .float x => floatText x

mutual

/-- A value on one line. -/
def compact : Json → String
  | .null => "null"
  | .bool b => if b then "true" else "false"
  | .number n => numberText n
  | .string s => stringText s
  | .array items => "[" ++ String.intercalate "," (compactItems items) ++ "]"
  | .object members => "\x7b" ++ String.intercalate "," (compactMembers members) ++ "\x7d"

def compactItems : List Json → List String
  | [] => []
  | v :: rest => compact v :: compactItems rest

def compactMembers : List (String × Json) → List String
  | [] => []
  | (name, v) :: rest => (stringText name ++ ":" ++ compact v) :: compactMembers rest

end

def indent (depth : Nat) : String :=
  String.ofList (List.replicate (2 * depth) ' ')

/-- Items between brackets, each on a line of its own. -/
def bracketed (opening closing : String) (depth : Nat) (items : List String) : String :=
  if items.isEmpty then opening ++ closing
  else
    opening ++ "\n" ++ String.intercalate ",\n" (items.map (indent (depth + 1) ++ ·)) ++ "\n" ++
      indent depth ++ closing

mutual

/-- A value over several lines, inside `depth` brackets. -/
def prettyAt (depth : Nat) : Json → String
  | .null => "null"
  | .bool b => if b then "true" else "false"
  | .number n => numberText n
  | .string s => stringText s
  | .array items => bracketed "[" "]" depth (prettyItems (depth + 1) items)
  | .object members => bracketed "\x7b" "\x7d" depth (prettyMembers (depth + 1) members)

def prettyItems (depth : Nat) : List Json → List String
  | [] => []
  | v :: rest => prettyAt depth v :: prettyItems depth rest

def prettyMembers (depth : Nat) : List (String × Json) → List String
  | [] => []
  | (name, v) :: rest => (stringText name ++ ": " ++ prettyAt depth v) :: prettyMembers depth rest

end

/-- A value over several lines. -/
def pretty (v : Json) : String :=
  prettyAt 0 v

end CommandShell.Json
