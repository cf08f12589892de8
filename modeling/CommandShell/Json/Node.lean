import CommandShell.Json.Basic

/-!
# The written form of JSON

A node is what a text says, before it is decided whether its parts have a value: a numeral may be
out of range, and an escape in a string may name no character. A reader that skips a part accepts
the node without asking for its value.

    Node.ofText? s  = the node that all of s is
    Node.value? n   = its value, if every part has one and the brackets are not too deep
-/

namespace CommandShell.Json

/-- A written number: sign, digits before and after the point, exponent with its sign. -/
structure Numeral where
  negative : Bool
  whole : List Char
  places : Option (List Char)
  exponent : Option (Bool × List Char)

inductive Node where
  | null
  | bool (b : Bool)
  | number (n : Numeral)
  /-- A string; none if one of its escapes names no character. -/
  | string (s : Option String)
  | array (items : List Node)
  | object (members : List (Option String × Node))

namespace Node

/-! ## Reading -/

def skipSpace (cs : List Char) : List Char :=
  cs.dropWhile fun c => c == ' ' || c == '\t' || c == '\n' || c == '\r'

def hexValue? (c : Char) : Option Nat :=
  if '0' ≤ c ∧ c ≤ '9' then some (c.toNat - 48)
  else if 'a' ≤ c ∧ c ≤ 'f' then some (c.toNat - 87)
  else if 'A' ≤ c ∧ c ≤ 'F' then some (c.toNat - 55)
  else none

/-- Four hexadecimal digits. -/
def fourHex? : List Char → Option (Nat × List Char)
  | a :: b :: c :: d :: rest => do
    let w ← hexValue? a
    let x ← hexValue? b
    let y ← hexValue? c
    let z ← hexValue? d
    some (4096 * w + 256 * x + 16 * y + z, rest)
  | _ => none

def simpleEscape? : Char → Option Char
  | '"' => some '"'
  | '\\' => some '\\'
  | '/' => some '/'
  | 'b' => some '\x08'
  | 'f' => some '\x0c'
  | 'n' => some '\n'
  | 'r' => some '\r'
  | 't' => some '\t'
  | _ => none

/-- One unit of a string: a character, or a code unit given by its number. -/
inductive StringUnit where
  | char (c : Char)
  | code (n : Nat)

/-- The units of a string up to its closing quote, and what follows. -/
def stringUnits? (read : List StringUnit) : List Char → Option (List StringUnit × List Char)
  | [] => none
  | '"' :: rest => some (read.reverse, rest)
  | '\\' :: 'u' :: a :: b :: c :: d :: rest =>
    match fourHex? [a, b, c, d] with
    | some (n, _) => stringUnits? (.code n :: read) rest
    | none => none
  | '\\' :: c :: rest =>
    match simpleEscape? c with
    | some e => stringUnits? (.char e :: read) rest
    | none => none
  | c :: rest => if c = '\\' ∨ c.toNat < 0x20 then none else stringUnits? (.char c :: read) rest

/-- The text of a string: a pair of code units may name one character, half a pair names none. -/
def unitsText? (read : List Char) : List StringUnit → Option String
  | [] => some (String.ofList read.reverse)
  | .char c :: rest => unitsText? (c :: read) rest
  | .code n :: .code m :: rest =>
    if 0xD800 ≤ n ∧ n ≤ 0xDBFF then
      if 0xDC00 ≤ m ∧ m ≤ 0xDFFF then
        unitsText? (Char.ofNat (0x10000 + (n - 0xD800) * 0x400 + (m - 0xDC00)) :: read) rest
      else none
    else if 0xDC00 ≤ n ∧ n ≤ 0xDFFF then none
    else unitsText? (Char.ofNat n :: read) (.code m :: rest)
  | .code n :: rest => if 0xD800 ≤ n ∧ n ≤ 0xDFFF then none else unitsText? (Char.ofNat n :: read) rest

/-- A string after its opening quote. -/
def string? (cs : List Char) : Option (Option String × List Char) :=
  (stringUnits? [] cs).map fun (units, rest) => (unitsText? [] units, rest)

/-- At least one digit. -/
def digits? (cs : List Char) : Option (List Char × List Char) :=
  let ds := cs.takeWhile Char.isDigit
  if ds.isEmpty then none else some (ds, cs.dropWhile Char.isDigit)

/-- The exponent of a numeral, if there is one. -/
def exponent? : List Char → Option (Option (Bool × List Char) × List Char)
  | c :: rest =>
    if c == 'e' || c == 'E' then
      let (negative, rest) := Number.takeSign rest
      (digits? rest).map fun (ds, rest) => (some (negative, ds), rest)
    else some (none, c :: rest)
  | [] => some (none, [])

/-- A numeral without its sign. No zero stands in front of another digit. -/
def numeral? (negative : Bool) (cs : List Char) : Option (Numeral × List Char) := do
  let (whole, rest) ← digits? cs
  if whole.head? = some '0' ∧ whole.length ≠ 1 then none
  else
    let (places, rest) ← match rest with
      | '.' :: rest => (digits? rest).map fun (ds, rest) => (some ds, rest)
      | rest => some (none, rest)
    let (exponent, rest) ← exponent? rest
    some (⟨negative, whole, places, exponent⟩, rest)

mutual

/-- A node at the front of a text. -/
def node? : Nat → List Char → Option (Node × List Char)
  | 0, _ => none
  | fuel + 1, cs =>
    match skipSpace cs with
    | 'n' :: 'u' :: 'l' :: 'l' :: rest => some (.null, rest)
    | 't' :: 'r' :: 'u' :: 'e' :: rest => some (.bool true, rest)
    | 'f' :: 'a' :: 'l' :: 's' :: 'e' :: rest => some (.bool false, rest)
    | '"' :: rest => (string? rest).map fun (s, rest) => (.string s, rest)
    | '-' :: rest => (numeral? true rest).map fun (n, rest) => (.number n, rest)
    | '[' :: rest =>
      match skipSpace rest with
      | ']' :: rest => some (.array [], rest)
      | rest => (items? fuel rest).map fun (items, rest) => (.array items, rest)
    | '\x7b' :: rest =>
      match skipSpace rest with
      | '\x7d' :: rest => some (.object [], rest)
      | rest => (members? fuel rest).map fun (members, rest) => (.object members, rest)
    | cs => (numeral? false cs).map fun (n, rest) => (.number n, rest)

/-- The items of an array up to its closing bracket; at least one. -/
def items? : Nat → List Char → Option (List Node × List Char)
  | 0, _ => none
  | fuel + 1, cs =>
    match node? fuel cs with
    | none => none
    | some (item, rest) =>
      match skipSpace rest with
      | ',' :: rest => (items? fuel rest).map fun (items, rest) => (item :: items, rest)
      | ']' :: rest => some ([item], rest)
      | _ => none

/-- The members of an object up to its closing bracket; at least one. -/
def members? : Nat → List Char → Option (List (Option String × Node) × List Char)
  | 0, _ => none
  | fuel + 1, cs =>
    match skipSpace cs with
    | '"' :: rest =>
      match string? rest with
      | none => none
      | some (name, rest) =>
        match skipSpace rest with
        | ':' :: rest =>
          match node? fuel rest with
          | none => none
          | some (v, rest) =>
            match skipSpace rest with
            | ',' :: rest => (members? fuel rest).map fun (ms, rest) => ((name, v) :: ms, rest)
            | '\x7d' :: rest => some ([(name, v)], rest)
            | _ => none
        | _ => none
    | _ => none

end

/-- The node that a whole text is. Every step of the reader takes a character or opens an item,
so twice the length of the text is enough fuel. -/
def ofText? (s : String) : Option Node :=
  let cs := s.toList
  match node? (2 * cs.length + 2) cs with
  | some (n, rest) => if (skipSpace rest).isEmpty then some n else none
  | none => none

/-! ## Values of numerals -/

def largest64 : Nat := CommandShell.Number.twoTo 64 - 1

/-- Adds digits to a significand while it fits 64 bits: the significand, and the digits left out. -/
def addDigits (significand : Nat) : List Char → Nat × List Char
  | [] => (significand, [])
  | c :: rest =>
    let n := 10 * significand + (c.toNat - 48)
    if largest64 < n then (significand, c :: rest) else addDigits n rest

/-- The word of the power 10^k. -/
def powerWord (k : Nat) : Nat :=
  Number.nearest (CommandShell.Number.tenTo k) 1

def mulWords (a b : Nat) : Nat :=
  let (p, q) := Number.ratio a
  let (r, s) := Number.ratio b
  Number.nearest (p * r) (q * s)

def divWords (a b : Nat) : Nat :=
  let (p, q) := Number.ratio a
  let (r, s) := Number.ratio b
  Number.nearest (p * s) (q * r)

/-- A magnitude scaled by a power of ten: one rounded product or quotient by a rounded power, after
as many divisions by 10^308 as it takes. No value above the largest finite one. -/
def scale? : Nat → Nat → Int → Option Nat
  | 0, _, _ => some 0
  | fuel + 1, word, e =>
    if e.natAbs ≤ 308 then
      if 0 ≤ e then
        let r := mulWords word (powerWord e.natAbs)
        if r = Number.infinityWord then none else some r
      else some (divWords word (powerWord e.natAbs))
    else if word = 0 then some 0
    else if 0 ≤ e then none
    else scale? fuel (divWords word (powerWord 308)) (e + 308)

/-- The floating point number of a significand and an exponent. -/
def scaled? (negative : Bool) (significand : Nat) (e : Int) : Option Number :=
  (scale? 4 (CommandShell.Number.nearest significand 1) e).map fun w =>
    .float (CommandShell.Number.toFloat negative w)

/-- The number that a numeral stands for: whole numbers within 64 bits are exact, all others are
floating point, built from the digits that fit 64 bits. -/
def number? (n : Numeral) : Option Number :=
  let (whole, overflow) := addDigits 0 n.whole
  match n.places, n.exponent with
  | none, none =>
    if overflow.isEmpty then
      if !n.negative then some (.integer whole)
      else if 0 < whole ∧ whole ≤ CommandShell.Number.twoTo 63 then some (.integer (-whole))
      else scaled? true whole 0
    else scaled? n.negative whole overflow.length
  | places, exponent =>
    let (significand, left) := addDigits whole (places.getD [])
    let e : Int := overflow.length - ((places.getD []).length - left.length : Nat)
    match exponent with
    | none => scaled? n.negative significand e
    | some (below, ds) =>
      let x : Int := CommandShell.Number.digitsValue 0 ds
      if (CommandShell.Number.twoTo 31 : Int) ≤ x then
        if significand = 0 ∨ below then some (.float (CommandShell.Number.toFloat n.negative 0)) else none
      else scaled? n.negative significand (if below then e - x else e + x)

/-! ## Values of nodes -/

mutual

/-- The value of a node that may open `depth` brackets inside each other. -/
def valueAt? : Nat → Node → Option Json
  | _, .null => some .null
  | _, .bool b => some (.bool b)
  | _, .number n => (number? n).map .number
  | _, .string s => s.map .string
  | 0, .array _ => none
  | depth + 1, .array items => (valuesAt? depth items).map .array
  | 0, .object _ => none
  | depth + 1, .object members => (recordAt? depth [] members).map .object

def valuesAt? : Nat → List Node → Option (List Json)
  | _, [] => some []
  | depth, n :: rest =>
    match valueAt? depth n with
    | some v => (valuesAt? depth rest).map (v :: ·)
    | none => none

/-- The record of written members; of two with one name the later one counts. -/
def recordAt? : Nat → Record → List (Option String × Node) → Option Record
  | _, ms, [] => some ms
  | depth, ms, (name, n) :: rest =>
    match name, valueAt? depth n with
    | some name, some v => recordAt? depth (Assoc.insert name v ms) rest
    | _, _ => none

end

/-- The value of a node. -/
def value? (n : Node) : Option Json :=
  valueAt? 127 n

end Node

/-- The value that a whole text stands for. -/
def ofText? (s : String) : Option Json :=
  (Node.ofText? s).bind Node.value?

end CommandShell.Json
