import CommandShell.Number.Shortest

/-!
# Decimal texts of numbers

Writing: `plainText` never uses an exponent; `fixedText` has a set number of places.
Reading: `readInt` takes a sign and digits within 64 bits; `readFloat` takes a sign and either
digits with a point and an exponent, rounded to the nearest number, or one of the words for
infinity and for no number.
-/

namespace CommandShell.Number

/-! ## Writing -/

/-- The decimal `d · 10^p` written without an exponent. -/
def positional (d : Nat) (p : Int) : String :=
  let digits := toString d
  let point := (digits.length : Int) + p
  if point ≤ 0 then "0." ++ String.ofList (List.replicate (-point).toNat '0') ++ digits
  else if 0 ≤ p then digits ++ String.ofList (List.replicate p.toNat '0')
  else
    String.ofList (digits.toList.take point.toNat) ++ "." ++ String.ofList (digits.toList.drop point.toNat)

/-- The shortest text of a number that reads back, never with an exponent. -/
def plainText (x : Float) : String :=
  let word := magnitude x
  if infinityWord < word then "NaN"
  else
    let sign := if isNegative x then "-" else ""
    if word = infinityWord then sign ++ "inf"
    else
      let (d, p) := shortest .up word
      sign ++ positional d p

/-- The value `num / den` with the given number of places, a tie going to the even last digit. -/
def fixedText (places num den : Nat) : String :=
  let digits := toString (roundDiv (num * tenTo places) den)
  let padded := String.ofList (List.replicate (places + 1 - digits.length) '0') ++ digits
  let whole := padded.length - places
  String.ofList (padded.toList.take whole) ++ "." ++ String.ofList (padded.toList.drop whole)

/-! ## Reading -/

/-- The number that a run of digits stands for, after the digits that gave `acc`. -/
def digitsValue (acc : Nat) (digits : List Char) : Nat :=
  digits.foldl (fun n c => 10 * n + (c.toNat - 48)) acc

/-- A sign at the front of a text, and the rest of it. -/
def takeSign : List Char → Bool × List Char
  | '-' :: r => (true, r)
  | '+' :: r => (false, r)
  | cs => (false, cs)

/-- A whole number of 64 bits: a sign, then digits only. -/
def readInt (s : String) : Option Int64 :=
  let (negative, digits) := takeSign s.toList
  if digits.isEmpty || !digits.all Char.isDigit then none
  else
    let n : Int := digitsValue 0 digits
    let v := if negative then -n else n
    if -(twoTo 63 : Int) ≤ v ∧ v < twoTo 63 then some (Int64.ofInt v) else none

/-- The exponent part of a decimal: nothing, or a mark, a sign and digits up to the end. -/
def readExponent : List Char → Option Int
  | [] => some 0
  | c :: r =>
    if c == 'e' || c == 'E' then
      let (negative, digits) := takeSign r
      if digits.isEmpty || !digits.all Char.isDigit then none
      else
        let n : Int := digitsValue 0 digits
        some (if negative then -n else n)
    else none

/-- A decimal without a sign, as `d · 10^p`: at least one digit, before or after the point. -/
def readDecimal (cs : List Char) : Option (Nat × Int) :=
  let whole := cs.takeWhile Char.isDigit
  let afterWhole := cs.dropWhile Char.isDigit
  let (places, rest) := match afterWhole with
    | '.' :: r => (r.takeWhile Char.isDigit, r.dropWhile Char.isDigit)
    | r => ([], r)
  if whole.isEmpty && places.isEmpty then none
  else (readExponent rest).map fun e => (digitsValue (digitsValue 0 whole) places, e - places.length)

/-- The word of the magnitude nearest to `d · 10^p`. -/
def decimalWord (d : Nat) (p : Int) : Nat :=
  if d = 0 then 0
  else if 400 < (digitCount d : Int) + p then infinityWord
  else if (digitCount d : Int) + p < -400 then 0
  else if 0 ≤ p then nearest (d * tenTo p.toNat) 1
  else nearest d (tenTo (-p).toNat)

/-- A sign and a magnitude word. -/
def readMagnitude (s : String) : Option (Bool × Nat) :=
  let (negative, cs) := takeSign s.toList
  match readDecimal cs with
  | some (d, p) => some (negative, decimalWord d p)
  | none =>
    let name := cs.map Char.toLower
    if name = "inf".toList ∨ name = "infinity".toList then some (negative, infinityWord)
    else if name = "nan".toList then some (negative, nanWord)
    else none

/-- A floating point number. -/
def readFloat (s : String) : Option Float :=
  (readMagnitude s).map fun (negative, word) => toFloat negative word

end CommandShell.Number
