import CommandShell.Number.Power

/-!
# Binary floating point, in exact arithmetic

A finite magnitude is m · 2^e with m below 2^53. Its word is the bit pattern without the sign.

    nearest num den = word of the magnitude nearest to num / den, a tie going to the even m
    parts word      = (m, e) of a finite word
-/

namespace CommandShell.Number

/-! ## Algorithm -/

/-- The quotient rounded to the nearest whole number, a tie going to the even one. -/
def roundDiv (num den : Nat) : Nat :=
  let q := num / den
  let r := num % den
  if 2 * r < den then q
  else if den < 2 * r then q + 1
  else if q % 2 = 0 then q
  else q + 1

def infinityWord : Nat := 2047 * twoTo 52

/-- The word of a quiet value that is no number. -/
def nanWord : Nat := 4095 * twoTo 51

/-- The exponent `k` with 2^k ≤ num / den < 2^(k+1). -/
def binaryExponent (num den : Nat) : Int :=
  let k := (num.log2 : Int) - den.log2
  if 0 ≤ k then (if num < den * twoTo k.toNat then k - 1 else k)
  else (if num * twoTo (-k).toNat < den then k - 1 else k)

/-- The word of the magnitude nearest to `num / den`. -/
def nearest (num den : Nat) : Nat :=
  if num = 0 then 0
  else
    let e := max (binaryExponent num den - 52) (-1074)
    let m := if e < 0 then roundDiv (num * twoTo (-e).toNat) den else roundDiv num (den * twoTo e.toNat)
    min ((e + 1074).toNat * twoTo 52 + m) infinityWord

/-- The whole number `m` and the exponent `e` of a finite word. -/
def parts (word : Nat) : Nat × Int :=
  let biased : Nat := word / twoTo 52
  let fraction : Nat := word % twoTo 52
  if biased = 0 then (fraction, -1074) else (fraction + twoTo 52, (biased : Int) - 1075)

/-- The value of a finite word, as a quotient of whole numbers. -/
def ratio (word : Nat) : Nat × Nat :=
  let (m, e) := parts word
  if e < 0 then (m, twoTo (-e).toNat) else (m * twoTo e.toNat, 1)

/-- The word of the nearest magnitude to the sum of two finite words. -/
def addWords (a b : Nat) : Nat :=
  let (p, q) := ratio a
  let (r, s) := ratio b
  nearest (p * s + r * q) (q * s)

/-- The word of the nearest magnitude to the quotient of a finite word by a whole number. -/
def divWord (a n : Nat) : Nat :=
  let (p, q) := ratio a
  nearest p (q * n)

/-- The floating point number with a sign and a magnitude. -/
def toFloat (negative : Bool) (word : Nat) : Float :=
  Float.ofBits (UInt64.ofNat (word + if negative then twoTo 63 else 0))

/-- The sign of a floating point number. -/
def isNegative (x : Float) : Bool :=
  twoTo 63 ≤ x.toBits.toNat

/-- The magnitude word of a floating point number. -/
def magnitude (x : Float) : Nat :=
  x.toBits.toNat % twoTo 63

/-- The floating point number nearest to a whole number. -/
def floatOfInt (n : Int) : Float :=
  toFloat (n < 0) (nearest n.natAbs 1)

/-! ## Lemmas -/

theorem roundDiv_one (n : Nat) : roundDiv n 1 = n := by
  simp [roundDiv, Nat.mod_one]

theorem nearest_zero (den : Nat) : nearest 0 den = 0 := by simp [nearest]

end CommandShell.Number
