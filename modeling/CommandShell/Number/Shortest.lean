import CommandShell.Number.Binary64

/-!
# The fewest digits that read back

A magnitude m · 2^e owns the reals that round to it: half a step to each side, the ends included
when m is even, and only a quarter of its step downwards where the steps change their size.
The grids of 1, 2, … 17 significant digits are tried in turn; on each only the two neighbours of
the value can be inside. The first grid with a hit wins, and of two hits the nearer one.

    shortest tie word = (d, p) with d · 10^p the text of the word, d without trailing zeros
-/

namespace CommandShell.Number

/-! ## Algorithm -/

/-- Which of two equally near decimals is taken. -/
inductive Tie where
  | up
  | even
deriving DecidableEq

/-- How many decimal digits a number has. -/
def digitCount (n : Nat) : Nat :=
  (Nat.toDigits 10 n).length

/-- The exponent `k` with 10^k ≤ num / den < 10^(k+1), for a quotient above 0. -/
def decimalExponent (num den : Nat) : Int :=
  if den ≤ num then (digitCount (num / den) : Int) - 1
  else -(digitCount ((den - 1) / num) : Int)

/-- The quotients that bound the reals which round to a word, below and above. -/
def bounds (word : Nat) : (Nat × Nat) × (Nat × Nat) :=
  let (m, e) := parts word
  let scale (k : Nat) : Nat × Nat :=
    if e - 2 < 0 then (k, twoTo (2 - e).toNat) else (k * twoTo (e - 2).toNat, 1)
  let below := if m = twoTo 52 ∧ -1074 < e then 4 * m - 1 else 4 * m - 2
  (scale below, scale (4 * m + 2))

/-- The decimal `d · 10^p` rounds to the word. -/
def readsBack (word d : Nat) (p : Int) : Bool :=
  let ((lowNum, lowDen), (highNum, highDen)) := bounds word
  let (num, den) := if 0 ≤ p then (d * tenTo p.toNat, 1) else (d, tenTo (-p).toNat)
  if (parts word).1 % 2 = 0 then lowNum * den ≤ num * lowDen && num * highDen ≤ highNum * den
  else lowNum * den < num * lowDen && num * highDen < highNum * den

/-- The better of the value's two neighbours on the grid of the multiples of 10^p. -/
def onGrid? (tie : Tie) (word : Nat) (p : Int) : Option Nat :=
  let (num, den) := ratio word
  let (n, d) := if 0 ≤ p then (num, den * tenTo p.toNat) else (num * tenTo (-p).toNat, den)
  let low := n / d
  let rest := n % d
  match readsBack word low p && low != 0, readsBack word (low + 1) p with
  | true, true =>
    if 2 * rest < d then some low
    else if d < 2 * rest then some (low + 1)
    else match tie with
      | .up => some (low + 1)
      | .even => if low % 2 = 0 then some low else some (low + 1)
  | true, false => some low
  | false, true => some (low + 1)
  | false, false => none

/-- `d · 10^p` without the zeros at the end of `d`, at most `fuel` of them. -/
def dropZeros : Nat → Nat → Int → Nat × Int
  | 0, d, p => (d, p)
  | fuel + 1, d, p => if d % 10 = 0 && d != 0 then dropZeros fuel (d / 10) (p + 1) else (d, p)

/-- The shortest decimal that reads back as the finite word. -/
def shortest (tie : Tie) (word : Nat) : Nat × Int :=
  if word = 0 then (0, 0)
  else
    let (num, den) := ratio word
    let k := decimalExponent num den
    let hit := (List.range 17).findSome? fun (i : Nat) =>
      let p := k - (i : Int)
      (onGrid? tie word p).map fun d => (d, p)
    match hit with
    | some (d, p) => dropZeros 18 d p
    | none => (0, 0)

end CommandShell.Number
