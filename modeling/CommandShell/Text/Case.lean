import CommandShell.Text.CaseTable

/-!
# Lowercase texts

Two names are the same name when their lowercase forms agree.

    sameName a b = (lowercase a = lowercase b)

Every character has a lowercase form of its own, except two: a capital I with a dot becomes two
characters, and a capital sigma takes its final form at the end of a word.
-/

namespace CommandShell.Text

/-! ## Algorithm -/

/-- Some range of the table holds the code point. -/
def inRanges (ranges : List (Nat × Nat)) (n : Nat) : Bool :=
  ranges.any fun r => r.1 ≤ n && n ≤ r.2

/-- The lowercase form of one character that stands alone. -/
def lowerChar (c : Char) : List Char :=
  if c.toNat < 0x80 then [c.toLower]
  else if c.toNat = 0x130 then ['i', '\u0307']
  else match caseRuns.findSome? (·.image? c.toNat) with
    | some n => [Char.ofNat n]
    | none => [c]

def isCased (c : Char) : Bool :=
  inRanges casedRanges c.toNat

def isCaseIgnorable (c : Char) : Bool :=
  inRanges caseIgnorableRanges c.toNat

/-- A cased letter comes first, once the signs that case rules look through are skipped. -/
def startsCased (cs : List Char) : Bool :=
  match cs.dropWhile isCaseIgnorable with
  | [] => false
  | c :: _ => isCased c

/-- Lowercase of `rest`, where `before` is the text in front of it, nearest character first.
A capital sigma that ends a word becomes the final sigma. -/
def lowerFrom (before : List Char) : List Char → List Char
  | [] => []
  | c :: rest =>
    (if c = 'Σ' then (if startsCased before && !startsCased rest then ['ς'] else ['σ']) else lowerChar c)
      ++ lowerFrom (c :: before) rest

/-- The lowercase form of a text. -/
def lowercase (s : String) : String :=
  String.ofList (lowerFrom [] s.toList)

/-- Names are compared by their lowercase forms. -/
def sameName (a b : String) : Bool :=
  lowercase a == lowercase b

/-! ## Lemmas -/

theorem sameName_iff {a b : String} : sameName a b = true ↔ lowercase a = lowercase b := by
  simp [sameName]

theorem sameName_refl (a : String) : sameName a a = true := by simp [sameName]

theorem sameName_comm (a b : String) : sameName a b = sameName b a := by
  simp [sameName, Bool.beq_comm]

end CommandShell.Text
