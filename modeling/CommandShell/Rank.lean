import CommandShell.EditDistance
import CommandShell.Text.Case

/-!
# Ranking of candidates

How far a candidate is from a hint; 0 is best. Both are compared in lowercase, and the first rule
that fits decides:

    the hint's letters begin the first parts of the name, one each     0
    the hint begins the name, or one of its parts                      0
    the hint ends the name                                             1
    else                                                               their edit distance

    rankAll cs h = the candidates c with rank c h below c's length, by rank and then by length
-/

namespace CommandShell

open Text

/-! ## Algorithm -/

/-- The parts of a name between hyphens. -/
def segments : List Char → List (List Char)
  | [] => [[]]
  | c :: r =>
    if c = '-' then [] :: segments r
    else match segments r with
      | [] => [[c]]
      | s :: rest => (c :: s) :: rest

/-- Each character begins the part at its place. -/
def beginParts : List Char → List (List Char) → Bool
  | [], _ => true
  | _ :: _, [] => false
  | c :: cs, s :: rest => s.head? == some c && beginParts cs rest

/-- The hint abbreviates a name of several parts by their first letters. -/
def isAcronym (hint : List Char) (parts : List (List Char)) : Bool :=
  2 ≤ parts.length && !hint.isEmpty && beginParts hint parts

/-- Rank of texts in lowercase. -/
def rankLower (candidate hint : List Char) : Nat :=
  if isAcronym hint (segments candidate) then 0
  else if hint.isPrefixOf candidate || (segments candidate).any (hint.isPrefixOf ·) then 0
  else if hint.isSuffixOf candidate then 1
  else distance hint candidate

def rank (candidate hint : String) : Nat :=
  rankLower (lowercase candidate).toList (lowercase hint).toList

/-- A candidate is close enough if its rank is below its length. -/
def isClose (hint candidate : String) : Bool :=
  rank candidate hint < candidate.length

/-- Lower rank first, then the shorter text. -/
def comesBefore (hint a b : String) : Bool :=
  let i := rank a hint
  let j := rank b hint
  i < j || (i == j && a.length ≤ b.length)

/-- The close candidates, best first; equals keep their order. -/
def rankAll (candidates : List String) (hint : String) : List String :=
  (candidates.filter (isClose hint)).mergeSort (comesBefore hint)

/-! ## Lemmas -/

theorem segments_ne_nil (cs : List Char) : segments cs ≠ [] := by
  cases cs with
  | nil => simp [segments]
  | cons c r =>
    rw [segments]
    split
    · simp
    · split <;> simp

theorem comesBefore_trans (hint a b c : String) (h1 : comesBefore hint a b = true)
    (h2 : comesBefore hint b c = true) : comesBefore hint a c = true := by
  simp only [comesBefore, Bool.or_eq_true, Bool.and_eq_true, decide_eq_true_eq, beq_iff_eq] at *
  omega

theorem comesBefore_total (hint a b : String) : (comesBefore hint a b || comesBefore hint b a) = true := by
  simp only [comesBefore, Bool.or_eq_true, Bool.and_eq_true, decide_eq_true_eq, beq_iff_eq]
  omega

theorem mem_rankAll {candidates : List String} {hint c : String} :
    c ∈ rankAll candidates hint ↔ c ∈ candidates ∧ isClose hint c = true := by
  simp [rankAll, List.mem_filter]

end CommandShell
