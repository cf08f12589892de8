/-!
# Edit distance

The least number of single insertions, deletions and replacements that turn one list into another,
computed row by row: a row holds the distances from a fixed beginning of the first list to all
beginnings of the second. Two rows are enough. The next one is written over the last but one, cell by
cell, and then the two change places.

    distance xs ys = last cell of the row for all of xs
-/

namespace CommandShell

variable {α : Type} [DecidableEq α]

/-- The row that is finished, and the one that is written over. -/
structure Rows where
  finished : Array Nat
  spare : Array Nat

/-- The rows for the empty beginning: a beginning of the second list is reached by insertions. -/
def Rows.start (n : Nat) : Rows :=
  ⟨(List.range (n + 1)).toArray, Array.replicate (n + 1) 0⟩

/-- Writes the cell for an element of the second list, which stands behind the cell with the number of
the element. It comes from the cell before it and from two cells of the finished row. -/
def writeCell (x : α) (finished spare : Array Nat) (t : α × Nat) : Array Nat :=
  spare.setIfInBounds (t.2 + 1)
    (min (min (finished.getD (t.2 + 1) 0 + 1) (spare.getD t.2 0 + 1))
      (finished.getD t.2 0 + if x = t.1 then 0 else 1))

/-- The rows after one more element of the first list, numbered from 1. -/
def Rows.next (ys : List α) (r : Rows) (t : α × Nat) : Rows :=
  ⟨ys.zipIdx.foldl (writeCell t.1 r.finished) (r.spare.setIfInBounds 0 t.2), r.finished⟩

/-- The edit distance of two lists. -/
def distance (xs ys : List α) : Nat :=
  ((xs.zipIdx 1).foldl (Rows.next ys) (Rows.start ys.length)).finished.getD ys.length 0

end CommandShell
