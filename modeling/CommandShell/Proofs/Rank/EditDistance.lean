import CommandShell.EditDistance

/-!
# Edit distance

The distance of two lists is the least number of edits that lead from one to the other. Edits and the
recursion over the first elements agree, in both directions; so the recursion may be done from the ends of
the lists as well, and that is what the rows do: the row for a beginning `us` of the first list holds the
costs from `us` to all beginnings of the second. What stood in the row that is written over plays no part.

    Edits n xs ys → editCost xs ys ≤ n,   Edits (editCost xs ys) xs ys
    r.Reached us ys → (r.next ys (x, us.length + 1)).Reached (us ++ [x]) ys
    distance xs ys = editCost xs ys
-/

namespace CommandShell

variable {α : Type}

/-! ## Edits -/

/-- One insertion, deletion or replacement. -/
inductive Edit : List α → List α → Prop
  | insert (before after : List α) (y : α) : Edit (before ++ after) (before ++ y :: after)
  | delete (before after : List α) (x : α) : Edit (before ++ x :: after) (before ++ after)
  | replace (before after : List α) (x y : α) : Edit (before ++ x :: after) (before ++ y :: after)

/-- So many edits lead from one list to the other. -/
inductive Edits : Nat → List α → List α → Prop
  | none {xs : List α} : Edits 0 xs xs
  | more {n : Nat} {xs ys zs : List α} : Edit xs ys → Edits n ys zs → Edits (n + 1) xs zs

theorem Edit.symm {xs ys : List α} (h : Edit xs ys) : Edit ys xs := by
  cases h with
  | insert before after y => exact .delete before after y
  | delete before after x => exact .insert before after x
  | replace before after x y => exact .replace before after y x

theorem Edit.cons {xs ys : List α} (h : Edit xs ys) (a : α) : Edit (a :: xs) (a :: ys) := by
  cases h with
  | insert before after y => exact .insert (a :: before) after y
  | delete before after x => exact .delete (a :: before) after x
  | replace before after x y => exact .replace (a :: before) after x y

theorem Edit.reverse {xs ys : List α} (h : Edit xs ys) : Edit xs.reverse ys.reverse := by
  cases h with
  | insert before after y => simpa using Edit.insert after.reverse before.reverse y
  | delete before after x => simpa using Edit.delete after.reverse before.reverse x
  | replace before after x y => simpa using Edit.replace after.reverse before.reverse x y

namespace Edits

theorem trans {m n : Nat} {xs ys zs : List α} (h : Edits m xs ys) (h' : Edits n ys zs) :
    Edits (m + n) xs zs := by
  induction h with
  | none => simpa using h'
  | @more m xs us ys he _ ih =>
    rw [show m + 1 + n = m + n + 1 by omega]
    exact .more he (ih h')

theorem symm {n : Nat} {xs ys : List α} (h : Edits n xs ys) : Edits n ys xs := by
  induction h with
  | none => exact .none
  | more he _ ih => exact ih.trans (.more he.symm .none)

theorem cons {n : Nat} {xs ys : List α} (h : Edits n xs ys) (a : α) : Edits n (a :: xs) (a :: ys) := by
  induction h with
  | none => exact .none
  | more he _ ih => exact .more (he.cons a) ih

theorem reverse {n : Nat} {xs ys : List α} (h : Edits n xs ys) : Edits n xs.reverse ys.reverse := by
  induction h with
  | none => exact .none
  | more he _ ih => exact .more he.reverse ih

theorem eq_of_zero {xs ys : List α} (h : Edits 0 xs ys) : xs = ys := by
  cases h
  rfl

theorem min {m n : Nat} {xs ys : List α} (h : Edits m xs ys) (h' : Edits n xs ys) :
    Edits (min m n) xs ys := by
  rcases Nat.le_total m n with hle | hle
  · rwa [Nat.min_eq_left hle]
  · rwa [Nat.min_eq_right hle]

/-- A list is built one element at a time. -/
theorem insertAll (ys : List α) : Edits ys.length [] ys := by
  induction ys with
  | nil => exact .none
  | cons y ys ih => exact .more (.insert [] [] y) (ih.cons y)

end Edits

/-! ## The recursion -/

section
variable [DecidableEq α]

/-- The cost of the cheapest edits, by the first elements of the lists. -/
def editCost : List α → List α → Nat
  | [], ys => ys.length
  | xs, [] => xs.length
  | x :: xs, y :: ys =>
    min (min (editCost xs (y :: ys) + 1) (editCost (x :: xs) ys + 1))
      (editCost xs ys + if x = y then 0 else 1)

theorem editCost_nil_left (ys : List α) : editCost [] ys = ys.length := by
  rw [editCost]

theorem editCost_nil_right (xs : List α) : editCost xs [] = xs.length := by
  cases xs with
  | nil => rw [editCost]
  | cons x xs => rw [editCost]; simp

theorem editCost_cons_cons (x y : α) (xs ys : List α) :
    editCost (x :: xs) (y :: ys) =
      min (min (editCost xs (y :: ys) + 1) (editCost (x :: xs) ys + 1))
        (editCost xs ys + if x = y then 0 else 1) := by
  rw [editCost]

theorem editCost_self (xs : List α) : editCost xs xs = 0 := by
  induction xs with
  | nil => rw [editCost_nil_left, List.length_nil]
  | cons x xs ih =>
    rw [editCost_cons_cons, ih, if_pos rfl]
    omega

/-- The recursion finds edits of its cost. -/
theorem edits_editCost (xs ys : List α) : Edits (editCost xs ys) xs ys := by
  fun_induction editCost xs ys with
  | case1 ys => exact .insertAll ys
  | case2 xs => exact (Edits.insertAll xs).symm
  | case3 x xs y ys ihDelete ihInsert ihBoth =>
    have hdelete : Edits (editCost xs (y :: ys) + 1) (x :: xs) (y :: ys) :=
      .more (.delete [] xs x) ihDelete
    have hinsert : Edits (editCost (x :: xs) ys + 1) (x :: xs) (y :: ys) :=
      .more (.insert [] (x :: xs) y) (ihInsert.cons y)
    have hboth : Edits (editCost xs ys + if x = y then 0 else 1) (x :: xs) (y :: ys) := by
      by_cases hxy : x = y
      · rw [if_pos hxy, hxy]
        exact ihBoth.cons y
      · rw [if_neg hxy]
        exact .more (.replace [] xs x y) (ihBoth.cons y)
    exact (hdelete.min hinsert).min hboth

/-! ## One edit changes the cost by one at most -/

/-- None of the three ways is cheaper than the recursion. -/
theorem editCost_cons_le (x y : α) (xs ys : List α) :
    editCost (x :: xs) (y :: ys) ≤ editCost xs (y :: ys) + 1 ∧
      editCost (x :: xs) (y :: ys) ≤ editCost (x :: xs) ys + 1 ∧
      editCost (x :: xs) (y :: ys) ≤ editCost xs ys + 1 := by
  have h := editCost_cons_cons x y xs ys
  split at h <;> omega

theorem editCost_cons_right_le (xs ys : List α) (y : α) : editCost xs (y :: ys) ≤ editCost xs ys + 1 := by
  cases xs with
  | nil =>
    apply Nat.le_of_eq
    rw [editCost_nil_left, editCost_nil_left, List.length_cons]
  | cons x xs => exact (editCost_cons_le x y xs ys).2.1

theorem editCost_cons_left_le (xs ys : List α) (x : α) : editCost (x :: xs) ys ≤ editCost xs ys + 1 := by
  cases ys with
  | nil =>
    apply Nat.le_of_eq
    rw [editCost_nil_right, editCost_nil_right, List.length_cons]
  | cons y ys => exact (editCost_cons_le x y xs ys).1

theorem editCost_le_cons_left (xs ys : List α) (x : α) : editCost xs ys ≤ editCost (x :: xs) ys + 1 := by
  induction ys with
  | nil =>
    rw [editCost_nil_right, editCost_nil_right, List.length_cons]
    omega
  | cons y ys ih =>
    have h := editCost_cons_cons x y xs ys
    have hy := editCost_cons_right_le xs ys y
    split at h <;> omega

theorem editCost_replace_le (xs ys : List α) (x x' : α) :
    editCost (x :: xs) ys ≤ editCost (x' :: xs) ys + 1 := by
  induction ys with
  | nil =>
    rw [editCost_nil_right, editCost_nil_right, List.length_cons, List.length_cons]
    omega
  | cons y ys ih =>
    have h := editCost_cons_cons x' y xs ys
    have hle := editCost_cons_le x y xs ys
    split at h <;> omega

/-- What holds behind a common first element holds with it. -/
theorem editCost_cons_le_of {xs xs' : List α} (h : ∀ ys, editCost xs ys ≤ editCost xs' ys + 1) (a : α)
    (ys : List α) : editCost (a :: xs) ys ≤ editCost (a :: xs') ys + 1 := by
  induction ys with
  | nil =>
    have hnil := h []
    rw [editCost_nil_right, editCost_nil_right] at hnil ⊢
    rw [List.length_cons, List.length_cons]
    omega
  | cons y ys ih =>
    have hall := h (y :: ys)
    have hrest := h ys
    rw [editCost_cons_cons, editCost_cons_cons]
    split <;> omega

theorem editCost_append_le_of {xs xs' : List α} (h : ∀ ys, editCost xs ys ≤ editCost xs' ys + 1)
    (before ys : List α) : editCost (before ++ xs) ys ≤ editCost (before ++ xs') ys + 1 := by
  induction before generalizing ys with
  | nil => exact h ys
  | cons a before ih => exact editCost_cons_le_of ih a ys

theorem Edit.editCost_le {xs xs' : List α} (h : Edit xs xs') (ys : List α) :
    editCost xs ys ≤ editCost xs' ys + 1 := by
  cases h with
  | insert before after y => exact editCost_append_le_of (fun ys => editCost_le_cons_left after ys y) before ys
  | delete before after x => exact editCost_append_le_of (fun ys => editCost_cons_left_le after ys x) before ys
  | replace before after x y =>
    exact editCost_append_le_of (fun ys => editCost_replace_le after ys x y) before ys

/-- **No edits are cheaper than the recursion.** -/
theorem Edits.editCost_le {n : Nat} {xs ys : List α} (h : Edits n xs ys) : editCost xs ys ≤ n := by
  induction h with
  | none => exact Nat.le_of_eq (editCost_self _)
  | @more n xs ys zs he _ ih =>
    have := he.editCost_le zs
    omega

/-! ## The recursion from the ends -/

theorem editCost_reverse (xs ys : List α) : editCost xs.reverse ys.reverse = editCost xs ys := by
  have hle := (edits_editCost xs ys).reverse.editCost_le
  have hge := (edits_editCost xs.reverse ys.reverse).reverse.editCost_le
  rw [List.reverse_reverse, List.reverse_reverse] at hge
  omega

theorem editCost_concat_concat (x y : α) (xs ys : List α) :
    editCost (xs ++ [x]) (ys ++ [y]) =
      min (min (editCost xs (ys ++ [y]) + 1) (editCost (xs ++ [x]) ys + 1))
        (editCost xs ys + if x = y then 0 else 1) := by
  rw [← editCost_reverse (xs ++ [x]) (ys ++ [y]), ← editCost_reverse xs (ys ++ [y]),
    ← editCost_reverse (xs ++ [x]) ys, ← editCost_reverse xs ys, List.reverse_concat, List.reverse_concat,
    editCost_cons_cons]

/-! ## The rows -/

theorem getD_setIfInBounds (a : Array Nat) (i j v : Nat) :
    (a.setIfInBounds i v).getD j 0 = if i = j ∧ i < a.size then v else a.getD j 0 := by
  simp only [Array.getD_eq_getD_getElem?, Array.getElem?_setIfInBounds]
  by_cases h : i = j
  · subst h
    by_cases hi : i < a.size
    · simp [hi]
    · simp [hi]
  · simp [h]

/-- The row holds the costs from `us` to the beginnings of `ys`, up to that of `n` elements. -/
structure HoldsCosts (us ys : List α) (n : Nat) (row : Array Nat) : Prop where
  size : row.size = ys.length + 1
  cell : ∀ j ≤ n, row.getD j 0 = editCost us (ys.take j)

/-- **A row is written cell by cell.** What the cells behind held before is not looked at. -/
theorem HoldsCosts.writeCells {us ys : List α} {x : α} {finished : Array Nat}
    (h : HoldsCosts us ys ys.length finished) (before rest : List α) (hys : ys = before ++ rest)
    {spare : Array Nat} (hspare : HoldsCosts (us ++ [x]) ys before.length spare) :
    HoldsCosts (us ++ [x]) ys ys.length
      ((rest.zipIdx before.length).foldl (writeCell x finished) spare) := by
  induction rest generalizing before spare with
  | nil =>
    rw [List.append_nil] at hys
    subst hys
    exact hspare
  | cons y rest ih =>
    have hlt : before.length + 1 ≤ ys.length := by
      rw [hys, List.length_append, List.length_cons]
      omega
    have htake : ys.take before.length = before := by
      rw [hys, List.take_left']
      rfl
    have htake' : ys.take (before.length + 1) = before ++ [y] := by
      rw [hys, List.append_cons, List.take_left']
      rw [List.length_append, List.length_singleton]
    have hnext : HoldsCosts (us ++ [x]) ys (before ++ [y]).length
        (writeCell x finished spare (y, before.length)) := by
      refine ⟨?_, fun j hj => ?_⟩
      · rw [writeCell, Array.size_setIfInBounds, hspare.size]
      · rw [List.length_append, List.length_singleton] at hj
        rw [writeCell, getD_setIfInBounds, hspare.size]
        by_cases hlast : before.length + 1 = j
        · subst hlast
          rw [if_pos ⟨rfl, by omega⟩, h.cell _ hlt, h.cell _ (by omega), hspare.cell _ (Nat.le_refl _), htake,
            htake', editCost_concat_concat]
        · rw [if_neg (fun hc => hlast hc.1), hspare.cell j (by omega)]
    have hrest := ih (before ++ [y]) (by rw [hys, List.append_assoc, List.singleton_append]) hnext
    rw [List.length_append, List.length_singleton] at hrest
    rw [List.zipIdx_cons, List.foldl_cons]
    exact hrest

/-- The finished row holds all costs from `us`, and there is room for the next one. -/
structure Rows.Reached (us ys : List α) (r : Rows) : Prop where
  finished : HoldsCosts us ys ys.length r.finished
  spare : r.spare.size = ys.length + 1

theorem Rows.reached_start (ys : List α) : (Rows.start ys.length).Reached [] ys := by
  refine ⟨⟨by simp [start], fun j hj => ?_⟩, by simp [start]⟩
  rw [editCost_nil_left, List.length_take, Nat.min_eq_left hj]
  simp only [start, Array.getD_eq_getD_getElem?, List.getElem?_toArray]
  rw [List.getElem?_range (by omega), Option.getD_some]

/-- One more element of the first list. -/
theorem Rows.Reached.next {us ys : List α} {r : Rows} (h : r.Reached us ys) (x : α) :
    (r.next ys (x, us.length + 1)).Reached (us ++ [x]) ys := by
  refine ⟨h.finished.writeCells [] ys rfl ⟨?_, fun j hj => ?_⟩, h.finished.size⟩
  · rw [Array.size_setIfInBounds, h.spare]
  · obtain rfl : j = 0 := Nat.le_zero.1 hj
    rw [getD_setIfInBounds, if_pos ⟨rfl, by rw [h.spare]; omega⟩, List.take_zero, editCost_nil_right,
      List.length_append, List.length_singleton]

theorem Rows.Reached.run {us ys : List α} {r : Rows} (h : r.Reached us ys) (xs : List α) :
    ((xs.zipIdx (us.length + 1)).foldl (Rows.next ys) r).Reached (us ++ xs) ys := by
  induction xs generalizing us r with
  | nil => rwa [List.append_nil]
  | cons x xs ih =>
    have hrest := ih (h.next x)
    rw [List.length_append, List.length_singleton, List.append_assoc, List.singleton_append] at hrest
    rwa [List.zipIdx_cons, List.foldl_cons]

/-- **The rows compute the recursion.** -/
theorem distance_eq_editCost (xs ys : List α) : distance xs ys = editCost xs ys := by
  have hrun := (Rows.reached_start ys).run xs
  have hlast := hrun.finished.cell ys.length (Nat.le_refl _)
  rwa [List.take_length] at hlast

/-! ## The distance of texts -/

theorem editCost_comm (xs ys : List α) : editCost xs ys = editCost ys xs := by
  have hle := (edits_editCost xs ys).symm.editCost_le
  have hge := (edits_editCost ys xs).symm.editCost_le
  omega

theorem editCost_eq_zero_iff {xs ys : List α} : editCost xs ys = 0 ↔ xs = ys := by
  constructor
  · intro h
    have hedits := edits_editCost xs ys
    rw [h] at hedits
    exact hedits.eq_of_zero
  · rintro rfl
    exact editCost_self xs

theorem editCost_triangle (xs ys zs : List α) : editCost xs zs ≤ editCost xs ys + editCost ys zs :=
  ((edits_editCost xs ys).trans (edits_editCost ys zs)).editCost_le

theorem editCost_le_max_length (xs ys : List α) : editCost xs ys ≤ max xs.length ys.length := by
  induction xs generalizing ys with
  | nil =>
    rw [editCost_nil_left]
    omega
  | cons x xs ih =>
    cases ys with
    | nil =>
      rw [editCost_nil_right]
      omega
    | cons y ys =>
      have hboth := (editCost_cons_le x y xs ys).2.2
      have hrest := ih ys
      rw [List.length_cons, List.length_cons]
      omega

end

/-- **The distance is the edit distance.** Of two texts it is the least number of single characters to
insert, delete and replace, and the value of the recursion over their characters. It is symmetric, zero only
between equal texts, no longer than a way through a third text, and at most the length of the longer one. -/
theorem distance_least_edits (a b c : String) :
    (Edits (distance a.toList b.toList) a.toList b.toList ∧
        ∀ n, Edits n a.toList b.toList → distance a.toList b.toList ≤ n) ∧
      distance a.toList b.toList = editCost a.toList b.toList ∧
      distance a.toList b.toList = distance b.toList a.toList ∧
      (distance a.toList b.toList = 0 ↔ a = b) ∧
      distance a.toList c.toList ≤ distance a.toList b.toList + distance b.toList c.toList ∧
      distance a.toList b.toList ≤ max a.length b.length := by
  simp only [distance_eq_editCost]
  refine ⟨⟨edits_editCost _ _, fun n h => h.editCost_le⟩, trivial, editCost_comm _ _, ?_,
    editCost_triangle _ _ _, editCost_le_max_length _ _⟩
  rw [editCost_eq_zero_iff, String.toList_inj]

example : distance "kitten".toList "sitting".toList = 3 := by decide +kernel

end CommandShell
