import CommandShell.Rank

/-!
# The selection of ranked candidates

The candidates of one rank and one length are a part of every list of candidates, `tied`. Sorting and merging
keep each such part as it is, and a list in order is known by its parts:

    xs and ys in order, with the same parts   →   xs = ys
    tied (rankAll cs)                         =   tied (the close ones of cs)
    tied (merge xs ys)                        =   tied xs ++ tied ys              (xs in order)
    merge (rankAll front) (rankAll back)      =   rankAll (front ++ back)
-/

namespace CommandShell

/-- The candidates stand in the order of their ranks and lengths. -/
def Ranked (hint : String) (cs : List String) : Prop :=
  cs.Pairwise fun a b => comesBefore hint a b = true

/-- The candidates of one rank and one length. -/
def tied (hint : String) (r n : Nat) (cs : List String) : List String :=
  cs.filter fun c => decide (rank c hint = r ∧ c.length = n)

theorem comesBefore_iff {hint a b : String} :
    comesBefore hint a b = true ↔
      rank a hint < rank b hint ∨ rank a hint = rank b hint ∧ a.length ≤ b.length := by
  simp [comesBefore]

theorem mem_tied {hint c : String} {r n : Nat} {cs : List String} :
    c ∈ tied hint r n cs ↔ c ∈ cs ∧ rank c hint = r ∧ c.length = n := by
  simp [tied]

theorem tied_tied (hint : String) (r n : Nat) (cs : List String) :
    tied hint r n (tied hint r n cs) = tied hint r n cs := by
  simp [tied]

theorem tied_append (hint : String) (r n : Nat) (xs ys : List String) :
    tied hint r n (xs ++ ys) = tied hint r n xs ++ tied hint r n ys :=
  List.filter_append ..

theorem tied_cons (hint : String) (r n : Nat) (c : String) (cs : List String) :
    tied hint r n (c :: cs) = tied hint r n [c] ++ tied hint r n cs :=
  tied_append hint r n [c] cs

/-! ## A list in order is known by its parts -/

/-- Where the parts agree, nothing is left out. -/
theorem mem_of_tied_eq {hint c : String} {xs ys : List String}
    (h : ∀ r n, tied hint r n xs = tied hint r n ys) (hc : c ∈ xs) : c ∈ ys := by
  have hmem : c ∈ tied hint (rank c hint) c.length xs := mem_tied.mpr ⟨hc, rfl, rfl⟩
  rw [h] at hmem
  exact (mem_tied.mp hmem).1

theorem Ranked.head_before {hint c x : String} {xs : List String} (h : Ranked hint (x :: xs))
    (hc : c ∈ x :: xs) : comesBefore hint x c = true := by
  rcases List.mem_cons.mp hc with rfl | hc
  · exact comesBefore_iff.mpr (.inr ⟨rfl, Nat.le_refl _⟩)
  · exact List.rel_of_pairwise_cons h hc

theorem Ranked.eq_of_tied_eq {hint : String} {xs ys : List String} (hx : Ranked hint xs)
    (hy : Ranked hint ys) (h : ∀ r n, tied hint r n xs = tied hint r n ys) : xs = ys := by
  induction xs generalizing ys with
  | nil =>
    cases ys with
    | nil => rfl
    | cons y ys => exact absurd (mem_of_tied_eq (fun r n => (h r n).symm) List.mem_cons_self) (by simp)
  | cons x xs ih =>
    cases ys with
    | nil => exact absurd (mem_of_tied_eq h List.mem_cons_self) (by simp)
    | cons y ys =>
      -- Each of the first ones is before the other, so they lead the same part.
      have hxy := comesBefore_iff.mp (hx.head_before
        (mem_of_tied_eq (fun r n => (h r n).symm) List.mem_cons_self))
      have hyx := comesBefore_iff.mp (hy.head_before (mem_of_tied_eq h List.mem_cons_self))
      have hrank : rank y hint = rank x hint := by omega
      have hlength : y.length = x.length := by omega
      have hfirst := h (rank x hint) x.length
      have hlead : tied hint (rank x hint) x.length [y] = [y] := by simp [tied, hrank, hlength]
      have hown : tied hint (rank x hint) x.length [x] = [x] := by simp [tied]
      rw [tied_cons, tied_cons _ _ _ y, hlead, hown] at hfirst
      obtain rfl := (List.cons.inj hfirst).1
      have hrest : xs = ys := by
        apply ih hx.tail hy.tail
        intro r n
        have hpart := h r n
        rw [tied_cons, tied_cons _ _ _ x ys] at hpart
        exact List.append_cancel_left hpart
      rw [hrest]

/-! ## Sorting -/

theorem ranked_rankAll (cs : List String) (hint : String) : Ranked hint (rankAll cs hint) :=
  List.pairwise_mergeSort (comesBefore_trans hint) (comesBefore_total hint) _

/-- Close candidates that stand in order are the selection as they are. -/
theorem Ranked.rankAll_eq {hint : String} {cs : List String} (h : Ranked hint cs)
    (hclose : ∀ c ∈ cs, isClose hint c = true) : rankAll cs hint = cs := by
  rw [rankAll, List.filter_eq_self.2 hclose]
  exact List.mergeSort_of_pairwise h

theorem ranked_tied (hint : String) (r n : Nat) (cs : List String) : Ranked hint (tied hint r n cs) := by
  apply List.pairwise_iff_forall_sublist.mpr
  intro a b hpair
  obtain ⟨-, hranka, hlengtha⟩ := mem_tied.mp (hpair.subset (a := a) (by simp))
  obtain ⟨-, hrankb, hlengthb⟩ := mem_tied.mp (hpair.subset (a := b) (by simp))
  rw [comesBefore_iff]
  omega

/-- **The sort is stable**: a part of the close candidates is kept whole, and none is moved within it. -/
theorem tied_rankAll (hint : String) (r n : Nat) (cs : List String) :
    tied hint r n (rankAll cs hint) = tied hint r n (cs.filter (isClose hint)) := by
  have hkept : (tied hint r n (cs.filter (isClose hint))).Sublist (rankAll cs hint) :=
    List.sublist_mergeSort (comesBefore_trans hint) (comesBefore_total hint) (ranked_tied hint r n _)
      List.filter_sublist
  have hpart : (tied hint r n (cs.filter (isClose hint))).Sublist (tied hint r n (rankAll cs hint)) := by
    rw [← tied_tied]
    exact hkept.filter _
  have hperm : (tied hint r n (rankAll cs hint)).Perm (tied hint r n (cs.filter (isClose hint))) :=
    (List.mergeSort_perm _ _).filter _
  exact (hpart.eq_of_length hperm.length_eq.symm).symm

theorem count_rankAll (cs : List String) (hint c : String) :
    (rankAll cs hint).count c = if rank c hint < c.length then cs.count c else 0 := by
  rw [rankAll, (List.mergeSort_perm _ _).count_eq]
  split
  · rename_i hclose
    exact List.count_filter (by simpa [isClose] using hclose)
  · rename_i hfar
    rw [List.count_eq_zero]
    intro hmem
    have hclose := (List.mem_filter.mp hmem).2
    exact hfar (by simpa [isClose] using hclose)

/-! ## Merging -/

/-- Nothing in a list in order ties with what has to stand in front of the list. -/
theorem Ranked.tied_eq_nil {hint x y : String} {xs : List String} (h : Ranked hint (x :: xs))
    (hxy : ¬ comesBefore hint x y = true) : tied hint (rank y hint) y.length (x :: xs) = [] := by
  rw [List.eq_nil_iff_forall_not_mem]
  intro c hc
  obtain ⟨hmem, hrank, hlength⟩ := mem_tied.mp hc
  have hbefore := comesBefore_iff.mp (h.head_before hmem)
  rw [comesBefore_iff] at hxy
  omega

/-- Of a part, the merge takes those of the first list first. -/
theorem tied_merge {hint : String} {xs : List String} (h : Ranked hint xs) (r n : Nat) (ys : List String) :
    tied hint r n (xs.merge ys (comesBefore hint)) = tied hint r n xs ++ tied hint r n ys := by
  induction xs generalizing ys with
  | nil => rw [List.nil_merge]; rfl
  | cons x xs ihx =>
    induction ys with
    | nil => rw [List.merge_right]; exact (List.append_nil _).symm
    | cons y ys ihy =>
      rw [List.cons_merge_cons]
      by_cases hxy : comesBefore hint x y = true
      · rw [if_pos hxy, tied_cons, ihx h.tail, tied_cons hint r n x xs, List.append_assoc]
      · rw [if_neg hxy, tied_cons, ihy, tied_cons hint r n y ys]
        by_cases hy : rank y hint = r ∧ y.length = n
        · -- `y` goes in front of the first list, which has nothing that ties with it.
          obtain ⟨rfl, rfl⟩ := hy
          rw [h.tied_eq_nil hxy, List.nil_append, List.nil_append]
        · have hnone : tied hint r n [y] = [] := by simp [tied, hy]
          rw [hnone, List.nil_append, List.nil_append]

/-- **The two parts of a list of candidates may be ranked apart.** -/
theorem merge_rankAll (front back : List String) (hint : String) :
    (rankAll front hint).merge (rankAll back hint) (comesBefore hint) = rankAll (front ++ back) hint := by
  have hmerged : Ranked hint ((rankAll front hint).merge (rankAll back hint) (comesBefore hint)) :=
    List.pairwise_merge (comesBefore_trans hint) (comesBefore_total hint) _ _ (ranked_rankAll front hint)
      (ranked_rankAll back hint)
  apply hmerged.eq_of_tied_eq (ranked_rankAll (front ++ back) hint)
  intro r n
  rw [tied_merge (ranked_rankAll front hint), tied_rankAll, tied_rankAll, tied_rankAll, List.filter_append,
    tied_append]

/-- **The ranked candidates are a stable, complete and sorted selection.** They are those whose rank is below
their length, each as often as it was given; they stand by rank and then by length, and those equal in both
stand as they were given. The empty text is never among them, and the candidates in front of any place and
those behind it, ranked apart and merged, are all of them ranked together. -/
theorem rankAll_stable_selection (cs : List String) (hint : String) :
    (∀ c, (rankAll cs hint).count c = if rank c hint < c.length then cs.count c else 0) ∧
      ((rankAll cs hint).Pairwise fun a b =>
        rank a hint < rank b hint ∨ rank a hint = rank b hint ∧ a.length ≤ b.length) ∧
      (∀ r n, (rankAll cs hint).filter (fun c => decide (rank c hint = r ∧ c.length = n)) =
        cs.filter fun c => decide ((rank c hint = r ∧ c.length = n) ∧ rank c hint < c.length)) ∧
      "" ∉ rankAll cs hint ∧
      ∀ k, (rankAll (cs.take k) hint).merge (rankAll (cs.drop k) hint) (comesBefore hint) =
        rankAll cs hint := by
  refine ⟨count_rankAll cs hint, (ranked_rankAll cs hint).imp comesBefore_iff.mp, ?_, ?_, ?_⟩
  · intro r n
    have hstable := tied_rankAll hint r n cs
    simpa [tied, List.filter_filter, isClose] using hstable
  · intro hmem
    have hcount : 0 < (rankAll cs hint).count "" := List.count_pos_iff.mpr hmem
    simp [count_rankAll] at hcount
  · intro k
    rw [merge_rankAll, List.take_append_drop]

end CommandShell
