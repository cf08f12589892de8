import CommandShell.History

/-!
# Entries of the history

The last of several equal entries counts, so entries in front of others lose what comes again behind
them. Adding a line and putting loaded lines in front do not depend on which is done first.

    dedupe (xs ++ ys)          = the entries of dedupe xs that are not in ys, then dedupe ys
    (h.add x).mergeLoaded l    = (h.mergeLoaded l).add x
    (h.mergeLoaded l).addAll l' = dedupe (l ++ h ++ l')
-/

namespace CommandShell

/-! ## Removing repetitions -/

theorem dedupe_append (xs ys : List String) :
    dedupe (xs ++ ys) = (dedupe xs).filter (fun x => !ys.contains x) ++ dedupe ys := by
  induction xs with
  | nil => rfl
  | cons x xs ih =>
    rw [List.cons_append, dedupe, dedupe]
    by_cases hx : (Text.allBlank x || xs.contains x) = true
    · have hxy : (Text.allBlank x || (xs ++ ys).contains x) = true := by
        rw [Bool.or_eq_true, List.contains_iff_mem] at hx ⊢
        exact hx.imp_right fun h => List.mem_append_left ys h
      rw [if_pos hx, if_pos hxy, ih]
    · rw [if_neg hx]
      by_cases hy : ys.contains x = true
      · have hxy : (Text.allBlank x || (xs ++ ys).contains x) = true := by
          rw [Bool.or_eq_true, List.contains_iff_mem]
          exact Or.inr (List.mem_append_right xs (List.contains_iff_mem.1 hy))
        rw [if_pos hxy, ih, List.filter_cons_of_neg (by rw [hy]; exact Bool.false_ne_true)]
      · have hxy : ¬(Text.allBlank x || (xs ++ ys).contains x) = true := by
          rw [Bool.or_eq_true, List.contains_iff_mem] at hx ⊢
          rintro (hb | hm)
          · exact hx (Or.inl hb)
          · rcases List.mem_append.1 hm with hm | hm
            · exact hx (Or.inr hm)
            · exact hy (List.contains_iff_mem.2 hm)
        rw [if_neg hxy, ih, List.filter_cons_of_pos (by simpa using hy), List.cons_append]

theorem nodup_dedupe (xs : List String) : (dedupe xs).Nodup := by
  induction xs with
  | nil => exact List.nodup_nil
  | cons x xs ih =>
    rw [dedupe]
    split
    · exact ih
    · next hx =>
      rw [Bool.or_eq_true, List.contains_iff_mem, not_or] at hx
      exact List.nodup_cons.2 ⟨fun h => hx.2 (mem_dedupe.1 h).1, ih⟩

theorem dedupe_filter (p : String → Bool) (xs : List String) :
    dedupe (xs.filter p) = (dedupe xs).filter p := by
  induction xs with
  | nil => rfl
  | cons x xs ih =>
    by_cases hp : p x = true
    · have hmem : (xs.filter p).contains x = xs.contains x := by
        rw [Bool.eq_iff_iff, List.contains_iff_mem, List.contains_iff_mem, List.mem_filter]
        exact and_iff_left hp
      rw [List.filter_cons_of_pos hp, dedupe, dedupe, hmem]
      split
      · exact ih
      · rw [List.filter_cons_of_pos hp, ih]
    · rw [List.filter_cons_of_neg hp, dedupe, ih]
      split
      · rfl
      · rw [List.filter_cons_of_neg hp]

/-- Blank lines need not be there. -/
theorem dedupe_filter_notBlank (xs : List String) :
    dedupe (xs.filter fun x => !Text.allBlank x) = dedupe xs := by
  rw [dedupe_filter, List.filter_eq_self]
  intro x hx
  simpa using (mem_dedupe.1 hx).2

theorem dedupe_append_filter_notBlank (xs ys : List String) :
    dedupe (xs ++ ys.filter fun x => !Text.allBlank x) = dedupe (xs ++ ys) := by
  rw [← dedupe_filter_notBlank, ← dedupe_filter_notBlank (xs ++ ys), List.filter_append,
    List.filter_append, List.filter_filter]
  simp only [Bool.and_self]

theorem dedupe_eq_self {xs : List String} (hn : xs.Nodup) (hb : ∀ x ∈ xs, Text.allBlank x = false) :
    dedupe xs = xs := by
  induction xs with
  | nil => rfl
  | cons x xs ih =>
    rw [List.nodup_cons] at hn
    have hx : Text.allBlank x = false := hb x List.mem_cons_self
    rw [dedupe, if_neg (by simp [hx, hn.1]), ih hn.2 fun y hy => hb y (List.mem_cons_of_mem x hy)]

theorem dedupe_dedupe_append (xs ys : List String) :
    dedupe (dedupe xs ++ ys) = dedupe (xs ++ ys) := by
  rw [dedupe_append, dedupe_append,
    dedupe_eq_self (nodup_dedupe xs) fun x hx => (mem_dedupe.1 hx).2]

/-- A line behind all others stays, and its earlier places go. -/
theorem dedupe_concat (xs : List String) {x : String} (hx : Text.allBlank x = false) :
    dedupe (xs ++ [x]) = (dedupe xs).filter (· != x) ++ [x] := by
  rw [dedupe_append]
  have hlast : dedupe [x] = [x] := by simp [dedupe, hx]
  rw [hlast]
  congr 1
  refine List.filter_congr fun y _ => ?_
  rw [Bool.eq_iff_iff]
  simp

/-! ## Adding and merging -/

namespace History

theorem add_of_blank (h : History) {line : String} (hb : Text.allBlank line = true) :
    h.add line = h := if_pos hb

/-- **Entries that arrive late are as if they had arrived in time.** -/
theorem add_mergeLoaded (h : History) (loaded : List String) (line : String) :
    (h.add line).mergeLoaded loaded = (h.mergeLoaded loaded).add line := by
  by_cases hb : Text.allBlank line = true
  · rw [add_of_blank _ hb, add_of_blank _ hb]
  · have hline : Text.allBlank line = false := Bool.not_eq_true _ ▸ hb
    unfold add mergeLoaded
    rw [if_neg hb, if_neg hb]
    dsimp only
    rw [← List.append_assoc, dedupe_concat _ hline, ← dedupe_filter, ← dedupe_filter,
      List.filter_append, List.filter_append, List.filter_filter]
    simp only [Bool.and_self]

/-- The lines of a session, added one by one. -/
def addAll (h : History) (lines : List String) : History :=
  lines.foldl add h

/-- Lines are added to entries as they are put behind them. -/
theorem addAll_dedupe (xs lines : List String) :
    (⟨dedupe xs⟩ : History).addAll lines = ⟨dedupe (xs ++ lines)⟩ := by
  unfold addAll
  induction lines generalizing xs with
  | nil => rw [List.append_nil]; rfl
  | cons line lines ih =>
    have hadd : (⟨dedupe xs⟩ : History).add line = ⟨dedupe (xs ++ [line])⟩ := by
      by_cases hb : Text.allBlank line = true
      · have hnone : dedupe [line] = [] := by simp [dedupe, hb]
        rw [add_of_blank _ hb, ← dedupe_filter_notBlank (xs ++ [line]), List.filter_append]
        rw [List.filter_cons_of_neg (by simpa using hb), List.filter_nil, List.append_nil,
          dedupe_filter_notBlank]
      · rw [dedupe_concat xs (by simpa using hb), add, if_neg hb]
    rw [List.foldl_cons, hadd, ih, List.append_assoc]
    rfl

theorem entries_addAll_mergeLoaded (h : History) (loaded lines : List String) :
    ((h.mergeLoaded loaded).addAll lines).entries = dedupe (loaded ++ h.entries ++ lines) := by
  rw [mergeLoaded, addAll_dedupe]

end History
end CommandShell
