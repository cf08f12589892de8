import CommandShell.Text.Width

/-!
# Dots on the terminal

No character fuses with a dot, so a text with a dot in it takes as many columns as what stands on its two sides
and one more. That is all that is relied on when a text is cut. A character that fuses may take columns back,
but no more than what follows it has lent, so that the columns of a text are a natural number.

    Widths.terminal.DotsApart
-/

namespace CommandShell.Text

/-! ## No text takes less than no column -/

theorem inRanges_iff {ranges : List (Nat × Nat)} {n : Nat} :
    inRanges ranges n = true ↔ ∃ r ∈ ranges, r.1 ≤ n ∧ n ≤ r.2 := by
  simp [inRanges]

theorem isCoengLetter_bounds {n : Nat} (h : isCoengLetter n = true) : 0x1780 ≤ n ∧ n ≤ 0x17AF := by
  simp [isCoengLetter, inRanges] at h
  omega

theorem zeroWidthRanges_outside : ∀ z ∈ zeroWidthRanges, z.2 < 0x1780 ∨ 0x17AF < z.1 := by
  decide +kernel

theorem tableWidth_pos_of_coengLetter {n : Nat} (h : isCoengLetter n = true) : 1 ≤ tableWidth n := by
  have hbounds := isCoengLetter_bounds h
  have hzero : ¬inRanges zeroWidthRanges n = true := by
    intro hn
    obtain ⟨z, hz, hlow, hhigh⟩ := inRanges_iff.1 hn
    have := zeroWidthRanges_outside z hz
    omega
  unfold tableWidth
  rw [if_neg hzero]
  repeat' split
  all_goals omega

/-- How many columns a character in front may take back. -/
def Shape.lent : Shape → Int
  | coengLetter | linkedLetter | joinedFlagLetter => 1
  | _ => 0

theorem Shape.lent_nonneg (shape : Shape) : 0 ≤ shape.lent := by
  unfold lent
  split <;> decide

theorem lent_letterShape_le (n : Nat) : (letterShape n).lent ≤ tableWidth n := by
  by_cases hcoeng : isCoengLetter n = true
  · have := tableWidth_pos_of_coengLetter hcoeng
    have hle : (letterShape n).lent ≤ 1 := by
      unfold Shape.lent
      split <;> decide
    omega
  · have hzero : (letterShape n).lent = 0 := by
      unfold letterShape
      rw [if_neg hcoeng]
      repeat' split
      all_goals rfl
    omega

theorem lent_shapeOf_le (n : Nat) : (shapeOf n).lent ≤ tableWidth n := by
  have hnonneg : (0 : Int) ≤ tableWidth n := Int.natCast_nonneg _
  unfold shapeOf
  repeat' split
  all_goals first | exact hnonneg | exact lent_letterShape_le n

theorem lent_le_of_fuseLetter? {n : Nat} {next shape : Shape} {k : Int}
    (h : fuseLetter? n next = some (k, shape)) : shape.lent ≤ next.lent + k := by
  cases next <;> grind [fuseLetter?, Shape.lent]

theorem lent_le_of_fusePicture? {n : Nat} {next shape : Shape} {k : Int}
    (h : fusePicture? n next = some (k, shape)) : shape.lent ≤ next.lent + k := by
  cases next <;> grind [fusePicture?, Shape.lent]

/-- No step takes back more than was lent, with what it lends itself. -/
theorem lent_shapeStep_le (n : Nat) (next : Shape) :
    (shapeStep n next).2.lent ≤ next.lent + (shapeStep n next).1 := by
  have hnext := next.lent_nonneg
  unfold shapeStep
  split
  · simpa [Shape.lent] using hnext
  · split
    · cases next <;> simp [Shape.behind, Shape.lent]
    · cases hletter : fuseLetter? n next with
      | some r => exact lent_le_of_fuseLetter? hletter
      | none =>
        cases hpicture : fusePicture? n next with
        | some r => exact lent_le_of_fusePicture? hpicture
        | none =>
          have := lent_shapeOf_le n
          simp
          omega

theorem Follow.lent_kept_le (f : Follow) (p : Prop) [Decidable p] :
    (if p then f.shape else .plain).lent ≤ f.shape.lent := by
  split
  · exact Int.le_refl _
  · exact f.shape.lent_nonneg

theorem lent_widthStep_le (c : Char) (next : Follow) :
    (widthStep c next).2.shape.lent ≤ next.shape.lent + (widthStep c next).1 := by
  have hnext := next.shape.lent_nonneg
  unfold widthStep
  dsimp only
  split
  · have hadded : (0 : Int) ≤ if next.shape.isJoined then 0 else 2 := by split <;> decide
    exact Int.add_nonneg hnext hadded
  · split
    · rw [Int.add_zero]
      exact next.lent_kept_le _
    · split
      · rw [Int.add_zero]
        exact next.lent_kept_le _
      · split
        · exact Int.add_nonneg hnext (by decide)
        · exact Int.le_trans (lent_shapeStep_le _ next.bare) (Int.add_le_add_right (next.lent_kept_le _) _)

theorem widthFrom_cons (c : Char) (cs : List Char) :
    widthFrom (c :: cs) = ((widthStep c (widthFrom cs).2).1 + (widthFrom cs).1,
      (widthStep c (widthFrom cs).2).2) := rfl

/-- What is lent is there, so that a text cannot take less than no column. -/
theorem lent_le_widthFrom (cs : List Char) : (widthFrom cs).2.shape.lent ≤ (widthFrom cs).1 := by
  induction cs with
  | nil => decide
  | cons c cs ih =>
    have hstep := lent_widthStep_le c (widthFrom cs).2
    rw [widthFrom_cons]
    dsimp only
    omega

theorem width_eq (s : String) : (width s : Int) = (widthFrom s.toList).1 :=
  Int.toNat_of_nonneg (Int.le_trans (Shape.lent_nonneg _) (lent_le_widthFrom s.toList))

/-! ## Dots -/

/-- In front of a text that no character fuses with, the columns of a text are its own. -/
theorem widthFrom_append {as bs : List Char} (h : (widthFrom bs).2 = ⟨.plain, none⟩) :
    widthFrom (as ++ bs) = ((widthFrom as).1 + (widthFrom bs).1, (widthFrom as).2) := by
  induction as with
  | nil =>
    rw [List.nil_append, widthFrom_nil, Int.zero_add, ← h]
  | cons a as ih => rw [List.cons_append, widthFrom_cons, widthFrom_cons, ih, Int.add_assoc]

/-- A dot takes its column, whatever follows it. -/
theorem widthStep_dot (next : Follow) : widthStep '.' next = (1, ⟨.plain, none⟩) := by
  have hoff : inRanges selectableRanges 46 = false ∧ inRanges transparentRanges 46 = false ∧
      inRanges toneBaseRanges 46 = false := by decide +kernel
  have hother : shapeOf 46 = .plain ∧ isLam 46 = false ∧ isTifinaghLetter 46 = false ∧
      isFlagLetter 46 = false ∧ isSkinTone 46 = false ∧ isUnseen 46 = false := by decide
  have hletter : ∀ shape, fuseLetter? 46 shape = none := by
    intro shape
    cases shape <;> simp [fuseLetter?, hoff, hother]
  have hpicture : ∀ shape, fusePicture? 46 shape = none := by
    intro shape
    fun_cases fusePicture? 46 shape <;> simp_all
  unfold widthStep shapeStep
  simp [hoff, hother, hletter, hpicture, tableWidth]

theorem width_append_dot_append (front behind : String) :
    width (front ++ "." ++ behind) = width front + 1 + width behind := by
  have hdot : widthFrom ('.' :: behind.toList) = (1 + (widthFrom behind.toList).1, ⟨.plain, none⟩) := by
    rw [widthFrom_cons, widthStep_dot]
  have hall := width_eq (front ++ "." ++ behind)
  rw [String.toList_append, String.toList_append, show ".".toList = ['.'] from rfl, List.append_assoc,
    List.singleton_append, widthFrom_append (by rw [hdot]), hdot, ← width_eq, ← width_eq] at hall
  omega

/-- **Dots stand apart on the terminal**, so what holds of cut texts where they do holds there. -/
theorem dotsApart_terminal : Widths.terminal.DotsApart where
  empty := rfl
  char_dot := by decide
  text_dot := width_append_dot_append

/-! ## Characters that fuse with nothing -/

/-- In a text of such characters each takes the columns that it takes alone. -/
def standsApart (c : Char) : Bool :=
  widthStep c ⟨.plain, none⟩ = ((charWidth c : Int), ⟨.plain, none⟩)

end CommandShell.Text
