import CommandShell.Text.Case

/-!
# Lowercase of the parts of a text

The place of a character decides its lowercase form only if it is a capital sigma, which is a final one if a
word ends behind it. So a text in lowercase begins with the lowercase form of each of its beginnings, but for
those that stop behind a sigma in the middle of a word. A hyphen is no part of a word: what stands behind it
and what stands in front of it are put in lowercase as if they were alone.

    lowerFrom [] h <+: lowerFrom [] (h ++ rest)  ↔  ¬EndsWordEarly [] h rest
    lowerFrom before ('-' :: cs) = '-' :: lowerFrom [] cs
    d ∈ lowerFrom before cs  ↔  d ∈ cs              for a sign or digit d
-/

namespace CommandShell.Text

/-! ## One character -/

/-- The lowercase form of a character between two texts. -/
def formAt (before : List Char) (c : Char) (rest : List Char) : List Char :=
  if c = 'Σ' then (if startsCased before && !startsCased rest then ['ς'] else ['σ']) else lowerChar c

theorem lowerFrom_cons (before : List Char) (c : Char) (rest : List Char) :
    lowerFrom before (c :: rest) = formAt before c rest ++ lowerFrom (c :: before) rest := rfl

/-! ## Signs and digits -/

/-- A character from the blank up to the last one in front of the letter A. -/
def isSignOrDigit (c : Char) : Bool :=
  0x20 ≤ c.toNat && c.toNat < 0x41

theorem toLower_sign_all : ∀ n, n < 0x80 →
    (isSignOrDigit (Char.ofNat n).toLower || isSignOrDigit (Char.ofNat n)) = true →
    (Char.ofNat n).toLower = Char.ofNat n := by
  with_unfolding_all decide

theorem sign_lt_target : ∀ r ∈ caseRuns, 0x41 ≤ r.target := by
  decide +kernel

theorem isSignOrDigit_ofNat {n : Nat} (h : 0x41 ≤ n) : isSignOrDigit (Char.ofNat n) = false := by
  unfold Char.ofNat
  by_cases hv : n.isValidChar
  · rw [dif_pos hv]
    have hn : isSignOrDigit (Char.ofNatAux n hv) = (decide (0x20 ≤ n) && decide (n < 0x41)) := rfl
    rw [hn, Bool.and_eq_false_iff, decide_eq_false_iff_not, decide_eq_false_iff_not]
    exact Or.inr (by omega)
  · rw [dif_neg hv]
    decide

theorem CaseRun.target_le_of_image? {r : CaseRun} {n m : Nat} (h : r.image? n = some m) : r.target ≤ m := by
  unfold CaseRun.image? at h
  split at h
  · cases h
    omega
  · cases h

theorem sign_mem_lowerChar_iff {d : Char} (hd : isSignOrDigit d = true) (c : Char) : d ∈ lowerChar c ↔ c = d := by
  have hlow : d.toNat < 0x41 := by
    simp only [isSignOrDigit, Bool.and_eq_true, decide_eq_true_eq] at hd
    exact hd.2
  unfold lowerChar
  split
  · next hc =>
    have h := toLower_sign_all c.toNat hc
    rw [Char.ofNat_toNat, Bool.or_eq_true] at h
    rw [List.mem_singleton]
    constructor
    · rintro rfl
      exact (h (Or.inl hd)).symm
    · rintro rfl
      exact (h (Or.inr hd)).symm
  · next hc =>
    have hne : c ≠ d := by
      rintro rfl
      omega
    refine iff_of_false ?_ hne
    split
    · intro hmem
      have hnone : ['i', '\u0307'].all (!isSignOrDigit ·) = true := by decide
      have hno := List.all_eq_true.1 hnone d hmem
      rw [hd] at hno
      cases hno
    · split
      · next n hn =>
        obtain ⟨r, hr, hi⟩ := List.exists_of_findSome?_eq_some hn
        have hfirst := sign_lt_target r hr
        have hle := CaseRun.target_le_of_image? hi
        intro hmem
        rw [List.mem_singleton.1 hmem, isSignOrDigit_ofNat (by omega)] at hd
        cases hd
      · simpa using Ne.symm hne

theorem sign_mem_formAt_iff {d : Char} (hd : isSignOrDigit d = true) (before : List Char) (c : Char)
    (rest : List Char) : d ∈ formAt before c rest ↔ c = d := by
  unfold formAt
  split
  · next hc =>
    have hother : ∀ e ∈ ['ς', 'σ', 'Σ'], d ≠ e := by
      rintro e he rfl
      have hnone : ['ς', 'σ', 'Σ'].all (!isSignOrDigit ·) = true := by decide
      have hno := List.all_eq_true.1 hnone d he
      rw [hd] at hno
      cases hno
    refine iff_of_false ?_ fun he => hother c (by simp [hc]) he.symm
    split <;> simp [hother]
  · exact sign_mem_lowerChar_iff hd c

theorem sign_mem_lowerFrom_iff {d : Char} (hd : isSignOrDigit d = true) (before cs : List Char) :
    d ∈ lowerFrom before cs ↔ d ∈ cs := by
  induction cs generalizing before with
  | nil => rfl
  | cons c cs ih =>
    rw [lowerFrom_cons, List.mem_append, sign_mem_formAt_iff hd, ih, List.mem_cons, eq_comm (a := d)]

/-- Lowercase keeps spaces, and makes none. -/
theorem space_mem_lowercase_iff (s : String) : ' ' ∈ (lowercase s).toList ↔ ' ' ∈ s.toList := by
  rw [lowercase, String.toList_ofList, sign_mem_lowerFrom_iff (by decide)]

/-! ## What decides the form of a sigma -/

theorem startsCased_cons (c : Char) (cs : List Char) :
    startsCased (c :: cs) = if isCaseIgnorable c then startsCased cs else isCased c := by
  unfold startsCased
  rw [List.dropWhile_cons]
  cases isCaseIgnorable c <;> rfl

theorem startsCased_append (as bs : List Char) :
    startsCased (as ++ bs) = if as.all isCaseIgnorable then startsCased bs else startsCased as := by
  induction as with
  | nil => rfl
  | cons a as ih =>
    rw [List.cons_append, startsCased_cons, startsCased_cons, List.all_cons, ih]
    cases isCaseIgnorable a <;> rfl

theorem startsCased_of_all {cs : List Char} (h : cs.all isCaseIgnorable = true) : startsCased cs = false := by
  have happend := startsCased_append cs []
  rwa [List.append_nil, if_pos h] at happend

/-! ## Hyphens -/

theorem hyphen_apart : isCased '-' = false ∧ isCaseIgnorable '-' = false := by
  decide +kernel

theorem startsCased_append_hyphen (as bs : List Char) : startsCased (as ++ '-' :: bs) = startsCased as := by
  rw [startsCased_append]
  split
  · next hall =>
    rw [startsCased_of_all hall, startsCased_cons, hyphen_apart.2, if_neg Bool.false_ne_true, hyphen_apart.1]
  · rfl

theorem lowerFrom_behind_hyphen (near far cs : List Char) :
    lowerFrom (near ++ '-' :: far) cs = lowerFrom near cs := by
  induction cs generalizing near with
  | nil => rfl
  | cons c cs ih => rw [lowerFrom, lowerFrom, startsCased_append_hyphen, ← List.cons_append, ih]

theorem lowerFrom_hyphen_cons (before cs : List Char) :
    lowerFrom before ('-' :: cs) = '-' :: lowerFrom [] cs := by
  rw [lowerFrom, if_neg (by decide), ← lowerFrom_behind_hyphen [] before cs]
  rfl

/-! ## Beginnings -/

/-- The text stops behind a capital sigma, signs apart, and so ends a word, with which `rest` goes on. -/
def EndsWordEarly (before text rest : List Char) : Prop :=
  ∃ word signs, text = word ++ 'Σ' :: signs ∧ startsCased (word.reverse ++ before) = true ∧
    signs.all isCaseIgnorable = true ∧ startsCased rest = true

theorem endsWordEarly_cons {before cs rest : List Char} {c : Char} :
    EndsWordEarly before (c :: cs) rest ↔
      (c = 'Σ' ∧ startsCased before = true ∧ cs.all isCaseIgnorable = true ∧ startsCased rest = true) ∨
        EndsWordEarly (c :: before) cs rest := by
  constructor
  · rintro ⟨word, signs, htext, hword, hsigns, hrest⟩
    cases word with
    | nil =>
      obtain ⟨rfl, rfl⟩ := List.cons.inj htext
      exact Or.inl ⟨rfl, hword, hsigns, hrest⟩
    | cons d word =>
      obtain ⟨rfl, rfl⟩ := List.cons.inj htext
      rw [List.reverse_cons, List.append_assoc] at hword
      exact Or.inr ⟨word, signs, rfl, hword, hsigns, hrest⟩
  · rintro (⟨rfl, hbefore, hsigns, hrest⟩ | ⟨word, signs, rfl, hword, hsigns, hrest⟩)
    · exact ⟨[], cs, rfl, hbefore, hsigns, hrest⟩
    · refine ⟨c :: word, signs, rfl, ?_, hsigns, hrest⟩
      rwa [List.reverse_cons, List.append_assoc]

/-- More text behind a character changes its form only from the final sigma to the other one. -/
theorem formAt_append (before : List Char) (c : Char) (cs rest : List Char) :
    formAt before c (cs ++ rest) =
      if c = 'Σ' ∧ startsCased before = true ∧ cs.all isCaseIgnorable = true ∧ startsCased rest = true then ['σ']
      else formAt before c cs := by
  by_cases hc : c = 'Σ'
  · unfold formAt
    rw [if_pos hc, if_pos hc, startsCased_append]
    by_cases hsigns : cs.all isCaseIgnorable = true
    · rw [if_pos hsigns, startsCased_of_all hsigns]
      cases startsCased before <;> cases startsCased rest <;> simp [hc, hsigns]
    · have hstops : ¬(c = 'Σ' ∧ startsCased before = true ∧ cs.all isCaseIgnorable = true ∧
          startsCased rest = true) := fun h => hsigns h.2.2.1
      rw [if_neg hsigns, if_neg hstops]
  · unfold formAt
    rw [if_neg hc, if_neg hc, if_neg fun h => hc h.1]

/-- **A text in lowercase begins with its beginning in lowercase**, unless that ends a word early. -/
theorem lowerFrom_prefix_append_iff (before text rest : List Char) :
    lowerFrom before text <+: lowerFrom before (text ++ rest) ↔ ¬EndsWordEarly before text rest := by
  induction text generalizing before with
  | nil =>
    refine iff_of_true List.nil_prefix ?_
    rintro ⟨word, signs, htext, -⟩
    cases word <;> cases htext
  | cons c cs ih =>
    rw [List.cons_append, lowerFrom_cons, lowerFrom_cons, formAt_append, endsWordEarly_cons]
    split
    · next hends =>
      have hfinal : formAt before c cs = ['ς'] := by
        obtain ⟨rfl, hbefore, hsigns, -⟩ := hends
        simp [formAt, hbefore, startsCased_of_all hsigns]
      rw [hfinal]
      refine iff_of_false (fun hp => ?_) (not_not_intro (Or.inl hends))
      exact absurd (List.cons_prefix_cons.1 hp).1 (by decide)
    · next hgoes => rw [List.prefix_append_right_inj, ih, or_iff_right hgoes]

end CommandShell.Text
