import CommandShell.Proofs.Rank.EditDistance
import CommandShell.Proofs.Rank.Selection
import CommandShell.Proofs.Text.Lowercase

/-!
# Names that are being typed

A hint that begins a name, or one of its parts, has rank 0 if it does so in lowercase too, which only a hint
that ends a word early fails to do. A name of rank 0 stays among the close ones, behind names of rank 0 that
are no longer.

    segments (lowerFrom [] cs)  =  (segments cs).map (lowerFrom [])
    rank c h = 0  ↔  an acronym, or h begins the name or a part of it, in lowercase
    rank c h ≤ distance h c, in lowercase
    rank c h = 0  ↔  in each list the names in front of c have rank 0 and are no longer
-/

namespace CommandShell

open Text

/-! ## Parts in lowercase -/

theorem segments_hyphen_cons (cs : List Char) : segments ('-' :: cs) = [] :: segments cs := by
  rw [segments, if_pos rfl]

theorem segments_cons_of_ne {c : Char} {cs s : List Char} {rest : List (List Char)} (hc : c ≠ '-')
    (h : segments cs = s :: rest) : segments (c :: cs) = (c :: s) :: rest := by
  rw [segments, if_neg hc, h]

theorem segments_append_of_notMem {as bs s : List Char} {rest : List (List Char)} (ha : '-' ∉ as)
    (h : segments bs = s :: rest) : segments (as ++ bs) = (as ++ s) :: rest := by
  induction as with
  | nil => exact h
  | cons a as ih =>
    rw [List.mem_cons, not_or] at ha
    exact segments_cons_of_ne (Ne.symm ha.1) (ih ha.2)

/-- The first part is the whole text, or a hyphen stands behind it. -/
theorem eq_of_segments_eq_cons {cs s : List Char} {rest : List (List Char)} (h : segments cs = s :: rest) :
    cs = s ∨ ∃ behind, cs = s ++ '-' :: behind := by
  induction cs generalizing s rest with
  | nil =>
    cases h
    exact Or.inl rfl
  | cons c cs ih =>
    by_cases hc : c = '-'
    · rw [hc, segments_hyphen_cons] at h
      obtain ⟨rfl, -⟩ := List.cons.inj h
      exact Or.inr ⟨cs, by rw [hc]; rfl⟩
    · obtain ⟨t, more, ht⟩ := List.exists_cons_of_ne_nil (segments_ne_nil cs)
      rw [segments_cons_of_ne hc ht] at h
      obtain ⟨rfl, -⟩ := List.cons.inj h
      rcases ih ht with rfl | ⟨behind, rfl⟩
      · exact Or.inl rfl
      · exact Or.inr ⟨behind, rfl⟩

theorem startsCased_of_segments {cs s : List Char} {rest : List (List Char)} (h : segments cs = s :: rest) :
    startsCased s = startsCased cs := by
  rcases eq_of_segments_eq_cons h with rfl | ⟨behind, rfl⟩
  · rfl
  · exact (startsCased_append_hyphen s behind).symm

theorem formAt_of_segments {cs s : List Char} {rest : List (List Char)} (h : segments cs = s :: rest)
    (before : List Char) (c : Char) : formAt before c s = formAt before c cs := by
  rw [formAt, formAt, startsCased_of_segments h]

/-- Behind a text, only the first part is put in lowercase by what stands in front of it. -/
theorem segments_lowerFrom {cs s : List Char} {rest : List (List Char)} (h : segments cs = s :: rest)
    (before : List Char) : segments (lowerFrom before cs) = lowerFrom before s :: rest.map (lowerFrom []) := by
  induction cs generalizing before s rest with
  | nil =>
    cases h
    rfl
  | cons c cs ih =>
    obtain ⟨t, more, ht⟩ := List.exists_cons_of_ne_nil (segments_ne_nil cs)
    by_cases hc : c = '-'
    · rw [hc, segments_hyphen_cons, ht] at h
      cases h
      rw [hc, lowerFrom_hyphen_cons, segments_hyphen_cons, ih ht]
      rfl
    · rw [segments_cons_of_ne hc ht] at h
      cases h
      have hno : '-' ∉ formAt before c cs := by rwa [sign_mem_formAt_iff (by decide)]
      rw [lowerFrom_cons, segments_append_of_notMem hno (ih ht (c :: before)), ← formAt_of_segments ht]
      rfl

theorem segments_lowercase (s : String) :
    segments (lowercase s).toList = (segments s.toList).map (lowerFrom []) := by
  obtain ⟨part, rest, h⟩ := List.exists_cons_of_ne_nil (segments_ne_nil s.toList)
  rw [lowercase, String.toList_ofList, segments_lowerFrom h, h]
  rfl

/-! ## Rank 0 -/

theorem rankLower_eq_zero_iff (candidate hint : List Char) :
    rankLower candidate hint = 0 ↔ isAcronym hint (segments candidate) = true ∨
      ∃ part ∈ candidate :: segments candidate, hint <+: part := by
  have hbegins : (hint.isPrefixOf candidate || (segments candidate).any (hint.isPrefixOf ·)) = true ↔
      ∃ part ∈ candidate :: segments candidate, hint <+: part := by simp
  unfold rankLower
  rw [← hbegins]
  split
  · next hacronym => simp [hacronym]
  · next hacronym =>
    split
    · next hbegun => simp [hbegun]
    · next hbegun =>
      rw [iff_false_intro hacronym, iff_false_intro hbegun, or_false, iff_false]
      split
      · exact Nat.one_ne_zero
      · -- Equal texts would have met the rule before.
        rw [distance_eq_editCost, editCost_eq_zero_iff]
        rintro rfl
        exact hbegun (hbegins.2 ⟨hint, List.mem_cons_self, List.prefix_refl hint⟩)

theorem rankLower_le_distance (candidate hint : List Char) :
    rankLower candidate hint ≤ distance hint candidate := by
  by_cases h : rankLower candidate hint = 0
  · rw [h]
    exact Nat.zero_le _
  · have hpos : distance hint candidate ≠ 0 := by
      rw [distance_eq_editCost]
      intro he
      obtain rfl := editCost_eq_zero_iff.1 he
      exact h ((rankLower_eq_zero_iff hint hint).2 (Or.inr ⟨hint, List.mem_cons_self, List.prefix_refl hint⟩))
    unfold rankLower
    repeat' split
    all_goals omega

/-- What a hint for a name may begin: the name, and its parts between hyphens. -/
def nameParts (name : String) : List (List Char) :=
  name.toList :: segments name.toList

theorem rank_eq_zero_iff (c h : String) :
    rank c h = 0 ↔ isAcronym (lowercase h).toList (segments (lowercase c).toList) = true ∨
      ∃ part ∈ nameParts c, lowerFrom [] h.toList <+: lowerFrom [] part := by
  have hparts : (lowercase c).toList :: segments (lowercase c).toList = (nameParts c).map (lowerFrom []) := by
    rw [segments_lowercase, lowercase, String.toList_ofList]
    rfl
  have hhint : (lowercase h).toList = lowerFrom [] h.toList := String.toList_ofList
  rw [rank, rankLower_eq_zero_iff, hparts, hhint]
  refine or_congr_right ⟨?_, ?_⟩
  · rintro ⟨lower, hlower, hbegins⟩
    obtain ⟨part, hpart, rfl⟩ := List.mem_map.1 hlower
    exact ⟨part, hpart, hbegins⟩
  · rintro ⟨part, hpart, hbegins⟩
    exact ⟨lowerFrom [] part, List.mem_map_of_mem hpart, hbegins⟩

/-! ## Places in the selection -/

theorem rankAll_of_pair (c h : String) (hclose : isClose h c = true) : rankAll [c, c] h = [c, c] := by
  have hself : comesBefore h c c = true := comesBefore_iff.2 (.inr ⟨rfl, Nat.le_refl _⟩)
  exact Ranked.rankAll_eq (List.pairwise_pair.2 hself) (by simp [hclose])

/-- A name is in front of the same name, so all that are in front of it have rank 0 only if it has. -/
theorem rank_eq_zero_iff_rankAll {c : String} (hc : c ≠ "") (h : String) :
    rank c h = 0 ↔ ∀ cs, c ∈ cs → c ∈ rankAll cs h ∧
      ∀ front behind, rankAll cs h = front ++ c :: behind →
        ∀ d ∈ front, rank d h = 0 ∧ d.length ≤ c.length := by
  have hlength : 0 < c.length := Nat.pos_of_ne_zero fun he => hc (String.length_eq_zero_iff.1 he)
  constructor
  · intro hzero cs hmem
    refine ⟨mem_rankAll.2 ⟨hmem, by simp [isClose, hzero, hlength]⟩, fun front behind hcut d hd => ?_⟩
    have hranked := ranked_rankAll cs h
    rw [hcut] at hranked
    have hbefore := (List.pairwise_append.1 hranked).2.2 d hd c List.mem_cons_self
    rw [comesBefore_iff] at hbefore
    omega
  · intro hall
    obtain ⟨hmem, hfront⟩ := hall [c, c] List.mem_cons_self
    have hpair := rankAll_of_pair c h (mem_rankAll.1 hmem).2
    exact (hfront [c] [] hpair c List.mem_cons_self).1

/-- **Typing a name keeps it in front**, but where the hint ends a word early. A rank is at most the edit
distance in lowercase. A hint that begins the name or a part of it has rank 0 exactly if it ends no word early
there, or fits another part or the acronym. And rank 0 is what keeps the name among the close ones of every
list, with only names of rank 0 that are no longer in front of it. -/
theorem typed_name_rank_zero_iff (c h : String) :
    rank c h ≤ distance (lowercase h).toList (lowercase c).toList ∧
    (∀ part ∈ nameParts c, ∀ rest, part = h.toList ++ rest →
      (rank c h = 0 ↔ ¬EndsWordEarly [] h.toList rest ∨
        isAcronym (lowercase h).toList (segments (lowercase c).toList) = true ∨
        ∃ other ∈ nameParts c, other ≠ part ∧ lowerFrom [] h.toList <+: lowerFrom [] other)) ∧
    (c ≠ "" → (rank c h = 0 ↔ ∀ cs, c ∈ cs → c ∈ rankAll cs h ∧
      ∀ front behind, rankAll cs h = front ++ c :: behind →
        ∀ d ∈ front, rank d h = 0 ∧ d.length ≤ c.length)) := by
  refine ⟨rankLower_le_distance _ _, ?_, fun hc => rank_eq_zero_iff_rankAll hc h⟩
  rintro part hpart rest rfl
  rw [rank_eq_zero_iff, ← lowerFrom_prefix_append_iff]
  constructor
  · rintro (hacronym | ⟨other, hother, hbegins⟩)
    · exact Or.inr (Or.inl hacronym)
    · by_cases he : other = h.toList ++ rest
      · exact Or.inl (he ▸ hbegins)
      · exact Or.inr (Or.inr ⟨other, hother, he, hbegins⟩)
  · rintro (hbegins | hacronym | ⟨other, hother, -, hbegins⟩)
    · exact Or.inr ⟨_, hpart, hbegins⟩
    · exact Or.inl hacronym
    · exact Or.inr ⟨other, hother, hbegins⟩

/-- A hint that stops behind a sigma where the word of the name does too. -/
theorem typed_name_rank_zero_iff_hodos :
    let c := "ΟΔΟΣ-list"
    let cs := ["zoo", c, "οδος"]
    (c.toList ∈ nameParts c ∧ c.toList = "ΟΔΟΣ".toList ++ "-list".toList ∧
        ¬EndsWordEarly [] "ΟΔΟΣ".toList "-list".toList) ∧
      rank c "ΟΔΟΣ" = 0 ∧ c ≠ "" ∧ c ∈ cs ∧ c ∈ rankAll cs "ΟΔΟΣ" ∧
      ∀ front behind, rankAll cs "ΟΔΟΣ" = front ++ c :: behind →
        ∀ d ∈ front, rank d "ΟΔΟΣ" = 0 ∧ d.length ≤ c.length := by
  intro c cs
  obtain ⟨-, hpart, hplace⟩ := typed_name_rank_zero_iff c "ΟΔΟΣ"
  have hself : c.toList ∈ nameParts c := List.mem_cons_self
  have hcut : c.toList = "ΟΔΟΣ".toList ++ "-list".toList := by decide
  have hends : ¬EndsWordEarly [] "ΟΔΟΣ".toList "-list".toList :=
    (lowerFrom_prefix_append_iff _ _ _).1 (by decide +kernel)
  have hzero : rank c "ΟΔΟΣ" = 0 := (hpart _ hself _ hcut).2 (Or.inl hends)
  have hne : c ≠ "" := by decide
  have hmem : c ∈ cs := by simp [cs]
  obtain ⟨hkept, hfront⟩ := (hplace hne).1 hzero cs hmem
  exact ⟨⟨hself, hcut, hends⟩, hzero, hne, hmem, hkept, hfront⟩

/-- In the hint the sigma is a final one, in the name it is not: the letter takes the name from rank 0 to its
edit distance, and a short name out of the list. -/
theorem typing_demotes_behind_sigma :
    ("ΟΔΥΣΣΕΑΣ".toList = "ΟΔΥΣ".toList ++ "ΣΕΑΣ".toList ∧ rank "ΟΔΥΣΣΕΑΣ" "ΟΔΥ" = 0 ∧
        rank "ΟΔΥΣΣΕΑΣ" "ΟΔΥΣ" = 4) ∧
      "ΑΣİ".toList = "ΑΣ".toList ++ "İ".toList ∧ "ΑΣİ" ∉ rankAll ["ΑΣİ", "ab"] "ΑΣ" := by
  have hranks : rank "ΟΔΥΣΣΕΑΣ" "ΟΔΥ" = 0 ∧ rank "ΟΔΥΣΣΕΑΣ" "ΟΔΥΣ" = 4 ∧ ¬isClose "ΑΣ" "ΑΣİ" = true := by
    decide +kernel
  obtain ⟨hthree, hfour, hfar⟩ := hranks
  exact ⟨⟨by decide, hthree, hfour⟩, by decide, fun hmem => hfar (mem_rankAll.1 hmem).2⟩

end CommandShell
