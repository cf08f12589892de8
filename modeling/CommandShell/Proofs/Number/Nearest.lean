import CommandShell.Number.Binary64
import Mathlib.Algebra.Group.Nat.Defs

/-!
# Where rounding changes over

The word that is nearest to a quotient reaches a given word from the middle between that word and the one
below it. Above a power of two the words stand twice as far apart as below it, so there the middle is nearer.

    m · 2^e reached from (m - 1/2) · 2^e      (le_nearest_iff, m even and no power of two)
    2^52 · 2^e reached from (2^52 - 1/4) · 2^e  (pow_le_nearest_iff)
-/

namespace CommandShell.Number

theorem twoTo_eq (k : Nat) : twoTo k = 2 ^ k := rfl

theorem tenTo_eq (k : Nat) : tenTo k = 10 ^ k := rfl

/-! ## Whole numbers -/

theorem roundDiv_cases (num den : Nat) :
    (roundDiv num den = num / den ∧
        (2 * (num % den) < den ∨ (2 * (num % den) = den ∧ num / den % 2 = 0))) ∨
      (roundDiv num den = num / den + 1 ∧
        (den < 2 * (num % den) ∨ (2 * (num % den) = den ∧ num / den % 2 = 1))) := by
  unfold roundDiv
  dsimp only
  split
  · omega
  · split
    · omega
    · split <;> omega

theorem le_roundDiv {num den m : Nat} (hd : 0 < den) (h : m * den ≤ num) : m ≤ roundDiv num den := by
  have hq : m ≤ num / den := (Nat.le_div_iff_mul_le hd).2 h
  rcases roundDiv_cases num den with ⟨hr, -⟩ | ⟨hr, -⟩ <;> omega

theorem roundDiv_le {num den m : Nat} (hd : 0 < den) (h : num ≤ m * den) : roundDiv num den ≤ m := by
  have hq : num / den ≤ m := Nat.div_le_of_le_mul (by rwa [Nat.mul_comm] at h)
  rcases Nat.lt_or_eq_of_le hq with hlt | heq
  · rcases roundDiv_cases num den with ⟨hr, -⟩ | ⟨hr, -⟩ <;> omega
  · -- the quotient is whole
    have hsplit := Nat.div_add_mod num den
    rw [heq, Nat.mul_comm] at hsplit
    rcases roundDiv_cases num den with ⟨hr, -⟩ | ⟨hr, hhalf⟩ <;> omega

/-- An even number is reached from half below it. -/
theorem le_roundDiv_iff {num den m : Nat} (hd : 0 < den) (hm : 0 < m) (heven : m % 2 = 0) :
    m ≤ roundDiv num den ↔ (2 * m - 1) * den ≤ 2 * num := by
  have hsplit := Nat.div_add_mod num den
  have hmod := Nat.mod_lt num hd
  have hcases := roundDiv_cases num den
  rcases Nat.lt_trichotomy m (num / den + 1) with hlt | heq | hgt
  · refine iff_of_true (by omega) ?_
    calc (2 * m - 1) * den ≤ 2 * (num / den) * den := Nat.mul_le_mul_right _ (by omega)
      _ = 2 * (den * (num / den)) := by rw [Nat.mul_assoc, Nat.mul_comm (num / den)]
      _ ≤ 2 * num := by omega
  · have hexact : (2 * m - 1) * den = 2 * (den * (num / den)) + den := by
      rw [heq, show 2 * (num / den + 1) - 1 = 2 * (num / den) + 1 by omega, Nat.add_mul, Nat.one_mul,
        Nat.mul_assoc, Nat.mul_comm (num / den)]
    rw [hexact]
    omega
  · refine iff_of_false (by omega) (Nat.not_le.2 ?_)
    calc 2 * num < 2 * (den * (num / den)) + 2 * den := by omega
      _ = 2 * (num / den + 1) * den := by
        rw [Nat.mul_assoc, Nat.add_mul, Nat.one_mul, Nat.mul_add, Nat.mul_comm (num / den)]
      _ ≤ (2 * m - 1) * den := Nat.mul_le_mul_right _ (by omega)

/-! ## Exponents -/

/-- The exponent of a quotient, above one and below. -/
theorem binaryExponent_spec {num den : Nat} (hn : 0 < num) (hd : 0 < den) :
    (∃ k : Nat, binaryExponent num den = k ∧ den * 2 ^ k ≤ num ∧ num < den * 2 ^ (k + 1)) ∨
      ∃ k : Nat, binaryExponent num den = -(k + 1 : Int) ∧ num * 2 ^ k < den ∧ den ≤ num * 2 ^ (k + 1) := by
  have hn0 : 2 ^ num.log2 ≤ num := Nat.log2_self_le (Nat.ne_of_gt hn)
  have hn1 : num < 2 ^ (num.log2 + 1) := Nat.lt_log2_self
  have hd0 : 2 ^ den.log2 ≤ den := Nat.log2_self_le (Nat.ne_of_gt hd)
  have hd1 : den < 2 ^ (den.log2 + 1) := Nat.lt_log2_self
  unfold binaryExponent
  dsimp only
  generalize num.log2 = a at *
  generalize den.log2 = b at *
  rcases Nat.lt_or_ge a b with hlt | hle
  · obtain ⟨j, rfl⟩ := Nat.exists_eq_add_of_lt hlt
    have hk : (a : Int) - (a + j + 1 : Nat) = -(j + 1 : Int) := by omega
    have hneg : ¬(0 : Int) ≤ -(j + 1 : Int) := by omega
    have hnat : (-(-(j + 1 : Int))).toNat = j + 1 := by omega
    rw [hk, if_neg hneg, hnat]
    split
    · next hsmall =>
      refine Or.inr ⟨j + 1, by omega, hsmall, ?_⟩
      calc den ≤ 2 ^ (a + j + 1 + 1) := Nat.le_of_lt hd1
        _ = 2 ^ a * 2 ^ (j + 1 + 1) := by rw [← Nat.pow_add]; congr 1
        _ ≤ num * 2 ^ (j + 1 + 1) := Nat.mul_le_mul_right _ hn0
    · next hlarge =>
      refine Or.inr ⟨j, rfl, ?_, Nat.not_lt.1 hlarge⟩
      calc num * 2 ^ j < 2 ^ (a + 1) * 2 ^ j := Nat.mul_lt_mul_of_pos_right hn1 (Nat.pow_pos (by decide))
        _ = 2 ^ (a + j + 1) := by rw [← Nat.pow_add]; congr 1; omega
        _ ≤ den := hd0
  · obtain ⟨k, rfl⟩ := Nat.exists_eq_add_of_le hle
    have hk : ((b + k : Nat) : Int) - b = k := by omega
    rw [hk, if_pos (Int.natCast_nonneg k), Int.toNat_natCast]
    rw [Nat.pow_add] at hn0
    split
    · next hsmall =>
      cases k with
      | zero =>
        refine Or.inr ⟨0, rfl, by simpa [twoTo_eq] using hsmall, ?_⟩
        calc den ≤ 2 ^ (b + 1) := Nat.le_of_lt hd1
          _ = 2 ^ b * 2 ^ 0 * 2 ^ 1 := by rw [Nat.pow_zero, Nat.mul_one, ← Nat.pow_add]
          _ ≤ num * 2 ^ (0 + 1) := Nat.mul_le_mul_right _ hn0
      | succ j =>
        refine Or.inl ⟨j, by omega, ?_, hsmall⟩
        calc den * 2 ^ j ≤ 2 ^ (b + 1) * 2 ^ j := Nat.mul_le_mul_right _ (Nat.le_of_lt hd1)
          _ = 2 ^ b * 2 ^ (j + 1) := by rw [← Nat.pow_add, ← Nat.pow_add]; congr 1; omega
          _ ≤ num := hn0
    · next hlarge =>
      refine Or.inl ⟨k, rfl, Nat.not_lt.1 hlarge, ?_⟩
      calc num < 2 ^ (b + k + 1) := hn1
        _ = 2 ^ b * 2 ^ (k + 1) := by rw [← Nat.pow_add]; congr 1
        _ ≤ den * 2 ^ (k + 1) := Nat.mul_le_mul_right _ hd0

/-- A quotient of 2^52 or more has a step `2^e`, of which it is rounded to a number; the word of a smaller
one is no more than that of 2^53. -/
theorem nearest_cases {num den : Nat} (hn : 0 < num) (hd : 0 < den) :
    (∃ e : Nat, 2 ^ 52 * (den * 2 ^ e) ≤ num ∧ num < 2 ^ 53 * (den * 2 ^ e) ∧
        nearest num den = min ((e + 1074) * 2 ^ 52 + roundDiv num (den * 2 ^ e)) infinityWord) ∨
      (num < 2 ^ 52 * den ∧ nearest num den ≤ 1075 * 2 ^ 52) := by
  -- below 2^52 the step is less than 1
  have hsmall : ∀ e : Int, -1074 ≤ e → e < 0 → num * 2 ^ (-e).toNat ≤ 2 ^ 53 * den →
      (e + 1074).toNat * 2 ^ 52 + roundDiv (num * 2 ^ (-e).toNat) den ≤ 1075 * 2 ^ 52 := by
    intro e hlow hneg hle
    have hround := roundDiv_le hd hle
    have he : (e + 1074).toNat ≤ 1073 := by omega
    omega
  unfold nearest
  rw [if_neg (Nat.ne_of_gt hn)]
  dsimp only
  rcases binaryExponent_spec hn hd with ⟨k, hk, hlow, hhigh⟩ | ⟨k, hk, hhigh, -⟩
  · rcases Nat.lt_or_ge k 52 with hlt | hge
    · have he : max (binaryExponent num den - 52) (-1074) = -((52 - k : Nat) : Int) := by omega
      refine Or.inr ⟨?_, ?_⟩
      · calc num < den * 2 ^ (k + 1) := hhigh
          _ ≤ den * 2 ^ 52 := Nat.mul_le_mul_left _ (Nat.pow_le_pow_right (by decide) hlt)
          _ = 2 ^ 52 * den := Nat.mul_comm ..
      · rw [he, if_pos (by omega)]
        refine Nat.le_trans (Nat.min_le_left ..) (hsmall _ (by omega) (by omega) ?_)
        rw [Int.neg_neg, Int.toNat_natCast]
        calc num * 2 ^ (52 - k) ≤ den * 2 ^ (k + 1) * 2 ^ (52 - k) :=
              Nat.mul_le_mul_right _ (Nat.le_of_lt hhigh)
          _ = 2 ^ 53 * den := by
            rw [Nat.mul_assoc, ← Nat.pow_add, show k + 1 + (52 - k) = 53 by omega, Nat.mul_comm]
    · have he : max (binaryExponent num den - 52) (-1074) = ((k - 52 : Nat) : Int) := by omega
      have hpow : ∀ j, 2 ^ (52 + j) * (den * 2 ^ (k - 52)) = den * 2 ^ (k + j) := by
        intro j
        rw [Nat.mul_left_comm, ← Nat.pow_add]
        congr 2
        omega
      refine Or.inl ⟨k - 52, ?_, ?_, ?_⟩
      · rw [hpow 0]
        exact hlow
      · rw [hpow 1]
        exact hhigh
      · rw [he, if_neg (by omega)]
        rfl
  · refine Or.inr ⟨?_, ?_⟩
    · have hone : num * 1 ≤ num * 2 ^ k := Nat.mul_le_mul_left _ (Nat.pow_pos (by decide))
      omega
    · have hneg : max (binaryExponent num den - 52) (-1074) < 0 := by omega
      have hle : (-max (binaryExponent num den - 52) (-1074)).toNat ≤ k + 53 := by omega
      rw [if_pos hneg]
      refine Nat.le_trans (Nat.min_le_left ..) (hsmall _ (by omega) hneg ?_)
      calc num * 2 ^ (-max (binaryExponent num den - 52) (-1074)).toNat ≤ num * 2 ^ (k + 53) :=
            Nat.mul_le_mul_left _ (Nat.pow_le_pow_right (by decide) hle)
        _ = 2 ^ 53 * (num * 2 ^ k) := by rw [Nat.pow_add, ← Nat.mul_assoc, Nat.mul_comm]
        _ ≤ 2 ^ 53 * den := Nat.mul_le_mul_left _ (Nat.le_of_lt hhigh)

/-! ## Words -/

theorem step_succ (den e : Nat) : den * 2 ^ (e + 1) = 2 * (den * 2 ^ e) := by
  rw [Nat.pow_succ, ← Nat.mul_assoc, Nat.mul_comm (den * 2 ^ e)]

theorem step_mono {e e' : Nat} (h : e ≤ e') (den : Nat) : den * 2 ^ e ≤ den * 2 ^ e' :=
  Nat.mul_le_mul_left _ (Nat.pow_le_pow_right (by decide) h)

theorem two_mul_step_le {e e' : Nat} (h : e < e') (den : Nat) : 2 * (den * 2 ^ e) ≤ den * 2 ^ e' := by
  rw [← step_succ]
  exact step_mono h den

/-- A word whose number is even, and no power of two, is reached from half a step below it. -/
theorem le_nearest_iff {num den m e : Nat} (hd : 0 < den) (hm : 2 ^ 52 < m) (hm' : m < 2 ^ 53)
    (heven : m % 2 = 0) (he : 1 ≤ e) (he' : e ≤ 971) :
    (e + 1074) * 2 ^ 52 + m ≤ nearest num den ↔ (2 * m - 1) * (den * 2 ^ e) ≤ 2 * num := by
  have hstep : ∀ e, 0 < den * 2 ^ e := fun e => Nat.mul_pos hd (Nat.pow_pos (by decide))
  have hfinite : (e + 1074) * 2 ^ 52 + m ≤ infinityWord := by
    unfold infinityWord
    rw [twoTo_eq]
    omega
  have hlow : 2 ^ 53 * (den * 2 ^ e) < (2 * m - 1) * (den * 2 ^ e) :=
    Nat.mul_lt_mul_of_pos_right (by omega) (hstep e)
  have hhigh : (2 * m - 1) * (den * 2 ^ e) ≤ 2 ^ 54 * (den * 2 ^ e) := Nat.mul_le_mul_right _ (by omega)
  rcases Nat.eq_zero_or_pos num with rfl | hn
  · rw [nearest_zero]
    exact iff_of_false (by omega) (by omega)
  rcases nearest_cases hn hd with ⟨e', hle, hlt, heq⟩ | ⟨hlt, hle⟩
  · have hround : 2 ^ 52 ≤ roundDiv num (den * 2 ^ e') := le_roundDiv (hstep e') hle
    have hround' : roundDiv num (den * 2 ^ e') ≤ 2 ^ 53 := roundDiv_le (hstep e') (Nat.le_of_lt hlt)
    rw [heq]
    rcases Nat.lt_trichotomy e e' with hee | rfl | hee
    · have := two_mul_step_le hee den
      exact iff_of_true (Nat.le_min.2 ⟨by omega, hfinite⟩) (by omega)
    · rw [← le_roundDiv_iff (hstep e) (by omega) heven, Nat.le_min]
      omega
    · have := two_mul_step_le hee den
      refine iff_of_false (fun h => ?_) (by omega)
      have := (Nat.le_min.1 h).1
      omega
  · have := two_mul_step_le (show 0 < e from he) den
    refine iff_of_false (by omega) ?_
    rw [Nat.pow_zero, Nat.mul_one] at this
    omega

/-- The word of a power of two is reached from a quarter of its step below it. -/
theorem pow_le_nearest_iff {num den e : Nat} (hd : 0 < den) (he : 1 ≤ e) (he' : e ≤ 972) :
    (e + 1075) * 2 ^ 52 ≤ nearest num den ↔ (2 ^ 54 - 1) * (den * 2 ^ e) ≤ 4 * num := by
  have hstep : ∀ e, 0 < den * 2 ^ e := fun e => Nat.mul_pos hd (Nat.pow_pos (by decide))
  have hfinite : (e + 1075) * 2 ^ 52 ≤ infinityWord := by
    unfold infinityWord
    rw [twoTo_eq]
    omega
  have hpos := hstep e
  rcases Nat.eq_zero_or_pos num with rfl | hn
  · rw [nearest_zero]
    exact iff_of_false (by omega) (by omega)
  rcases nearest_cases hn hd with ⟨e', hle, hlt, heq⟩ | ⟨hlt, hle⟩
  · have hround : 2 ^ 52 ≤ roundDiv num (den * 2 ^ e') := le_roundDiv (hstep e') hle
    have hround' : roundDiv num (den * 2 ^ e') ≤ 2 ^ 53 := roundDiv_le (hstep e') (Nat.le_of_lt hlt)
    rw [heq, Nat.le_min]
    rcases Nat.lt_trichotomy (e' + 1) e with hee | rfl | hee
    · have h2 := two_mul_step_le (show e' < e - 1 by omega) den
      have h4 := two_mul_step_le (show e - 1 < e by omega) den
      exact iff_of_false (fun h => by omega) (by omega)
    · -- the quotient is below the power, and reaches it by rounding up
      have hiff : 2 ^ 53 ≤ roundDiv num (den * 2 ^ e') ↔ (2 * 2 ^ 53 - 1) * (den * 2 ^ e') ≤ 2 * num :=
        le_roundDiv_iff (hstep e') (by decide) (by decide)
      rw [step_succ den e']
      omega
    · have hee' : e ≤ e' := Nat.le_of_lt_succ hee
      have hquotient := step_mono hee' den
      have hword : (e + 1075) * 2 ^ 52 ≤ (e' + 1074) * 2 ^ 52 + roundDiv num (den * 2 ^ e') := by
        calc (e + 1075) * 2 ^ 52 ≤ (e' + 1074 + 1) * 2 ^ 52 :=
              Nat.mul_le_mul_right _ (Nat.add_le_add_right hee' 1075)
          _ = (e' + 1074) * 2 ^ 52 + 2 ^ 52 := Nat.succ_mul ..
          _ ≤ (e' + 1074) * 2 ^ 52 + roundDiv num (den * 2 ^ e') := Nat.add_le_add_left hround _
      exact iff_of_true ⟨hword, hfinite⟩ (by omega)
  · have := two_mul_step_le (show 0 < e from he) den
    rw [Nat.pow_zero, Nat.mul_one] at this
    exact iff_of_false (by omega) (by omega)

theorem parts_word (biased : Nat) {fraction : Nat} (h : fraction < 2 ^ 52) :
    parts (biased * 2 ^ 52 + fraction) =
      if biased = 0 then (fraction, -1074) else (fraction + 2 ^ 52, (biased : Int) - 1075) := by
  unfold parts
  rw [twoTo_eq, Nat.add_comm, Nat.add_mul_div_right _ _ (by decide), Nat.add_mul_mod_self_right,
    Nat.div_eq_of_lt h, Nat.mod_eq_of_lt h, Nat.zero_add]

theorem parts_eq (word : Nat) :
    ∃ biased fraction : Nat, word = biased * 2 ^ 52 + fraction ∧ fraction < 2 ^ 52 ∧
      parts word =
        if biased = 0 then (fraction, -1074) else (fraction + 2 ^ 52, (biased : Int) - 1075) :=
  ⟨word / 2 ^ 52, word % 2 ^ 52, (Nat.div_add_mod' word _).symm, Nat.mod_lt _ (by decide), rfl⟩

/-- A finite word below that of 2^52 is a quotient of a smaller number; any other one is a whole number
`m · 2^e`. -/
theorem ratio_cases {word : Nat} (h : word < infinityWord) :
    (word < 1075 * 2 ^ 52 ∧ (ratio word).1 < 2 ^ 53 ∧ 0 < (ratio word).2) ∨
      ∃ m e : Nat, 2 ^ 52 ≤ m ∧ m < 2 ^ 53 ∧ e ≤ 971 ∧ word = (e + 1074) * 2 ^ 52 + m ∧
        ratio word = (m * 2 ^ e, 1) := by
  obtain ⟨biased, fraction, hword, hfraction, hparts⟩ := parts_eq word
  have hinfinity : infinityWord = 2047 * 2 ^ 52 := rfl
  have hpos : ∀ m k : Nat, 0 < (m, twoTo k).2 := fun _ k => twoTo_pos k
  unfold ratio
  rw [hparts]
  by_cases hzero : biased = 0
  · rw [if_pos hzero]
    dsimp only
    rw [if_pos (by decide)]
    exact Or.inl ⟨by omega, Nat.lt_trans hfraction (by decide), hpos _ _⟩
  rw [if_neg hzero]
  dsimp only
  rcases Nat.lt_or_ge biased 1075 with hlt | hge
  · have hneg : (biased : Int) - 1075 < 0 := by omega
    rw [if_pos hneg]
    exact Or.inl ⟨by omega, Nat.add_lt_add_right hfraction _, hpos _ _⟩
  · obtain ⟨e, rfl⟩ := Nat.exists_eq_add_of_le' hge
    have hcast : ((e + 1075 : Nat) : Int) - 1075 = e := by omega
    have hsum : word = (e + 1074) * 2 ^ 52 + (fraction + 2 ^ 52) := by
      rw [hword, show e + 1075 = e + 1074 + 1 from rfl, Nat.succ_mul, Nat.add_assoc, Nat.add_comm (2 ^ 52)]
    rw [hcast, if_neg (by omega), Int.toNat_natCast]
    exact Or.inr ⟨fraction + 2 ^ 52, e, Nat.le_add_left .., Nat.add_lt_add_right hfraction _, by omega, hsum, rfl⟩

theorem ratio_pos (word : Nat) : 0 < (ratio word).2 := by
  unfold ratio
  dsimp only
  split
  · exact twoTo_pos _
  · exact Nat.one_pos

/-- No finite word is larger than 2^53 - 1 of the largest steps. -/
theorem ratio_le {word k : Nat} (h : word < infinityWord) (hk : 971 ≤ k) :
    (ratio word).1 ≤ (2 ^ 53 - 1) * ((ratio word).2 * 2 ^ k) := by
  rcases ratio_cases h with ⟨-, hnum, hden⟩ | ⟨m, e, hm, hm', he, -, hratio⟩
  · calc (ratio word).1 ≤ (2 ^ 53 - 1) * 1 := by omega
      _ ≤ (2 ^ 53 - 1) * ((ratio word).2 * 2 ^ k) :=
        Nat.mul_le_mul_left _ (Nat.mul_pos hden (Nat.pow_pos (by decide)))
  · rw [hratio]
    dsimp only
    rw [Nat.one_mul]
    exact Nat.mul_le_mul (by omega) (Nat.pow_le_pow_right (by decide) (Nat.le_trans he hk))

end CommandShell.Number
