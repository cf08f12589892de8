import CommandShell.Number.Decimal
import CommandShell.Proofs.Number.Nearest
import Mathlib.Algebra.Order.Field.Basic
import Mathlib.Algebra.Order.Field.Power
import Mathlib.Data.Rat.Cast.Order
import Mathlib.Tactic.Linarith
import Mathlib.Tactic.Ring

/-!
# What rounding means

A finite word has a value, a whole number `m` of steps `2^e`. A quotient is rounded to the nearest number of
the smallest steps that it takes less than 2^53 of, and a decimal is rounded like the quotient that it is.

    RoundsTo (num / den) (nearest num den)      if the word is finite
    RoundsTo (d * 10 ^ p) word  ↔  decimalWord d p is finite, and word is that
-/

namespace CommandShell.Number

/-- The value of a finite word. -/
def value (word : Nat) : ℚ :=
  (ratio word).1 / (ratio word).2

/-- The whole number nearest to a quotient, the even one of two that are equally near. -/
def NearestEven (x : ℚ) (n : Nat) : Prop :=
  |n - x| ≤ 1 / 2 ∧ (|n - x| = 1 / 2 → n % 2 = 0)

/-- The finite word nearest to a quotient: `m` steps of `2^e`, where 2^-1074 is the smallest step. -/
def RoundsTo (x : ℚ) (word : Nat) : Prop :=
  word < infinityWord ∧ ∃ (e : Int) (m : Nat), -1074 ≤ e ∧ (e = -1074 ∨ 2 ^ 52 * 2 ^ e ≤ x) ∧
    x < 2 ^ 53 * 2 ^ e ∧ NearestEven (x / 2 ^ e) m ∧ value word = m * 2 ^ e

/-! ## Whole numbers -/

theorem roundDiv_nearestEven (num : Nat) {den : Nat} (hd : 0 < den) :
    NearestEven ((num : ℚ) / den) (roundDiv num den) := by
  have hden : (0 : ℚ) < den := Nat.cast_pos.2 hd
  have hsplit : (num : ℚ) / den = (num / den : Nat) + (num % den : Nat) / den := by
    rw [div_eq_iff (ne_of_gt hden), add_mul, div_mul_cancel₀ _ (ne_of_gt hden)]
    exact_mod_cast (Nat.div_add_mod' num den).symm
  have hlt : 2 * (num % den) < den → ((num % den : Nat) : ℚ) / den < 1 / 2 := by
    intro h
    rw [div_lt_div_iff₀ hden two_pos, one_mul, mul_comm]
    exact_mod_cast h
  have hgt : den < 2 * (num % den) → 1 / 2 < ((num % den : Nat) : ℚ) / den := by
    intro h
    rw [div_lt_div_iff₀ two_pos hden, one_mul, mul_comm]
    exact_mod_cast h
  have heq : 2 * (num % den) = den → ((num % den : Nat) : ℚ) / den = 1 / 2 := by
    intro h
    rw [div_eq_div_iff (ne_of_gt hden) two_ne_zero, one_mul, mul_comm]
    exact_mod_cast h
  have hlow : (0 : ℚ) ≤ ((num % den : Nat) : ℚ) / den := div_nonneg (Nat.cast_nonneg _) (le_of_lt hden)
  have hhigh : ((num % den : Nat) : ℚ) / den < 1 := by
    rw [div_lt_one hden]
    exact_mod_cast Nat.mod_lt num hd
  unfold NearestEven
  rw [hsplit]
  generalize ((num % den : Nat) : ℚ) / den = f at *
  rcases roundDiv_cases num den with ⟨hr, hhalf⟩ | ⟨hr, hhalf⟩
  · rw [hr, sub_add_cancel_left, abs_neg, abs_of_nonneg hlow]
    rcases hhalf with h | ⟨h, heven⟩
    · exact ⟨le_of_lt (hlt h), fun hf => absurd hf (ne_of_lt (hlt h))⟩
    · exact ⟨le_of_eq (heq h), fun _ => heven⟩
  · rw [hr, Nat.cast_add, Nat.cast_one, add_sub_add_left_eq_sub, abs_of_nonneg (by linarith)]
    rcases hhalf with h | ⟨h, hodd⟩
    · have := hgt h
      exact ⟨by linarith, fun hf => by linarith⟩
    · exact ⟨by rw [heq h]; norm_num, fun _ => by omega⟩

theorem NearestEven.le_of_lt {x : ℚ} {n b : Nat} (h : NearestEven x n) (hx : x < b) : n ≤ b := by
  have hn : (n : ℚ) < (b + 1 : Nat) := by
    push_cast
    linarith [(abs_le.1 h.1).2]
  exact Nat.lt_succ_iff.1 (Nat.cast_lt.1 hn)

theorem NearestEven.le_of_le {x : ℚ} {n a : Nat} (h : NearestEven x n) (hx : (a : ℚ) ≤ x) : a ≤ n := by
  have hn : (a : ℚ) < (n + 1 : Nat) := by
    push_cast
    linarith [(abs_le.1 h.1).1]
  exact Nat.lt_succ_iff.1 (Nat.cast_lt.1 hn)

theorem NearestEven.unique {x : ℚ} {n n' : Nat} (h : NearestEven x n) (h' : NearestEven x n') : n = n' := by
  have hnot : ∀ {n n' : Nat}, NearestEven x n → NearestEven x n' → ¬n < n' := by
    intro n n' h h' hlt
    have hle : (n : ℚ) + 1 ≤ n' := by exact_mod_cast hlt
    have hlow := (abs_le.1 h.1).1
    have hhigh := (abs_le.1 h'.1).2
    -- then x is in the middle of two neighbours, one of which is odd
    have hx : x = n + 1 / 2 := by linarith
    have hn' : n' = n + 1 := by
      have : (n' : ℚ) = (n + 1 : Nat) := by
        push_cast
        linarith
      exact_mod_cast this
    have heven : n % 2 = 0 := h.2 (by rw [hx, sub_add_cancel_left, abs_neg, abs_of_pos (by norm_num)])
    have heven' : n' % 2 = 0 := by
      refine h'.2 ?_
      rw [hn', hx]
      push_cast
      rw [add_sub_add_left_eq_sub, abs_of_pos (by norm_num)]
      norm_num
    omega
  exact Nat.le_antisymm (Nat.not_lt.1 (hnot h' h)) (Nat.not_lt.1 (hnot h h'))

/-! ## Values of words -/

theorem value_eq_parts (word : Nat) : value word = (parts word).1 * (2 : ℚ) ^ (parts word).2 := by
  unfold value ratio
  generalize parts word = t
  obtain ⟨m, e⟩ := t
  dsimp only
  split
  · obtain ⟨k, rfl⟩ := Int.eq_negSucc_of_lt_zero ‹_›
    rw [zpow_negSucc, ← div_eq_mul_inv]
    norm_cast
  · obtain ⟨k, rfl⟩ := Int.eq_ofNat_of_zero_le (Int.not_lt.1 ‹_›)
    rw [Nat.cast_one, div_one, Nat.cast_mul]
    norm_cast

/-- A number of steps up to 2^53, which takes the next larger step, has the word behind those of smaller
steps. -/
theorem value_word {k m : Nat} (hm : m ≤ 2 ^ 53) (hk : k = 0 ∨ 2 ^ 52 ≤ m) :
    value (k * 2 ^ 52 + m) = m * (2 : ℚ) ^ ((k : Int) - 1074) := by
  rw [value_eq_parts]
  rcases Nat.lt_or_ge m (2 ^ 52) with hlt | hge
  · obtain rfl : k = 0 := by omega
    rw [parts_word 0 hlt]
    rfl
  rcases Nat.lt_or_ge m (2 ^ 53) with hlt | hge'
  · obtain ⟨fraction, rfl⟩ := Nat.exists_eq_add_of_le' hge
    have hword : k * 2 ^ 52 + (fraction + 2 ^ 52) = (k + 1) * 2 ^ 52 + fraction := by
      rw [Nat.succ_mul, Nat.add_right_comm, Nat.add_assoc]
    rw [hword, parts_word (k + 1) (by omega), if_neg (Nat.succ_ne_zero k)]
    congr 2
    omega
  · obtain rfl : m = 2 ^ 53 := by omega
    have hword : k * 2 ^ 52 + 2 ^ 53 = (k + 2) * 2 ^ 52 + 0 := by
      rw [Nat.add_mul, Nat.add_zero]
      rfl
    rw [hword, parts_word (k + 2) (by decide), if_neg (Nat.succ_ne_zero _)]
    have hexponent : ((k + 2 : Nat) : Int) - 1075 = (k : Int) - 1074 + 1 := by omega
    dsimp only
    rw [hexponent, zpow_add_one₀ two_ne_zero]
    norm_num
    ring

/-- What is below half of the smallest step is rounded to zero. -/
theorem roundsTo_zero {x : ℚ} (hx : 0 ≤ x) (hsmall : x < 10 ^ (-400 : Int)) : RoundsTo x 0 := by
  have hvalue := value_word (k := 0) (Nat.zero_le (2 ^ 53)) (Or.inl rfl)
  have hpow : (0 : ℚ) < 2 ^ (-1074 : Int) := zpow_pos two_pos _
  have hhalf : x / 2 ^ (-1074 : Int) < 1 / 2 := by
    have hnat : 2 ^ 1075 ≤ 10 ^ 400 := by decide +kernel
    have hstep : (10 : ℚ) ^ (-400 : Int) ≤ 2 ^ (-1075 : Int) := by
      rw [zpow_neg, zpow_neg]
      exact inv_anti₀ (zpow_pos two_pos _) (by exact_mod_cast hnat)
    have hstep' : (2 : ℚ) ^ (-1075 : Int) = 1 / 2 * 2 ^ (-1074 : Int) := by
      rw [show (-1075 : Int) = -1074 - 1 by rfl, zpow_sub_one₀ two_ne_zero, mul_comm, one_div]
    rw [div_lt_iff₀ hpow, ← hstep']
    exact lt_of_lt_of_le hsmall hstep
  refine ⟨by decide, -1074, 0, le_refl _, Or.inl rfl, ?_, ?_, hvalue⟩
  · rw [← div_lt_iff₀ hpow]
    exact lt_trans hhalf (by norm_num)
  · unfold NearestEven
    rw [Nat.cast_zero, zero_sub, abs_neg, abs_of_nonneg (div_nonneg hx (le_of_lt hpow))]
    exact ⟨le_of_lt hhalf, fun _ => rfl⟩

/-! ## One word at most -/

/-- Less than 2^53 steps are fewer than 2^52 of the next larger ones. -/
theorem steps_le_of_lt {e e' : Int} (h : e < e') : (2 : ℚ) ^ 53 * 2 ^ e ≤ 2 ^ 52 * 2 ^ e' :=
  calc (2 : ℚ) ^ 53 * 2 ^ e = 2 ^ 52 * 2 ^ (e + 1) := by rw [zpow_add_one₀ two_ne_zero]; ring
    _ ≤ 2 ^ 52 * 2 ^ e' := mul_le_mul_of_nonneg_left (zpow_le_zpow_right₀ one_le_two h) (by norm_num)

theorem exists_steps (word : Nat) :
    ∃ k m : Nat, m < 2 ^ 53 ∧ (k = 0 ∨ 2 ^ 52 ≤ m) ∧ word = k * 2 ^ 52 + m := by
  rcases Nat.eq_zero_or_pos (word / 2 ^ 52) with hzero | hpos
  · exact ⟨0, word, by omega, Or.inl rfl, by omega⟩
  · exact ⟨word / 2 ^ 52 - 1, word % 2 ^ 52 + 2 ^ 52, by omega, Or.inr (by omega), by omega⟩

theorem value_injective {word word' : Nat} (h : value word = value word') : word = word' := by
  obtain ⟨k, m, hm, hk, rfl⟩ := exists_steps word
  obtain ⟨k', m', hm', hk', rfl⟩ := exists_steps word'
  rw [value_word (Nat.le_of_lt hm) hk, value_word (Nat.le_of_lt hm') hk'] at h
  have hpow : ∀ k : Nat, (0 : ℚ) < 2 ^ ((k : Int) - 1074) := fun k => zpow_pos two_pos _
  have hless : ∀ {k k' m m' : Nat}, k < k' → m < 2 ^ 53 → (k' = 0 ∨ 2 ^ 52 ≤ m') →
      (m : ℚ) * 2 ^ ((k : Int) - 1074) < m' * 2 ^ ((k' : Int) - 1074) := by
    intro k k' m m' hlt hm hk'
    have hm' : 2 ^ 52 ≤ m' := hk'.resolve_left (by omega)
    calc (m : ℚ) * 2 ^ ((k : Int) - 1074) < 2 ^ 53 * 2 ^ ((k : Int) - 1074) :=
          mul_lt_mul_of_pos_right (by exact_mod_cast hm) (hpow k)
      _ ≤ 2 ^ 52 * 2 ^ ((k' : Int) - 1074) := steps_le_of_lt (by omega)
      _ ≤ m' * 2 ^ ((k' : Int) - 1074) :=
          mul_le_mul_of_nonneg_right (by exact_mod_cast hm') (le_of_lt (hpow k'))
  rcases Nat.lt_trichotomy k k' with hlt | rfl | hgt
  · exact absurd h (ne_of_lt (hless hlt hm hk'))
  · have hsame : (m : ℚ) = m' := mul_right_cancel₀ (ne_of_gt (hpow k)) h
    rw [Nat.cast_inj.1 hsame]
  · exact absurd h.symm (ne_of_lt (hless hgt hm' hk))

/-- The value of a word is rounded to the word. -/
theorem roundsTo_value {word : Nat} (h : word < infinityWord) : RoundsTo (value word) word := by
  obtain ⟨k, m, hm, hk, hword⟩ := exists_steps word
  have hvalue := value_word (Nat.le_of_lt hm) hk
  rw [← hword] at hvalue
  have hpow : (0 : ℚ) < 2 ^ ((k : Int) - 1074) := zpow_pos two_pos _
  refine ⟨h, (k : Int) - 1074, m, by omega, ?_, ?_, ?_, hvalue⟩
  · refine hk.imp (fun hzero => by omega) fun hge => ?_
    rw [hvalue]
    exact mul_le_mul_of_nonneg_right (by exact_mod_cast hge) (le_of_lt hpow)
  · rw [hvalue]
    exact mul_lt_mul_of_pos_right (by exact_mod_cast hm) hpow
  · rw [hvalue, mul_div_cancel_right₀ _ (ne_of_gt hpow)]
    unfold NearestEven
    rw [sub_self, abs_zero]
    exact ⟨by norm_num, fun hhalf => absurd hhalf (by norm_num)⟩

theorem RoundsTo.unique {x : ℚ} {word word' : Nat} (h : RoundsTo x word) (h' : RoundsTo x word') :
    word = word' := by
  obtain ⟨-, e, m, he, hlow, hhigh, hnear, hvalue⟩ := h
  obtain ⟨-, e', m', he', hlow', hhigh', hnear', hvalue'⟩ := h'
  rcases lt_trichotomy e e' with hlt | rfl | hgt
  · have hge := hlow'.resolve_left (by omega)
    exact absurd (lt_of_lt_of_le hhigh (steps_le_of_lt hlt)) (not_lt.2 hge)
  · rw [hnear.unique hnear', ← hvalue'] at hvalue
    exact value_injective hvalue
  · have hge := hlow.resolve_left (by omega)
    exact absurd (lt_of_lt_of_le hhigh' (steps_le_of_lt hgt)) (not_lt.2 hge)

/-- The largest finite word has 2^53 - 1 of the largest steps. -/
theorem value_le {word : Nat} (h : word < infinityWord) : value word ≤ (2 ^ 53 - 1) * 2 ^ (971 : Int) := by
  obtain ⟨k, hk⟩ : ∃ k : Nat, k = 971 := ⟨_, rfl⟩
  have hratio : ((ratio word).1 : ℚ) ≤ ((2 ^ 53 - 1) * ((ratio word).2 * 2 ^ k) : Nat) :=
    Nat.cast_le.2 (ratio_le h (Nat.le_of_eq hk.symm))
  have hden : (0 : ℚ) < (ratio word).2 := Nat.cast_pos.2 (ratio_pos word)
  have hpow : (2 : ℚ) ^ (971 : Int) = 2 ^ k := by rw [hk, ← zpow_natCast]; rfl
  unfold value
  rw [div_le_iff₀ hden, hpow, mul_assoc, mul_comm (2 ^ k) ((ratio word).2 : ℚ)]
  refine hratio.trans (le_of_eq ?_)
  push_cast
  norm_num

/-- What is rounded to a finite word is less than half of the largest step above the largest one. -/
theorem RoundsTo.lt {x : ℚ} {word : Nat} (h : RoundsTo x word) : x < (2 ^ 54 - 1) * 2 ^ 970 := by
  obtain ⟨hfinite, e, m, he, hlow, hhigh, hnear, hvalue⟩ := h
  have hle := value_le hfinite
  have hpow : ∀ e : Int, (0 : ℚ) < 2 ^ e := zpow_pos two_pos
  obtain ⟨j, hj⟩ : ∃ j : Nat, j = 970 := ⟨_, rfl⟩
  obtain ⟨k, hk⟩ : ∃ k : Int, k = j + 1 := ⟨_, rfl⟩
  have hhalf : ((2 : ℚ) ^ 54 - 1) * 2 ^ j = (2 ^ 54 - 1) / 2 * 2 ^ k := by
    rw [hk, zpow_add_one₀ two_ne_zero, zpow_natCast]
    ring
  rw [hvalue, show (971 : Int) = k by omega] at hle
  rw [← hj, hhalf]
  have hlargest := hpow k
  by_contra hge
  rw [not_lt] at hge
  rcases lt_trichotomy e k with hlt | rfl | hgt
  · have := steps_le_of_lt hlt
    linarith
  · have hm : (m : ℚ) ≤ 2 ^ 53 - 1 := le_of_mul_le_mul_right hle hlargest
    have hx : (2 ^ 54 - 1) / 2 ≤ x / 2 ^ e := (le_div_iff₀ hlargest).2 hge
    have hnear' := (abs_le.1 hnear.1).1
    -- a number in the middle is not rounded to an odd one
    have heven : m % 2 = 0 := hnear.2 (by rw [abs_of_nonpos (by linarith)]; linarith)
    have hodd : (m : ℚ) = (2 ^ 53 - 1 : Nat) := by
      norm_num
      linarith
    rw [Nat.cast_inj.1 hodd] at heven
    cases heven
  · have hge' : (2 : ℚ) ^ 52 ≤ x / 2 ^ e := (le_div_iff₀ (hpow e)).2 (hlow.resolve_left (by omega))
    have hm : 2 ^ 52 ≤ m := hnear.le_of_le (by exact_mod_cast hge')
    have hmany : (2 : ℚ) ^ 52 * 2 ^ e ≤ m * 2 ^ e :=
      mul_le_mul_of_nonneg_right (by exact_mod_cast hm) (le_of_lt (hpow e))
    have := steps_le_of_lt hgt
    linarith

/-! ## Quotients -/

theorem binaryExponent_bounds {num den : Nat} (hn : 0 < num) (hd : 0 < den) :
    (2 : ℚ) ^ binaryExponent num den ≤ (num : ℚ) / den ∧
      (num : ℚ) / den < 2 ^ (binaryExponent num den + 1) := by
  have hden : (0 : ℚ) < den := Nat.cast_pos.2 hd
  rw [le_div_iff₀ hden, div_lt_iff₀ hden]
  rcases binaryExponent_spec hn hd with ⟨k, hk, hlow, hhigh⟩ | ⟨k, hk, hhigh, hlow⟩
  · rw [hk, mul_comm, mul_comm _ (den : ℚ)]
    exact ⟨by exact_mod_cast hlow, by exact_mod_cast hhigh⟩
  · have hpow : ∀ j : Nat, (0 : ℚ) < 2 ^ j := fun j => pow_pos two_pos j
    have hone : -((k : Int) + 1) + 1 = -(k : Int) := by omega
    rw [hk, hone, zpow_neg, zpow_neg, zpow_natCast]
    have hsucc : (2 : ℚ) ^ ((k : Int) + 1) = 2 ^ (k + 1) := by exact_mod_cast rfl
    rw [hsucc, inv_mul_le_iff₀ (hpow _), lt_inv_mul_iff₀ (hpow _), mul_comm, mul_comm (2 ^ k) (num : ℚ)]
    exact ⟨by exact_mod_cast hlow, by exact_mod_cast hhigh⟩

/-- How many steps of `2^e` a quotient takes. -/
theorem steps_nearestEven (num : Nat) {den : Nat} (hd : 0 < den) (e : Int) :
    NearestEven ((num : ℚ) / den / 2 ^ e)
      (if e < 0 then roundDiv (num * twoTo (-e).toNat) den else roundDiv num (den * twoTo e.toNat)) := by
  split
  · obtain ⟨k, rfl⟩ := Int.eq_negSucc_of_lt_zero ‹_›
    have hx : (num : ℚ) / den / 2 ^ Int.negSucc k = (num * 2 ^ (k + 1) : Nat) / den := by
      rw [zpow_negSucc, div_inv_eq_mul, div_mul_eq_mul_div]
      push_cast
      rfl
    rw [hx]
    exact roundDiv_nearestEven _ hd
  · obtain ⟨k, rfl⟩ := Int.eq_ofNat_of_zero_le (Int.not_lt.1 ‹_›)
    have hx : (num : ℚ) / den / 2 ^ (k : Int) = num / (den * 2 ^ k : Nat) := by
      rw [div_div, zpow_natCast]
      push_cast
      rfl
    rw [hx]
    exact roundDiv_nearestEven _ (Nat.mul_pos hd (twoTo_pos _))

theorem nearest_roundsTo (num : Nat) {den : Nat} (hd : 0 < den) (hfinite : nearest num den < infinityWord) :
    RoundsTo ((num : ℚ) / den) (nearest num den) := by
  rcases Nat.eq_zero_or_pos num with rfl | hn
  · rw [nearest_zero, Nat.cast_zero, zero_div]
    exact roundsTo_zero (le_refl 0) (zpow_pos (by norm_num) _)
  obtain ⟨hlow, hhigh⟩ := binaryExponent_bounds hn hd
  obtain ⟨e, he⟩ : ∃ e, e = max (binaryExponent num den - 52) (-1074) := ⟨_, rfl⟩
  obtain ⟨m, hm⟩ : ∃ m, m = if e < 0 then roundDiv (num * twoTo (-e).toNat) den
    else roundDiv num (den * twoTo e.toNat) := ⟨_, rfl⟩
  have hword : nearest num den = min ((e + 1074).toNat * 2 ^ 52 + m) infinityWord := by
    rw [hm, he]
    exact if_neg (Nat.ne_of_gt hn)
  have hsteps : NearestEven ((num : ℚ) / den / 2 ^ e) m := by
    rw [hm]
    exact steps_nearestEven num hd e
  have hpow : (0 : ℚ) < 2 ^ e := zpow_pos two_pos e
  have hbelow : (num : ℚ) / den < 2 ^ 53 * 2 ^ e := by
    refine lt_of_lt_of_le hhigh ?_
    rw [← zpow_natCast, ← zpow_add₀ two_ne_zero]
    exact zpow_le_zpow_right₀ one_le_two (by push_cast; omega)
  have habove : e = -1074 ∨ (2 : ℚ) ^ 52 * 2 ^ e ≤ num / den := by
    rcases max_choice (binaryExponent num den - 52) (-1074) with h | h
    · refine Or.inr (le_trans ?_ hlow)
      rw [← zpow_natCast, ← zpow_add₀ two_ne_zero]
      exact zpow_le_zpow_right₀ one_le_two (by push_cast; omega)
    · exact Or.inl (he.trans h)
  have hle : m ≤ 2 ^ 53 := hsteps.le_of_lt (by rw [div_lt_iff₀ hpow]; exact_mod_cast hbelow)
  have hge : (e + 1074).toNat = 0 ∨ 2 ^ 52 ≤ m :=
    habove.imp (fun h => by omega) fun h => hsteps.le_of_le (by rw [le_div_iff₀ hpow]; exact_mod_cast h)
  have hfinite' : nearest num den = (e + 1074).toNat * 2 ^ 52 + m := by
    rw [hword] at hfinite ⊢
    exact Nat.min_eq_left (Nat.le_of_lt (by omega))
  refine ⟨hfinite, e, m, by omega, habove, hbelow, hsteps, ?_⟩
  rw [hfinite', value_word hle hge]
  congr 2
  omega

/-! ## Decimals -/

theorem digitCount_bounds {d : Nat} (hd : 0 < d) :
    0 < digitCount d ∧ 10 ^ (digitCount d - 1) ≤ d ∧ d < 10 ^ digitCount d := by
  have hpos : 0 < digitCount d := Nat.length_toDigits_pos
  refine ⟨hpos, ?_, (Nat.length_toDigits_le_iff (by decide) hpos).1 (Nat.le_refl _)⟩
  rcases Nat.eq_zero_or_pos (digitCount d - 1) with hone | hmore
  · rw [hone]
    exact hd
  · refine Nat.not_lt.1 fun hlt => ?_
    have : digitCount d ≤ digitCount d - 1 := (Nat.length_toDigits_le_iff (by decide) hmore).2 hlt
    omega

/-- A decimal is rounded as a quotient, but for one that is too large or too small to look at its digits. -/
theorem decimalWord_cases (d : Nat) (p : Int) :
    ((10 : ℚ) ^ (400 : Int) ≤ d * 10 ^ p ∧ decimalWord d p = infinityWord) ∨
      ((d : ℚ) * 10 ^ p < 10 ^ (-400 : Int) ∧ decimalWord d p = 0) ∨
      ∃ num den : Nat, 0 < den ∧ (d : ℚ) * 10 ^ p = num / den ∧ decimalWord d p = nearest num den := by
  have hpow : ∀ p : Int, (0 : ℚ) < 10 ^ p := zpow_pos (by norm_num)
  unfold decimalWord
  split
  · next hd =>
    rw [hd, Nat.cast_zero, zero_mul]
    exact Or.inr (Or.inl ⟨hpow _, rfl⟩)
  next hd =>
  obtain ⟨hdigits, hlow, hhigh⟩ := digitCount_bounds (Nat.pos_of_ne_zero hd)
  split
  · next hlarge =>
    refine Or.inl ⟨?_, rfl⟩
    have hexponent : (400 : Int) ≤ ((digitCount d - 1 : Nat) : Int) + p := by omega
    calc (10 : ℚ) ^ (400 : Int) ≤ 10 ^ (((digitCount d - 1 : Nat) : Int) + p) :=
          zpow_le_zpow_right₀ (by norm_num) hexponent
      _ = ((10 ^ (digitCount d - 1) : Nat) : ℚ) * 10 ^ p := by
        rw [zpow_add₀ (by norm_num), zpow_natCast, Nat.cast_pow]
        rfl
      _ ≤ d * 10 ^ p := mul_le_mul_of_nonneg_right (Nat.cast_le.2 hlow) (le_of_lt (hpow p))
  refine Or.inr ?_
  split
  · next hsmall =>
    refine Or.inl ⟨?_, rfl⟩
    calc (d : ℚ) * 10 ^ p ≤ ((10 ^ digitCount d : Nat) : ℚ) * 10 ^ p :=
          mul_le_mul_of_nonneg_right (Nat.cast_le.2 (Nat.le_of_lt hhigh)) (le_of_lt (hpow p))
      _ = 10 ^ ((digitCount d : Int) + p) := by
        rw [zpow_add₀ (by norm_num), zpow_natCast, Nat.cast_pow]
        rfl
      _ < 10 ^ (-400 : Int) := zpow_lt_zpow_right₀ (by norm_num) hsmall
  refine Or.inr ?_
  split
  · next hp =>
    obtain ⟨k, rfl⟩ := Int.eq_ofNat_of_zero_le hp
    refine ⟨_, _, Nat.one_pos, ?_, rfl⟩
    rw [Nat.cast_one, div_one, Nat.cast_mul, tenTo_eq, Nat.cast_pow]
    rfl
  · next hp =>
    obtain ⟨k, rfl⟩ := Int.eq_negSucc_of_lt_zero (Int.not_le.1 hp)
    refine ⟨_, _, tenTo_pos _, ?_, rfl⟩
    rw [tenTo_eq, Nat.cast_pow, zpow_negSucc, ← div_eq_mul_inv]
    rfl

theorem decimalWord_roundsTo {d : Nat} {p : Int} (hfinite : decimalWord d p < infinityWord) :
    RoundsTo (d * (10 : ℚ) ^ p) (decimalWord d p) := by
  rcases decimalWord_cases d p with ⟨-, hword⟩ | ⟨hsmall, hword⟩ | ⟨num, den, hd, hx, hword⟩
  · rw [hword] at hfinite
    exact absurd hfinite (Nat.lt_irrefl _)
  · rw [hword]
    exact roundsTo_zero (mul_nonneg (Nat.cast_nonneg d) (le_of_lt (zpow_pos (by norm_num) p))) hsmall
  · rw [hword] at hfinite
    rw [hx, hword]
    exact nearest_roundsTo num hd hfinite

/-- A decimal reaches a word where quotients reach it. -/
theorem le_decimalWord_iff {word : Nat} {c : ℚ} (hword : 0 < word) (hword' : word ≤ infinityWord)
    (hc : (10 : ℚ) ^ (-400 : Int) ≤ c) (hc' : c ≤ 10 ^ (400 : Int))
    (h : ∀ num den, 0 < den → (word ≤ nearest num den ↔ c ≤ (num : ℚ) / den)) (d : Nat) (p : Int) :
    word ≤ decimalWord d p ↔ c ≤ d * (10 : ℚ) ^ p := by
  rcases decimalWord_cases d p with ⟨hlarge, hd⟩ | ⟨hsmall, hd⟩ | ⟨num, den, hden, hx, hd⟩
  · rw [hd]
    exact iff_of_true hword' (hc'.trans hlarge)
  · rw [hd]
    exact iff_of_false (by omega) (not_le_of_gt (lt_of_lt_of_le hsmall hc))
  · rw [hd, hx]
    exact h num den hden

/-- A bound of the decimals that reach the word of a whole number. -/
theorem bound_le {c : ℚ} {e : Nat} (he : e ≤ 972) (hc : c ≤ 2 ^ 54 * 2 ^ e) : c ≤ 10 ^ (400 : Int) := by
  have hnat : 2 ^ 54 * 2 ^ e ≤ 10 ^ 400 := by
    calc 2 ^ 54 * 2 ^ e ≤ 2 ^ 54 * 2 ^ 972 := Nat.mul_le_mul_left _ (Nat.pow_le_pow_right (by decide) he)
      _ ≤ 10 ^ 400 := by decide +kernel
  exact hc.trans (by exact_mod_cast hnat)

theorem bound_ge {c : ℚ} {e : Nat} (hc : 2 ^ e ≤ c) : (10 : ℚ) ^ (-400 : Int) ≤ c :=
  calc (10 : ℚ) ^ (-400 : Int) ≤ 1 := zpow_le_one_of_nonpos₀ (by norm_num) (by decide)
    _ ≤ 2 ^ e := one_le_pow₀ one_le_two
    _ ≤ c := hc

/-- A decimal reaches the word of a power of two from a quarter of its step below it. -/
theorem pow_le_decimalWord_iff {e : Nat} (he : 1 ≤ e) (he' : e ≤ 972) (d : Nat) (p : Int) :
    (e + 1075) * 2 ^ 52 ≤ decimalWord d p ↔ (2 ^ 54 - 1) / 4 * 2 ^ e ≤ d * (10 : ℚ) ^ p := by
  have hpos : (0 : ℚ) < 2 ^ e := pow_pos two_pos e
  have hinfinity : infinityWord = 2047 * 2 ^ 52 := rfl
  refine le_decimalWord_iff (by omega) (by omega) (bound_ge (e := e) ?_) (bound_le he' ?_) (fun num den hd => ?_)
    d p
  · nlinarith
  · nlinarith
  · have hden : (0 : ℚ) < den := Nat.cast_pos.2 hd
    rw [pow_le_nearest_iff hd he he', le_div_iff₀ hden, ← Nat.cast_le (α := ℚ)]
    push_cast
    constructor <;> intro h <;> linarith

/-- A decimal is finite up to half of the largest step above the largest word. -/
theorem decimalWord_lt_iff (d : Nat) (p : Int) :
    decimalWord d p < infinityWord ↔ (d : ℚ) * 10 ^ p < (2 ^ 54 - 1) * 2 ^ 970 := by
  obtain ⟨k, hk⟩ : ∃ k, k = 970 := ⟨_, rfl⟩
  have hinfinity : infinityWord = (k + 2 + 1075) * 2 ^ 52 := by rw [hk]; rfl
  have hquarter : ((2 : ℚ) ^ 54 - 1) / 4 * 2 ^ (k + 2) = (2 ^ 54 - 1) * 2 ^ k := by ring
  rw [← hk, hinfinity, ← Nat.not_le, pow_le_decimalWord_iff (by omega) (by omega), hquarter, not_le]

/-- A decimal is rounded to its word, if that is finite, and to no other. -/
theorem decimalWord_roundsTo_iff {d : Nat} {p : Int} {word : Nat} :
    RoundsTo (d * (10 : ℚ) ^ p) word ↔ decimalWord d p < infinityWord ∧ word = decimalWord d p := by
  constructor
  · intro h
    have hfinite := (decimalWord_lt_iff d p).2 h.lt
    exact ⟨hfinite, h.unique (decimalWord_roundsTo hfinite)⟩
  · rintro ⟨hfinite, rfl⟩
    exact decimalWord_roundsTo hfinite

/-- A decimal reaches a word whose number is even, and no power of two, from half a step below it. -/
theorem even_le_decimalWord_iff {m e : Nat} (hm : 2 ^ 52 < m) (hm' : m < 2 ^ 53) (heven : m % 2 = 0)
    (he : 1 ≤ e) (he' : e ≤ 971) (d : Nat) (p : Int) :
    (e + 1074) * 2 ^ 52 + m ≤ decimalWord d p ↔ (2 * m - 1) / 2 * 2 ^ e ≤ d * (10 : ℚ) ^ p := by
  have hpos : (0 : ℚ) < 2 ^ e := pow_pos two_pos e
  have hinfinity : infinityWord = 2047 * 2 ^ 52 := rfl
  have hlow : (2 : ℚ) ^ 52 < m := by exact_mod_cast hm
  have hhigh : (m : ℚ) < 2 ^ 53 := by exact_mod_cast hm'
  refine le_decimalWord_iff (by omega) (by omega) (bound_ge (e := e) ?_) (bound_le (Nat.le_succ_of_le he') ?_)
    (fun num den hd => ?_) d p
  · nlinarith
  · nlinarith
  · have hden : (0 : ℚ) < den := Nat.cast_pos.2 hd
    have hone : 1 ≤ 2 * m := by omega
    rw [le_nearest_iff hd hm hm' heven he he', le_div_iff₀ hden, ← Nat.cast_le (α := ℚ)]
    push_cast [hone]
    constructor <;> intro h <;> linarith

end CommandShell.Number
