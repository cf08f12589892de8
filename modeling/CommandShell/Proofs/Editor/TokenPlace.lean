import CommandShell.Editor.Line

/-!
# Steps of the token start

The editor finds the start of the token at the cursor in one pass over the text. A step changes the
place, and a space outside quotes puts the start behind itself; nothing else moves it.

    p.Keeps cs    →  tokenStartFrom p start read cs = start
    ¬p.Keeps cs   →  read < tokenStartFrom p start read cs
-/

namespace CommandShell.Editor

/-! ## Steps -/

namespace TokenPlace

/-- The place behind a character. -/
def step (place : TokenPlace) (c : Char) : TokenPlace :=
  match place with
  | .quoted => if c = '"' then .word else .quoted
  | .fieldStart => if c = ' ' then .fieldStart else if c = '"' then .quoted else .word
  | .word => if c = ' ' then .fieldStart else .word

/-- The place behind a text. -/
def after (place : TokenPlace) (cs : List Char) : TokenPlace :=
  cs.foldl step place

/-- Every space of the text is read inside quotes. -/
def Keeps (place : TokenPlace) (cs : List Char) : Prop :=
  ∀ pre post, cs = pre ++ ' ' :: post → place.after pre = .quoted

theorem after_cons (p : TokenPlace) (c : Char) (cs : List Char) :
    p.after (c :: cs) = (p.step c).after cs := rfl

theorem after_append (p : TokenPlace) (xs ys : List Char) :
    p.after (xs ++ ys) = (p.after xs).after ys :=
  List.foldl_append

theorem step_space (p : TokenPlace) : p.step ' ' = if p = .quoted then .quoted else .fieldStart := by
  cases p <;> rfl

theorem step_quote_eq_quoted_iff {p : TokenPlace} : p.step '"' = .quoted ↔ p = .fieldStart := by
  cases p <;> decide

theorem step_ne_fieldStart {p : TokenPlace} {c : Char} (hc : c ≠ ' ') : p.step c ≠ .fieldStart := by
  intro h
  unfold step at h
  cases p with
  | fieldStart =>
    dsimp only at h
    rw [if_neg hc] at h
    split at h <;> cases h
  | word =>
    dsimp only at h
    rw [if_neg hc] at h
    cases h
  | quoted =>
    dsimp only at h
    split at h <;> cases h

theorem keeps_cons {p : TokenPlace} {c : Char} {cs : List Char} :
    p.Keeps (c :: cs) ↔ (c = ' ' → p = .quoted) ∧ (p.step c).Keeps cs := by
  constructor
  · intro h
    refine ⟨?_, fun pre post he => h (c :: pre) post (by rw [he, List.cons_append])⟩
    rintro rfl
    exact h [] cs rfl
  · rintro ⟨hc, h⟩ pre post he
    cases pre with
    | nil => exact hc (List.cons.inj he).1
    | cons d pre =>
      obtain ⟨rfl, hcs⟩ := List.cons.inj he
      exact h pre post hcs

theorem keeps_append {p : TokenPlace} {xs ys : List Char} :
    p.Keeps (xs ++ ys) ↔ p.Keeps xs ∧ (p.after xs).Keeps ys := by
  induction xs generalizing p with
  | nil =>
    refine ⟨fun h => ⟨fun pre post he => ?_, h⟩, fun h => h.2⟩
    simp at he
  | cons c xs ih => rw [List.cons_append, keeps_cons, keeps_cons, ih, and_assoc, after_cons]

theorem keeps_of_notMem {p : TokenPlace} {cs : List Char} (h : ' ' ∉ cs) : p.Keeps cs := by
  intro pre post he
  exact absurd (by simp [he]) h

end TokenPlace

open TokenPlace

/-! ## The start under steps -/

theorem tokenStartFrom_cons (p : TokenPlace) (start read : Nat) (c : Char) (cs : List Char) :
    tokenStartFrom p start read (c :: cs) =
      tokenStartFrom (p.step c) (if c = ' ' ∧ p ≠ .quoted then read + 1 else start) (read + 1) cs := by
  cases p with
  | quoted => simp [tokenStartFrom, step]
  | fieldStart | word => by_cases hc : c = ' ' <;> simp [tokenStartFrom, step, hc]

theorem tokenStartFrom_append (p : TokenPlace) (start read : Nat) (xs ys : List Char) :
    tokenStartFrom p start read (xs ++ ys) =
      tokenStartFrom (p.after xs) (tokenStartFrom p start read xs) (read + xs.length) ys := by
  induction xs generalizing p start read with
  | nil => rfl
  | cons c xs ih =>
    rw [List.cons_append, tokenStartFrom_cons, ih, tokenStartFrom_cons p, after_cons,
      List.length_cons]
    congr 1
    omega

theorem tokenStartFrom_le {p : TokenPlace} {start read : Nat} (h : start ≤ read) (cs : List Char) :
    tokenStartFrom p start read cs ≤ read + cs.length := by
  induction cs generalizing p start read with
  | nil => exact h
  | cons c cs ih =>
    have hstart : (if c = ' ' ∧ p ≠ .quoted then read + 1 else start) ≤ read + 1 := by
      split
      · exact Nat.le_refl _
      · omega
    have := @ih (p.step c) _ _ hstart
    rw [tokenStartFrom_cons, List.length_cons]
    omega

theorem tokenStartFrom_of_keeps {p : TokenPlace} {cs : List Char} (h : p.Keeps cs) (start read : Nat) :
    tokenStartFrom p start read cs = start := by
  induction cs generalizing p start read with
  | nil => rfl
  | cons c cs ih =>
    obtain ⟨hc, h⟩ := keeps_cons.1 h
    rw [tokenStartFrom_cons, if_neg fun hs => hs.2 (hc hs.1), ih h]

/-- A space outside quotes puts the start behind it. -/
theorem lt_tokenStartFrom {p : TokenPlace} {cs : List Char} (h : ¬p.Keeps cs) (start read : Nat) :
    read < tokenStartFrom p start read cs := by
  induction cs generalizing p start read with
  | nil => exact absurd (keeps_of_notMem List.not_mem_nil) h
  | cons c cs ih =>
    rw [tokenStartFrom_cons]
    by_cases hk : (p.step c).Keeps cs
    · have hc : c = ' ' ∧ p ≠ .quoted := by
        refine Decidable.not_not.1 fun hno => h (keeps_cons.2 ⟨fun he => ?_, hk⟩)
        exact Decidable.not_not.1 fun hp => hno ⟨he, hp⟩
      rw [tokenStartFrom_of_keeps hk, if_pos hc]
      omega
    · have := ih hk (if c = ' ' ∧ p ≠ .quoted then read + 1 else start) (read + 1)
      omega

end CommandShell.Editor
