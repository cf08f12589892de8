import CommandShell.Proofs.Editor.TokenPlace
import CommandShell.Proofs.Token.Fields

/-!
# The places of the editor behind fields

The editor does not know that a doubled quote goes on with the field: for it the second of two quotes
stands in a plain word, and a space behind them ends the token. From there it may take the quote that
closes the field for one that opens the next.

    the start stays at the field's   ↔  no space stands behind an escaped quote of it
    the editor is lost behind it     ↔  one does, and its last quote stands right behind a space
-/

namespace CommandShell.Editor

open Token TokenPlace

/-- The field opens with a quote, and behind another quote of it stands a space. -/
def EscapeThenSpace (f : List Char) : Prop :=
  ∃ pre post, f = '"' :: pre ++ ' ' :: post ∧ '"' ∈ pre

/-- The last quote of the field stands right behind a space. -/
def QuoteBehindSpace (f : List Char) : Prop :=
  ∃ pre post, f = pre ++ ' ' :: '"' :: post ∧ '"' ∉ post

/-- The tokens leave the editor inside quotes: one of them loses it, and none behind finds it again. -/
def Misleads (fs : List (List Char)) : Prop :=
  ∃ pre f post, fs = pre ++ f :: post ∧ EscapeThenSpace f ∧ QuoteBehindSpace f ∧
    ∀ g ∈ post, '"' ∉ g ∨ QuoteBehindSpace g

/-! ## Spaces and quotes of a field -/

theorem escapeThenSpace_append {f s : List Char} (hs : ' ' ∉ s) :
    EscapeThenSpace (f ++ s) ↔ EscapeThenSpace f := by
  constructor
  · rintro ⟨pre, post, he, hpre⟩
    rcases List.append_eq_append_iff.1 he with ⟨t, ht, hst⟩ | ⟨t, hf, ht⟩
    · exact absurd (by rw [hst]; simp) hs
    · cases t with
      | nil => exact absurd (by rw [← List.nil_append s, ← ht]; simp) hs
      | cons d t =>
        obtain ⟨rfl, -⟩ := List.cons.inj ht
        exact ⟨pre, t, hf, hpre⟩
  · rintro ⟨pre, post, rfl, hpre⟩
    exact ⟨pre, post ++ s, by simp, hpre⟩

theorem escapeThenSpace_quote_cons {q : List Char} :
    EscapeThenSpace ('"' :: q) ↔ ∃ pre post, q = pre ++ ' ' :: post ∧ '"' ∈ pre := by
  constructor
  · rintro ⟨pre, post, he, hpre⟩
    exact ⟨pre, post, (List.cons.inj he).2, hpre⟩
  · rintro ⟨pre, post, rfl, hpre⟩
    exact ⟨pre, post, rfl, hpre⟩

theorem not_escapeThenSpace_of_quote_notMem {q : List Char} (h : '"' ∉ q) :
    ¬EscapeThenSpace ('"' :: q) := by
  rw [escapeThenSpace_quote_cons]
  rintro ⟨pre, post, rfl, hpre⟩
  exact h (List.mem_append_left _ hpre)

theorem not_escapeThenSpace_of_notMem {f : List Char} (h : ' ' ∉ f) : ¬EscapeThenSpace f := by
  rintro ⟨pre, post, rfl, -⟩
  exact h (by simp)

/-- What stands in front of the last quote decides. -/
theorem quoteBehindSpace_iff {pre post : List Char} (h : '"' ∉ post) :
    QuoteBehindSpace (pre ++ '"' :: post) ↔ pre.getLast? = some ' ' := by
  constructor
  · rintro ⟨xs, ys, he, hys⟩
    have he' : pre ++ '"' :: post = (xs ++ [' ']) ++ '"' :: ys := by rw [he]; simp
    have hpre : pre = xs ++ [' '] := by
      rcases List.append_eq_append_iff.1 he' with ⟨t, ht, hpost⟩ | ⟨t, ht, hpost⟩
      · cases t with
        | nil => rw [ht, List.append_nil]
        | cons d t => exact absurd (by rw [(List.cons.inj hpost).2]; simp) h
      · cases t with
        | nil => rw [ht, List.append_nil]
        | cons d t => exact absurd (by rw [(List.cons.inj hpost).2]; simp) hys
    rw [hpre, List.getLast?_concat]
  · intro hlast
    obtain ⟨xs, rfl⟩ := List.getLast?_eq_some_iff.1 hlast
    exact ⟨xs, post, by simp, h⟩

theorem QuoteBehindSpace.quote_mem {f : List Char} (h : QuoteBehindSpace f) : '"' ∈ f := by
  obtain ⟨pre, post, rfl, -⟩ := h
  simp

theorem exists_last_quote {cs : List Char} (h : '"' ∈ cs) :
    ∃ pre post, cs = pre ++ '"' :: post ∧ '"' ∉ post := by
  obtain ⟨xs, ys, he, hxs⟩ := List.eq_append_cons_of_mem (List.mem_reverse.2 h)
  refine ⟨ys.reverse, xs.reverse, ?_, by simpa using hxs⟩
  have := congrArg List.reverse he
  simpa using this

theorem exists_concat_of_notMem {s : List Char} (hne : s ≠ []) (hs : ' ' ∉ s) :
    ∃ s' c, s = s' ++ [c] ∧ c ≠ ' ' := by
  rcases List.eq_nil_or_concat s with rfl | ⟨s', c, rfl⟩
  · exact absurd rfl hne
  · refine ⟨s', c, List.concat_eq_append, ?_⟩
    rintro rfl
    exact hs (by simp)

theorem misleads_cons {f : List Char} {fs : List (List Char)} :
    Misleads (f :: fs) ↔ Misleads fs ∨
      EscapeThenSpace f ∧ QuoteBehindSpace f ∧ ∀ g ∈ fs, '"' ∉ g ∨ QuoteBehindSpace g := by
  constructor
  · rintro ⟨pre, g, post, he, h⟩
    cases pre with
    | nil =>
      obtain ⟨rfl, rfl⟩ := List.cons.inj he
      exact Or.inr h
    | cons d pre => exact Or.inl ⟨pre, g, post, (List.cons.inj he).2, h⟩
  · rintro (⟨pre, g, post, rfl, h⟩ | h)
    · exact ⟨f :: pre, g, post, rfl, h⟩
    · exact ⟨[], f, fs, rfl, h⟩

theorem not_misleads_of_forall {fs : List (List Char)} (h : ∀ f ∈ fs, ¬EscapeThenSpace f) :
    ¬Misleads fs := by
  rintro ⟨pre, f, post, rfl, hf, -⟩
  exact h f (by simp) hf

/-! ## Places over the inside of a field -/

namespace TokenPlace

/-- Without a quote the editor stays inside quotes, or outside. -/
theorem after_eq_quoted_iff_of_notMem {cs : List Char} (h : '"' ∉ cs) (p : TokenPlace) :
    p.after cs = .quoted ↔ p = .quoted := by
  induction cs generalizing p with
  | nil => exact Iff.rfl
  | cons c cs ih =>
    rw [List.mem_cons, not_or] at h
    have hc : ¬c = '"' := fun he => h.1 he.symm
    rw [after_cons, ih h.2]
    cases p with
    | quoted => simp [step, hc]
    | fieldStart | word => by_cases hs : c = ' ' <;> simp [step, hc, hs]

/-- The last quote opens if it stands at the start of a field. -/
theorem after_eq_quoted_iff {post : List Char} (h : '"' ∉ post) (p : TokenPlace) (pre : List Char) :
    p.after (pre ++ '"' :: post) = .quoted ↔ p.after pre = .fieldStart := by
  rw [after_append, after_cons, after_eq_quoted_iff_of_notMem h, step_quote_eq_quoted_iff]

theorem after_concat_ne_fieldStart (p : TokenPlace) (cs : List Char) {c : Char} (hc : c ≠ ' ') :
    p.after (cs ++ [c]) ≠ .fieldStart := by
  rw [after_append]
  exact step_ne_fieldStart hc

/-- Outside quotes, a doubled quote leads to a plain word. -/
theorem after_inside {q : List Char} (h : Inside q) {p : TokenPlace} (hp : p ≠ .quoted) :
    p.after q = if q = [] then p else if q.getLast? = some ' ' then .fieldStart else .word := by
  induction h generalizing p with
  | nil => rfl
  | @char c q hc hq ih =>
    have hstep : p.step c = if c = ' ' then .fieldStart else .word := by
      cases p with
      | quoted => exact absurd rfl hp
      | fieldStart => simp [step, hc]
      | word => rfl
    have hne : p.step c ≠ .quoted := by
      rw [hstep]
      split <;> exact fun h => by cases h
    rw [after_cons, ih hne, if_neg (List.cons_ne_nil c q)]
    cases q with
    | nil => rw [if_pos rfl, hstep]; simp
    | cons d q => rw [if_neg (List.cons_ne_nil d q), List.getLast?_cons_cons]
  | @doubled q hq ih =>
    have hstep : (p.step '"').step '"' = .word := by
      cases p with
      | quoted => exact absurd rfl hp
      | fieldStart | word => rfl
    rw [after_cons, after_cons, hstep, ih (by decide), if_neg (List.cons_ne_nil _ _)]
    cases q with
    | nil => rfl
    | cons d q => rw [if_neg (List.cons_ne_nil d q), List.getLast?_cons_cons, List.getLast?_cons_cons]

/-- Inside quotes the editor stays up to the first doubled quote. -/
theorem quoted_after_inside {q : List Char} (h : Inside q) :
    TokenPlace.quoted.after q =
      if '"' ∉ q then .quoted else if q.getLast? = some ' ' then .fieldStart else .word := by
  induction h with
  | nil => rfl
  | @char c q hc hq ih =>
    have hstep : TokenPlace.quoted.step c = .quoted := by simp [step, hc]
    rw [after_cons, hstep, ih]
    by_cases hmem : '"' ∈ q
    · cases q with
      | nil => cases hmem
      | cons d q => simp [hmem, List.getLast?_cons_cons]
    · simp [hmem, Ne.symm hc]
  | @doubled q hq ih =>
    have hstep : (TokenPlace.quoted.step '"').step '"' = .word := rfl
    rw [after_cons, after_cons, hstep, after_inside hq (by decide)]
    cases q with
    | nil => rfl
    | cons d q => simp [List.getLast?_cons_cons]

end TokenPlace

/-! ## Places behind a field -/

/-- The last quote of a field closes it, or stands right behind a character that is no space. -/
theorem field_last_quote {f : List Char} (h : IsField f) (hmem : '"' ∈ f) :
    ∃ pre post, f = pre ++ '"' :: post ∧ '"' ∉ post ∧
      ((∃ q, pre = '"' :: q ∧ Inside q ∧ ' ' ∉ '"' :: post) ∨ ∃ pre' c, pre = pre' ++ [c] ∧ c ≠ ' ') := by
  cases h with
  | @plain c s hc hs =>
    obtain ⟨pre, post, he, hpost⟩ := exists_last_quote hmem
    have hpre : pre ≠ [] := by
      rintro rfl
      exact hc (List.cons.inj he).1
    have hspace : ' ' ∉ pre := fun h => hs (by rw [he]; exact List.mem_append_left _ h)
    exact ⟨pre, post, he, hpost, Or.inr (exists_concat_of_notMem hpre hspace)⟩
  | @quoted q s hq hs hh =>
    by_cases hmem' : '"' ∈ s
    · obtain ⟨pre, post, rfl, hpost⟩ := exists_last_quote hmem'
      have hpre : pre ≠ [] := by
        rintro rfl
        exact hh rfl
      have hspace : ' ' ∉ pre := fun h => hs (List.mem_append_left _ h)
      obtain ⟨pre', c, rfl, hc⟩ := exists_concat_of_notMem hpre hspace
      exact ⟨'"' :: (q ++ '"' :: (pre' ++ [c])), post, by simp, hpost,
        Or.inr ⟨'"' :: (q ++ '"' :: pre'), c, by simp, hc⟩⟩
    · exact ⟨'"' :: q, s, rfl, hmem', Or.inl ⟨q, rfl, hq, by simp [hs]⟩⟩

theorem getLast?_quote_cons {q : List Char} :
    ('"' :: q).getLast? = some ' ' ↔ q.getLast? = some ' ' := by
  cases q with
  | nil => simp
  | cons d q => rw [List.getLast?_cons_cons]

/-- Read from its start, a field leaves the editor inside quotes if it misleads. -/
theorem fieldStart_after_field {f : List Char} (h : IsField f) :
    TokenPlace.fieldStart.after f = .quoted ↔ EscapeThenSpace f ∧ QuoteBehindSpace f := by
  by_cases hmem : '"' ∈ f
  · obtain ⟨pre, post, rfl, hpost, hpre⟩ := field_last_quote h hmem
    rw [after_eq_quoted_iff hpost, quoteBehindSpace_iff hpost]
    rcases hpre with ⟨q, rfl, hq, hspace⟩ | ⟨pre', c, rfl, hc⟩
    · have hstep : TokenPlace.fieldStart.after ('"' :: q) = TokenPlace.quoted.after q := rfl
      rw [escapeThenSpace_append hspace, escapeThenSpace_quote_cons, getLast?_quote_cons, hstep,
        quoted_after_inside hq]
      constructor
      · intro he
        split at he
        · cases he
        · next hquote =>
          split at he
          · next hlast =>
            obtain ⟨xs, rfl⟩ := List.getLast?_eq_some_iff.1 hlast
            exact ⟨⟨xs, [], rfl, by simpa using hquote⟩, hlast⟩
          · cases he
      · rintro ⟨⟨xs, ys, rfl, hxs⟩, hlast⟩
        rw [if_neg (by simp [hxs]), if_pos hlast]
    · rw [List.getLast?_concat]
      refine ⟨fun he => absurd he (after_concat_ne_fieldStart _ pre' hc), fun he => ?_⟩
      exact absurd (Option.some.inj he.2) hc
  · rw [after_eq_quoted_iff_of_notMem hmem]
    exact ⟨fun he => absurd he (by decide), fun he => absurd he.2.quote_mem hmem⟩

/-- Read from inside quotes, a field leaves the editor there if it has no quote, or if its last one
stands right behind a space. -/
theorem quoted_after_field {f : List Char} (h : IsField f) :
    TokenPlace.quoted.after f = .quoted ↔ '"' ∉ f ∨ QuoteBehindSpace f := by
  by_cases hmem : '"' ∈ f
  · rw [or_iff_right (not_not_intro hmem)]
    obtain ⟨pre, post, rfl, hpost, hpre⟩ := field_last_quote h hmem
    rw [after_eq_quoted_iff hpost, quoteBehindSpace_iff hpost]
    rcases hpre with ⟨q, rfl, hq, -⟩ | ⟨pre', c, rfl, hc⟩
    · have hstep : TokenPlace.quoted.after ('"' :: q) = TokenPlace.word.after q := rfl
      rw [getLast?_quote_cons, hstep, after_inside hq (by decide)]
      cases q with
      | nil => simp
      | cons d q => simp
    · rw [List.getLast?_concat]
      refine ⟨fun he => absurd he (after_concat_ne_fieldStart _ pre' hc), fun he => ?_⟩
      exact absurd (Option.some.inj he) hc
  · rw [after_eq_quoted_iff_of_notMem hmem]
    exact ⟨fun _ => Or.inl hmem, fun _ => rfl⟩

/-- **The editor behind a front** is inside quotes if the fields mislead it, or if it was before and no
field has found it again. -/
theorem after_front_eq_quoted_iff {cs : List Char} {fs : List (List Char)} (h : Front cs fs)
    {p : TokenPlace} (hp : p ≠ .word) :
    p.after cs = .quoted ↔ Misleads fs ∨ p = .quoted ∧ ∀ g ∈ fs, '"' ∉ g ∨ QuoteBehindSpace g := by
  induction h generalizing p with
  | nil =>
    have hno : ¬Misleads [] := by
      rintro ⟨pre, f, post, he, -⟩
      simp at he
    refine ⟨fun he => Or.inr ⟨he, by simp⟩, fun he => ?_⟩
    exact (he.resolve_left hno).1
  | @space cs fs _ ih =>
    have hstep : p.step ' ' = p := by
      cases p with
      | word => exact absurd rfl hp
      | fieldStart | quoted => rfl
    rw [after_cons, hstep, ih hp]
  | @field f cs fs hf _ ih =>
    have hne : (p.after f).step ' ' ≠ .word := by
      rw [step_space]
      split <;> exact fun he => by cases he
    have hquoted : (p.after f).step ' ' = .quoted ↔ p.after f = .quoted := by
      rw [step_space]
      by_cases hq : p.after f = .quoted
      · simp [hq]
      · simp [hq]
    rw [after_append, after_cons, ih hne, hquoted, misleads_cons, List.forall_mem_cons]
    cases p with
    | word => exact absurd rfl hp
    | fieldStart =>
      rw [fieldStart_after_field hf]
      refine or_congr_right ?_ |>.trans (or_iff_left ?_).symm
      · exact and_assoc
      · exact fun he => by cases he.1
    | quoted =>
      rw [quoted_after_field hf]
      constructor
      · rintro (h | ⟨h, hfs⟩)
        · exact Or.inl (Or.inl h)
        · exact Or.inr ⟨rfl, h, hfs⟩
      · rintro ((h | ⟨-, h, hfs⟩) | ⟨-, h, hfs⟩)
        · exact Or.inl h
        · exact Or.inr ⟨Or.inr h, hfs⟩
        · exact Or.inr ⟨h, hfs⟩

/-! ## The start inside the last field -/

/-- Read from its start, a field keeps the start if no space stands behind an escaped quote of it. -/
theorem keeps_field_iff {f : List Char} (h : IsField f ∨ OpenField f) :
    TokenPlace.fieldStart.Keeps f ↔ ¬EscapeThenSpace f := by
  have hopen : ∀ {q}, Inside q → (TokenPlace.fieldStart.Keeps ('"' :: q) ↔ ¬EscapeThenSpace ('"' :: q)) := by
    intro q hq
    have hstep : TokenPlace.fieldStart.step '"' = .quoted := rfl
    rw [keeps_cons, escapeThenSpace_quote_cons, hstep]
    constructor
    · rintro ⟨-, hk⟩ ⟨pre, post, rfl, hpre⟩
      have := hk pre post rfl
      rw [quoted_after_inside hq.of_append_space, if_neg (not_not_intro hpre)] at this
      split at this <;> cases this
    · intro hno
      refine ⟨fun he => absurd he (by decide), fun pre post he => ?_⟩
      subst he
      rw [quoted_after_inside hq.of_append_space, if_pos fun hpre => hno ⟨pre, post, rfl, hpre⟩]
  rcases h with h | h
  · cases h with
    | @plain c s hc hs =>
      exact ⟨fun _ => not_escapeThenSpace_of_notMem hs, fun _ => keeps_of_notMem hs⟩
    | @quoted q s hq hs _ =>
      have hspace : ' ' ∉ '"' :: s := by simp [hs]
      rw [← List.cons_append, keeps_append, escapeThenSpace_append hspace, ← hopen hq]
      exact and_iff_left (keeps_of_notMem hspace)
  · obtain ⟨hq⟩ := h
    exact hopen hq

end CommandShell.Editor
