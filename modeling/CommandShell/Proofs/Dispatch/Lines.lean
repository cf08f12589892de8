import CommandShell.Dispatch

/-!
# Kinds of lines

A line that is carried out is one of four: it cannot be split, it has no tokens, its tokens control the
stack, or they are put behind the stack and planned.

    dispatch e s line = refuse, ⟨.empty, [], s⟩, control or execute     (dispatch_cases)
    planned e s line  = the plan or the refusal of a line of the first or the last kind
    plan e s context  = the command that the tokens name, or the fallback    (plan_eq_ok, plan_eq_error)
-/

namespace CommandShell

/-! ## Control lines -/

namespace StackTokens

/-- The tokens are a control: the last one is the push token, or the only one pops or clears. -/
def Controls (t : StackTokens) (tokens : List String) : Prop :=
  tokens.getLast? = some t.push ∨ tokens = [t.pop] ∨ tokens = [t.clear]

instance (t : StackTokens) (tokens : List String) : Decidable (t.Controls tokens) :=
  inferInstanceAs (Decidable (_ ∨ _ ∨ _))

/-- The stack after a line with some tokens. -/
def after (t : StackTokens) (items tokens : List String) : List String :=
  if tokens.getLast? = some t.push then items ++ tokens.dropLast
  else if tokens = [t.pop] then items.dropLast
  else if tokens = [t.clear] then []
  else items

/-- The tests of `classify`, in order. -/
theorem classify_eq (t : StackTokens) (tokens : List String) :
    t.classify tokens =
      if tokens.getLast? = some t.push then some (.push tokens.dropLast)
      else if tokens = [t.pop] then some .pop
      else if tokens = [t.clear] then some .clear
      else none := by
  rcases List.eq_nil_or_concat tokens with rfl | ⟨init, last, rfl⟩
  · rfl
  · rw [List.concat_eq_append]
    unfold classify
    rw [List.getLast?_concat, List.dropLast_concat]
    by_cases hpush : last = t.push
    · simp [hpush]
    · cases init <;> simp [hpush]

theorem classify_eq_none_iff {t : StackTokens} {tokens : List String} :
    t.classify tokens = none ↔ ¬t.Controls tokens := by
  rw [classify_eq]
  by_cases hpush : tokens.getLast? = some t.push
  · rw [if_pos hpush]
    exact ⟨nofun, fun h => absurd (Or.inl hpush) h⟩
  by_cases hpop : tokens = [t.pop]
  · rw [if_neg hpush, if_pos hpop]
    exact ⟨nofun, fun h => absurd (Or.inr (Or.inl hpop)) h⟩
  by_cases hclear : tokens = [t.clear]
  · rw [if_neg hpush, if_neg hpop, if_pos hclear]
    exact ⟨nofun, fun h => absurd (Or.inr (Or.inr hclear)) h⟩
  · rw [if_neg hpush, if_neg hpop, if_neg hclear]
    refine ⟨fun _ => ?_, fun _ => rfl⟩
    rintro (h | h | h)
    · exact hpush h
    · exact hpop h
    · exact hclear h

/-- A control does to the stack what its line says; without one the stack stays. -/
theorem after_eq_elim_classify (t : StackTokens) (items tokens : List String) :
    t.after items tokens = (t.classify tokens).elim items (StackControl.apply items) := by
  unfold after
  rw [classify_eq]
  by_cases hpush : tokens.getLast? = some t.push
  · rw [if_pos hpush, if_pos hpush]
    rfl
  by_cases hpop : tokens = [t.pop]
  · rw [if_neg hpush, if_neg hpush, if_pos hpop, if_pos hpop]
    rfl
  by_cases hclear : tokens = [t.clear]
  · rw [if_neg hpush, if_neg hpush, if_neg hpop, if_neg hpop, if_pos hclear, if_pos hclear]
    rfl
  · rw [if_neg hpush, if_neg hpush, if_neg hpop, if_neg hpop, if_neg hclear, if_neg hclear]
    rfl

theorem after_of_not_controls {t : StackTokens} {tokens : List String} (h : ¬t.Controls tokens)
    (items : List String) : t.after items tokens = items := by
  rw [after_eq_elim_classify, classify_eq_none_iff.2 h]
  rfl

theorem not_controls_nil (t : StackTokens) : ¬t.Controls [] :=
  classify_eq_none_iff.1 t.classify_nil

/-- Tokens in front of a line that is no control make none of it. -/
theorem not_controls_append {t : StackTokens} {tokens : List String} (hne : tokens ≠ [])
    (h : ¬t.Controls tokens) (items : List String) : ¬t.Controls (items ++ tokens) := by
  cases items with
  | nil => exact h
  | cons x items =>
    have hlast : (x :: items ++ tokens).getLast? = tokens.getLast? := by
      rw [List.getLast?_append, Option.or_of_isSome (by simpa using hne)]
    have htwo : ∀ y, x :: items ++ tokens ≠ [y] := by
      intro y he
      rw [List.cons_append, List.cons.injEq, List.append_eq_nil_iff] at he
      exact hne he.2.2
    rintro (hpush | hpop | hclear)
    · exact h (Or.inl (hlast.symm.trans hpush))
    · exact htwo _ hpop
    · exact htwo _ hclear

end StackTokens

/-! ## One line -/

/-- A refusal leaves the session as it was. -/
theorem Session.session_refuse (s : Session) (r : Refusal) : (s.refuse r).session = s := by
  unfold refuse
  split <;> rfl

namespace Engine

/-- **What a line can do.** -/
theorem dispatch_cases (e : Engine) (s : Session) (line : String) :
    (∃ f, tokenize (e.substitution line) = .error f ∧ e.dispatch s line = s.refuse ⟨f, none⟩) ∨
    (tokenize (e.substitution line) = .ok [] ∧ e.dispatch s line = ⟨.empty, [], s⟩) ∨
    (∃ tokens, tokenize (e.substitution line) = .ok tokens ∧ e.stackTokens.Controls tokens ∧
      e.dispatch s line =
        ⟨.stackChanged,
          if e.observed then [.stackChanged (e.stackTokens.after s.stack tokens)] else [],
          { s with stack := e.stackTokens.after s.stack tokens }⟩) ∨
    (∃ tokens, tokenize (e.substitution line) = .ok tokens ∧ tokens ≠ [] ∧
      ¬e.stackTokens.Controls tokens ∧ e.dispatch s line = e.execute s (s.stack ++ tokens)) := by
  unfold dispatch
  cases ht : tokenize (e.substitution line) with
  | error f => exact Or.inl ⟨f, rfl, rfl⟩
  | ok tokens =>
    refine Or.inr ?_
    dsimp only
    unfold dispatchTokens
    cases tokens with
    | nil => exact Or.inl ⟨rfl, rfl⟩
    | cons first rest =>
      refine Or.inr ?_
      rw [if_neg (by simp)]
      have hafter := StackTokens.after_eq_elim_classify e.stackTokens s.stack (first :: rest)
      cases hk : e.stackTokens.classify (first :: rest) with
      | none =>
        exact Or.inr ⟨_, rfl, List.cons_ne_nil first rest, StackTokens.classify_eq_none_iff.1 hk, rfl⟩
      | some k =>
        rw [hk] at hafter
        have hcontrols : e.stackTokens.Controls (first :: rest) := by
          refine Decidable.of_not_not fun h => ?_
          rw [StackTokens.classify_eq_none_iff.2 h] at hk
          cases hk
        refine Or.inl ⟨_, rfl, hcontrols, ?_⟩
        rw [hafter]
        rfl

theorem dispatch_of_not_controls {e : Engine} {s : Session} {line : String} {tokens : List String}
    (ht : tokenize (e.substitution line) = .ok tokens) (hne : tokens ≠ [])
    (h : ¬e.stackTokens.Controls tokens) : e.dispatch s line = e.execute s (s.stack ++ tokens) := by
  rw [dispatch_of_tokenize ht, dispatchTokens, if_neg (by simpa using hne),
    StackTokens.classify_eq_none_iff.2 h]

/-- What a line asks to run, or why it is refused; none of a line that is blank or a control. -/
def planned (e : Engine) (s : Session) (line : String) : Option (Except Refusal Plan) :=
  match tokenize (e.substitution line) with
  | .error f => some (.error ⟨f, none⟩)
  | .ok tokens =>
    if tokens = [] ∨ e.stackTokens.Controls tokens then none else some (e.plan s (s.stack ++ tokens))

theorem planned_of_error {e : Engine} {line : String} {f : Failure}
    (ht : tokenize (e.substitution line) = .error f) (s : Session) :
    e.planned s line = some (.error ⟨f, none⟩) := by
  rw [planned, ht]

theorem planned_of_not_controls {e : Engine} {line : String} {tokens : List String}
    (ht : tokenize (e.substitution line) = .ok tokens) (hne : tokens ≠ [])
    (h : ¬e.stackTokens.Controls tokens) (s : Session) :
    e.planned s line = some (e.plan s (s.stack ++ tokens)) := by
  rw [planned, ht]
  exact if_neg (not_or.2 ⟨hne, h⟩)

theorem planned_eq_some {e : Engine} {s : Session} {line : String} {x : Except Refusal Plan}
    (h : e.planned s line = some x) :
    (∃ f, tokenize (e.substitution line) = .error f ∧ x = .error ⟨f, none⟩) ∨
    (∃ tokens, tokenize (e.substitution line) = .ok tokens ∧ tokens ≠ [] ∧
      ¬e.stackTokens.Controls tokens ∧ e.plan s (s.stack ++ tokens) = x) := by
  unfold planned at h
  split at h
  · next f ht =>
    cases h
    exact Or.inl ⟨f, ht, rfl⟩
  · next tokens ht =>
    split at h
    · cases h
    · next hnot =>
      obtain ⟨hne, hno⟩ := not_or.1 hnot
      exact Or.inr ⟨tokens, ht, hne, hno, Option.some.inj h⟩

/-! ## One plan -/

/-- Tokens are refused by the command that they name, or because they name none. -/
theorem plan_eq_error {e : Engine} {s : Session} {context : List String} {r : Refusal}
    (h : e.plan s context = .error r) :
    (∃ c args f, e.table.resolve? context = some (c, args) ∧
      bind e.converters s.services c args = .error f ∧ r = ⟨f, some c⟩) ∨
    (∃ name, e.table.resolve? context = none ∧ e.fallback = none ∧ name = unquote (context.headD "") ∧
      r = ⟨.unknownCommand name (rankAll e.table.names name), none⟩) := by
  unfold plan at h
  split at h
  · next c args hc =>
    split at h
    · next f hbind =>
      cases h
      exact Or.inl ⟨c, args, f, hc, hbind, rfl⟩
    · cases h
  · next hc =>
    dsimp only at h
    split at h
    · cases h
    · next hf =>
      cases h
      exact Or.inr ⟨_, hc, hf, rfl, rfl⟩

end Engine
end CommandShell
