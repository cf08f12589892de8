import CommandShell.Completion
import CommandShell.Proofs.Binding.Places

/-!
# The walk without a cursor

The walk looks for the next positional parameter behind the one that it found last, as binding does. What is
proved of it is proved of a search from the first place.

    walk c args = walkFrom c (Marks.start c) args
-/

namespace CommandShell

/-! ## Marks -/

namespace Marks

/-- The first visible parameter that is not used, with its place. -/
def firstOpen? (c : Command) (m : Marks) : Option (Parameter × Nat) :=
  c.places.find? fun t => !t.1.isInjected && !m.isUsed t.2

theorem length_start (c : Command) : (Marks.start c).length = c.params.length := by
  unfold start
  rw [List.length_map]

theorem length_touch (m : Marks) (i : Nat) : (m.touch i).length = m.length :=
  List.length_modify ..

theorem length_put (m : Marks) (i : Nat) (token : Option String) : (m.put i token).length = m.length :=
  List.length_set ..

theorem isUsed_touch (m : Marks) (i j : Nat) :
    (m.touch i).isUsed j = true ↔ m.isUsed j = true ∨ j = i ∧ i < m.length := by
  unfold touch isUsed
  rw [List.getElem?_modify]
  by_cases hj : i = j
  · subst hj
    by_cases hi : i < m.length
    · simp [hi]
    · simp [hi]
  · simp [hj, Ne.symm hj]

theorem isUsed_put (m : Marks) (i j : Nat) (token : Option String) :
    (m.put i token).isUsed j = true ↔ m.isUsed j = true ∨ j = i ∧ i < m.length := by
  unfold put isUsed
  by_cases hj : i = j
  · subst hj
    by_cases hi : i < m.length
    · simp [hi]
    · simp [hi]
  · simp [List.getElem?_set_ne hj, Ne.symm hj]

end Marks

/-! ## The walk -/

/-- Walks over tokens, each positional one for the first parameter that is open. -/
def walkFrom (c : Command) : Marks → List String → Walk
  | m, [] =>
    match m.firstOpen? c with
    | some (_, i) => ⟨.positional i, m⟩
    | none => ⟨.none, m⟩
  | m, token :: rest =>
    if isFlag token then
      match c.flagTarget? (flagName token), rest with
      | none, [] => walkFrom c m []
      | none, _ :: rest => walkFrom c m rest
      | some (p, i), [] => if p.type.isBoolean then walkFrom c (m.touch i) [] else ⟨.flagValue i, m.touch i⟩
      | some (p, i), value :: rest =>
        if isFlag value then
          if p.type.isBoolean then walkFrom c (m.touch i) (value :: rest) else walkFrom c (m.put i none) rest
        else walkFrom c (m.put i (some value)) rest
    else
      match m.firstOpen? c with
      | some (_, i) => walkFrom c (m.put i (some token)) rest
      | none => walkFrom c m rest

section
variable {c : Command} {cursor : Nat} {m : Marks} {args : List String}

theorem passed_touch (h : c.Passed m.isUsed cursor) (i : Nat) : c.Passed (m.touch i).isUsed cursor :=
  h.mono fun j hj => (Marks.isUsed_touch m i j).2 (Or.inl hj)

theorem passed_put (h : c.Passed m.isUsed cursor) (i : Nat) (token : Option String) :
    c.Passed (m.put i token).isUsed cursor :=
  h.mono fun j hj => (Marks.isUsed_put m i j token).2 (Or.inl hj)

/-- **The cursor changes nothing**, as long as all places in front of it are injected or used. -/
theorem walkAt_eq (h : c.Passed m.isUsed cursor) (hl : m.length = c.params.length) :
    walkAt c cursor m args = walkFrom c m args := by
  fun_induction walkAt c cursor m args with
  | case1 cursor m p i hopen | case2 cursor m hopen =>
    rw [h.openFrom?_eq] at hopen
    rw [walkFrom, Marks.firstOpen?, hopen]
  | case3 cursor m token hflag ht ih =>
    rw [ih h hl, walkFrom.eq_def c m [token]]
    simp [hflag, ht]
  | case4 cursor m token hflag skipped rest ht ih =>
    rw [ih h hl, walkFrom.eq_def c m (token :: skipped :: rest)]
    simp [hflag, ht]
  -- a flag leaves the cursor where it is
  | case5 cursor m token hflag p i ht hbool ih =>
    rw [ih (passed_touch h i) (by rwa [Marks.length_touch]), walkFrom.eq_def c m [token]]
    simp [hflag, ht, hbool]
  | case6 cursor m token hflag p i ht hbool =>
    rw [walkFrom.eq_def c m [token]]
    simp [hflag, ht, hbool]
  | case7 cursor m token hflag p i value rest ht hvalue hbool ih =>
    rw [ih (passed_touch h i) (by rwa [Marks.length_touch]), walkFrom.eq_def c m (token :: value :: rest)]
    simp [hflag, ht, hvalue, hbool]
  | case8 cursor m token hflag p i value rest ht hvalue hbool ih =>
    rw [ih (passed_put h i _) (by rwa [Marks.length_put]), walkFrom.eq_def c m (token :: value :: rest)]
    simp [hflag, ht, hvalue, hbool]
  | case9 cursor m token hflag p i value rest ht hvalue ih =>
    rw [ih (passed_put h i _) (by rwa [Marks.length_put]), walkFrom.eq_def c m (token :: value :: rest)]
    simp [hflag, ht, hvalue]
  | case10 cursor m token rest hflag p i hopen ih =>
    have hlt : i < m.length := by
      rw [hl]
      exact Command.lt_length_of_mem_places (List.mem_of_mem_drop (List.mem_of_find?_eq_some hopen))
    have hnext := h.next hopen (fun j hj => (Marks.isUsed_put m i j (some token)).2 (Or.inl hj))
      ((Marks.isUsed_put m i i _).2 (Or.inr ⟨rfl, hlt⟩))
    rw [h.openFrom?_eq] at hopen
    rw [ih hnext (by rwa [Marks.length_put]), walkFrom.eq_def c m (token :: rest)]
    simp [hflag, Marks.firstOpen?, hopen]
  | case11 cursor m token rest hflag hopen ih =>
    have hall := h.all hopen
    rw [h.openFrom?_eq] at hopen
    rw [ih hall hl, walkFrom.eq_def c m (token :: rest)]
    simp [hflag, Marks.firstOpen?, hopen]

/-- The walk starts with the cursor at the first place. -/
theorem walk_eq_walkFrom (c : Command) (args : List String) : walk c args = walkFrom c (Marks.start c) args :=
  walkAt_eq Command.passed_zero (Marks.length_start c)

end

end CommandShell
