import CommandShell.Builtin
import CommandShell.Proofs.Binding.Cursor

/-!
# Errors of a scan

A token that is refused stays refused: nothing that was read before it depends on what stands behind it.
Only two failures look at the end of the tokens: a flag that waits for its value, and parameters that are
missing once all tokens are read.

    bind cs r c tokens = .error f  →  bind cs r c (tokens ++ more) = .error f    unless f tells what is missing
    bind cs r c tokens = .error (.missingValue name)  →  tokens ends in a flag that any value completes
-/

namespace CommandShell

/-! ## Tokens behind a scan -/

/-- The failure tells that something is missing behind the tokens. -/
def Failure.isMissing : Failure → Bool
  | missingValue _ | missingParameters _ => true
  | _ => false

/-- A token that does not convert is no token that is missing. -/
theorem Converters.isMissing_of_convert {cs : Converters} {p : Parameter} {token : String} {f : Failure}
    (h : cs.convert p token = .error f) : f.isMissing = false := by
  rcases convert_eq_error h with ⟨_, _, rfl⟩ | ⟨_, _, _, _, _, _, rfl⟩ <;> rfl

section
variable {cs : Converters} {r : Registry} {c : Command} {s : Slots} {tokens : List String}

/-- What stands behind a refused token is not read. -/
theorem bindFrom_append_of_error {f : Failure} (h : bindFrom cs c s tokens = .error f)
    (hf : ∀ name, f ≠ .missingValue name) (more : List String) :
    bindFrom cs c s (tokens ++ more) = .error f := by
  fun_induction bindFrom cs c s tokens with
  -- all tokens are read
  | case1 | case4 => cases h
  -- the last flag waits for its value
  | case5 =>
    cases h
    exact absurd rfl (hf _)
  -- the token in front is refused
  | case2 s token rest hflag ht =>
    cases h
    rw [List.cons_append, bindFrom, if_pos hflag, ht]
  | case3 s token rest hflag p i ht hbound =>
    cases h
    rw [List.cons_append, bindFrom, if_pos hflag, ht]
    simp [hbound]
  | case9 s token rest hflag ht =>
    cases h
    rw [List.cons_append, bindFrom, if_neg hflag, ht]
  | case10 s token rest hflag p i ht e he =>
    cases h
    rw [List.cons_append, bindFrom, if_neg hflag, ht]
    simp [he]
  -- the value of the flag in front is refused
  | case7 s flag hflag p i ht hfree value rest hvalue e he =>
    cases h
    rw [List.cons_append, List.cons_append, bindFrom, if_pos hflag, ht]
    simp [hfree, hvalue, he]
  -- the flag in front is a switch or has its value, or the token in front goes to its place
  | case6 s flag hflag p i ht hfree value rest hswitch ih =>
    rw [List.cons_append, List.cons_append, bindFrom, if_pos hflag, ht]
    simpa [hfree, hswitch] using ih h
  | case8 s flag hflag p i ht hfree value rest hvalue v hv ih =>
    rw [List.cons_append, List.cons_append, bindFrom, if_pos hflag, ht]
    simpa [hfree, hvalue, hv] using ih h
  | case11 s token rest hflag p i ht v hv ih =>
    rw [List.cons_append, bindFrom, if_neg hflag, ht]
    simpa [hv] using ih h

/-- A flag that waits for its value is the last token, and a value completes the scan. -/
theorem bindFrom_eq_missingValue {name : String} (h : bindFrom cs c s tokens = .error (.missingValue name)) :
    ∃ front flag p i, tokens = front ++ [flag] ∧ isFlag flag = true ∧
      c.flagTarget? (flagName flag) = some (p, i) ∧ p.name = name ∧ p.type.isBoolean = false ∧
      ∀ token v, cs.convert p token = .ok v → ∃ s', bindFrom cs c s (tokens ++ [token]) = .ok s' := by
  fun_induction bindFrom cs c s tokens with
  -- another failure, or none
  | case1 | case2 | case3 | case4 | case9 => cases h
  | case7 _ _ _ _ _ _ _ _ _ _ _ he | case10 _ _ _ _ _ _ _ _ he =>
    cases h
    cases Converters.isMissing_of_convert he
  | case5 s flag hflag p i ht hfree hbool =>
    cases h
    refine ⟨[], flag, p, i, rfl, hflag, ht, rfl, by simpa using hbool, fun token v hv => ?_⟩
    refine ⟨s.set i (some v), ?_⟩
    rw [List.singleton_append, bindFrom, if_pos hflag, ht]
    simp [hfree, hbool, hv, bindFrom]
  -- the flag is one of the tokens behind
  | case6 s flag hflag p i ht hfree value rest hswitch ih =>
    obtain ⟨front, last, q, j, hrest, hlast, hq, hname, hbool, hvalue⟩ := ih h
    refine ⟨flag :: front, last, q, j, by rw [hrest, List.cons_append], hlast, hq, hname, hbool, ?_⟩
    intro token v hv
    rw [List.cons_append, List.cons_append, bindFrom, if_pos hflag, ht]
    simpa [hfree, hswitch] using hvalue token v hv
  | case8 s flag hflag p i ht hfree value rest hno w hw ih =>
    obtain ⟨front, last, q, j, hrest, hlast, hq, hname, hbool, hvalue⟩ := ih h
    refine ⟨flag :: value :: front, last, q, j, by rw [hrest]; rfl, hlast, hq, hname, hbool, ?_⟩
    intro token v hv
    rw [List.cons_append, List.cons_append, bindFrom, if_pos hflag, ht]
    simpa [hfree, hno, hw] using hvalue token v hv
  | case11 s token rest hflag p i ht w hw ih =>
    obtain ⟨front, last, q, j, hrest, hlast, hq, hname, hbool, hvalue⟩ := ih h
    refine ⟨token :: front, last, q, j, by rw [hrest, List.cons_append], hlast, hq, hname, hbool, ?_⟩
    intro token v hv
    rw [List.cons_append, bindFrom, if_neg hflag, ht]
    simpa [hw] using hvalue token v hv

/-! ## Binding -/

/-- The scan fails, or it comes to its end and required parameters are missing. -/
theorem bind_eq_error {f : Failure} (h : bind cs r c tokens = .error f) :
    bindFrom cs c (Slots.start c) tokens = .error f ∨ ∃ names, f = .missingParameters names := by
  rw [bind_eq_bindFrom] at h
  split at h
  · next hscan =>
    cases h
    exact Or.inl hscan
  · split at h
    · cases h
    · cases h
      exact Or.inr ⟨_, rfl⟩

theorem bind_of_bindFrom_error {f : Failure} (h : bindFrom cs c (Slots.start c) tokens = .error f) :
    bind cs r c tokens = .error f := by
  rw [bind_eq_bindFrom]
  rw [h]

theorem bind_of_bindFrom_ok {s' : Slots} (h : bindFrom cs c (Slots.start c) tokens = .ok s') :
    (∃ a, bind cs r c tokens = .ok a) ∨ ∃ names, bind cs r c tokens = .error (.missingParameters names) := by
  rw [bind_eq_bindFrom]
  rw [h]
  dsimp only
  split
  · exact Or.inl ⟨_, rfl⟩
  · exact Or.inr ⟨_, rfl⟩

theorem bind_append_of_error {f : Failure} (h : bind cs r c tokens = .error f) (hf : f.isMissing = false)
    (more : List String) : bind cs r c (tokens ++ more) = .error f := by
  rcases bind_eq_error h with hscan | ⟨names, rfl⟩
  · refine bind_of_bindFrom_error (bindFrom_append_of_error hscan (fun name hname => ?_) more)
    rw [hname] at hf
    cases hf
  · cases hf

end

/-- Of the fronts of a list that have a property there is a shortest one. -/
theorem exists_shortest_prefix {α : Type} {P : List α → Prop} {xs : List α} (h : P xs) :
    ∃ front, front <+: xs ∧ P front ∧ ∀ shorter, shorter <+: front → P shorter → shorter = front := by
  induction hn : xs.length using Nat.strongRecOn generalizing xs with
  | ind n ih =>
    by_cases hless : ∃ shorter, shorter <+: xs ∧ P shorter ∧ shorter ≠ xs
    · obtain ⟨shorter, hshorter, hP, hne⟩ := hless
      have hlt : shorter.length < n := by
        have hle := hshorter.length_le
        have : shorter.length ≠ xs.length := fun he => hne (hshorter.eq_of_length he)
        omega
      obtain ⟨front, hfront, hPfront, hmin⟩ := ih _ hlt hP rfl
      exact ⟨front, hfront.trans hshorter, hPfront, hmin⟩
    · refine ⟨xs, List.prefix_refl xs, h, fun shorter hshorter hP => ?_⟩
      exact Classical.byContradiction fun hne => hless ⟨shorter, hshorter, hP, hne⟩

/-- **An error of the scan is final.** If tokens fail to bind, but not because something is missing behind
them, then all tokens with them in front fail in the same way; the shortest tokens in front that fail so
decide it. If a flag waits for its value, it is the last token, its parameter is no truth value, and with any
token that converts the scan comes to its end. -/
theorem scan_error_final (cs : Converters) (r : Registry) (c : Command) (tokens : List String) :
    (∀ f, bind cs r c tokens = .error f → f.isMissing = false →
      (∀ more, bind cs r c (tokens ++ more) = .error f) ∧
      ∃ front, front <+: tokens ∧ (∀ more, bind cs r c (front ++ more) = .error f) ∧
        ∀ shorter, shorter <+: front → shorter ≠ front →
          ∀ f', bind cs r c shorter = .error f' → f'.isMissing = true) ∧
    ∀ name, bind cs r c tokens = .error (.missingValue name) →
      ∃ front flag p i, tokens = front ++ [flag] ∧ isFlag flag = true ∧
        c.flagTarget? (flagName flag) = some (p, i) ∧ p.name = name ∧ p.type.isBoolean = false ∧
        ∀ token v, cs.convert p token = .ok v →
          (∃ a, bind cs r c (tokens ++ [token]) = .ok a) ∨
            ∃ names, bind cs r c (tokens ++ [token]) = .error (.missingParameters names) := by
  refine ⟨fun f h hf => ⟨bind_append_of_error h hf, ?_⟩, fun name h => ?_⟩
  · obtain ⟨front, hfront, ⟨f', hf', hmissing⟩, hmin⟩ := exists_shortest_prefix
      (P := fun tokens => ∃ f, bind cs r c tokens = .error f ∧ f.isMissing = false) ⟨f, h, hf⟩
    -- what refuses the front refuses the tokens, so it is the same failure
    obtain ⟨rest, rfl⟩ := hfront
    obtain rfl : f' = f := by
      have := bind_append_of_error hf' hmissing rest
      rw [h] at this
      exact (Except.error.inj this).symm
    refine ⟨front, List.prefix_append front rest, bind_append_of_error hf' hmissing, ?_⟩
    intro shorter hshorter hne g hg
    refine Decidable.of_not_not fun hno => hne (hmin shorter hshorter ⟨g, hg, ?_⟩)
    simpa using hno
  · rcases bind_eq_error h with hscan | ⟨names, hnames⟩
    · obtain ⟨front, flag, p, i, ht, hflag, hp, hname, hbool, hvalue⟩ := bindFrom_eq_missingValue hscan
      refine ⟨front, flag, p, i, ht, hflag, hp, hname, hbool, fun token v hv => ?_⟩
      obtain ⟨s', hs'⟩ := hvalue token v hv
      exact bind_of_bindFrom_ok hs'
    · cases hnames

/-- A port that does not convert, behind a switch; and a switch whose next flag waits for its value. -/
theorem scan_error_final_connect :
    let refused : Failure := .mismatch ⟨"port", "eighty", "int", [], none⟩
    (bind Builtin.converters .empty Builtin.connect ["-secure", "-port", "eighty"] = .error refused ∧
      refused.isMissing = false ∧
      bind Builtin.converters .empty Builtin.connect ["-secure", "-port", "eighty", "n", "-no"] =
        .error refused) ∧
    bind Builtin.converters .empty Builtin.connect ["-secure", "-port"] = .error (.missingValue "port") ∧
      ((∃ a, bind Builtin.converters .empty Builtin.connect ["-secure", "-port", "443"] = .ok a) ∨
        ∃ names, bind Builtin.converters .empty Builtin.connect ["-secure", "-port", "443"] =
          .error (.missingParameters names)) := by
  intro refused
  have hrefused : bind Builtin.converters .empty Builtin.connect ["-secure", "-port", "eighty"] =
      .error refused := rfl
  have hwaits : bind Builtin.converters .empty Builtin.connect ["-secure", "-port"] =
      .error (.missingValue "port") := rfl
  obtain ⟨hfinal, -⟩ := scan_error_final Builtin.converters .empty Builtin.connect ["-secure", "-port", "eighty"]
  obtain ⟨-, hmissing⟩ := scan_error_final Builtin.converters .empty Builtin.connect ["-secure", "-port"]
  obtain ⟨front, flag, p, i, ht, -, hp, -, -, hvalue⟩ := hmissing "port" hwaits
  refine ⟨⟨hrefused, rfl, (hfinal refused hrefused rfl).1 ["n", "-no"]⟩, hwaits, ?_⟩
  obtain rfl : "-port" = flag := by simpa using congrArg List.getLast? ht
  cases hp
  exact hvalue "443" (.int 443) rfl

end CommandShell
