import CommandShell.Proofs.Dispatch.Lines

/-!
# Cancel signals of a session

Every line that is carried out has a signal with a switch of its own, numbered by how many were handed out
before it. The signal is turned on if the line is canceled, and by nothing else; it stays on.

    states after dispatch e s line = states of s ++ [is the line canceled?]   if the line is carried out
                                   = states of s                              if not
-/

namespace CommandShell

/-! ## Boards -/

namespace SignalBoard

variable (b : SignalBoard)

theorem length_states : b.states.length = b.count :=
  List.length_map _

theorem isCanceled_eq (n : Nat) : b.isCanceled n = (b.states[n]?).getD false := by
  unfold isCanceled states
  rw [List.getElem?_map]
  cases b.handles[n]? <;> rfl

/-- A fresh signal is off, and it leaves the others as they are. -/
theorem states_fresh : b.fresh.states = b.states ++ [false] := by
  have hold : ∀ i ∈ b.handles, ((b.switches ++ [false])[i]?).getD false = (b.switches[i]?).getD false := by
    intro i hi
    rw [List.getElem?_append_left (b.lt_length i hi)]
  unfold states fresh
  dsimp only
  rw [List.map_append, List.map_congr_left hold, List.map_singleton, List.getElem?_concat_length]
  rfl

/-- A fresh signal has a switch of its own: turning it on leaves the others as they are. -/
theorem states_cancel_fresh : (b.fresh.cancel b.count).states = b.states ++ [true] := by
  have hhandle : b.fresh.handles[b.count]? = some b.switches.length := List.getElem?_concat_length
  have hold : ∀ i ∈ b.handles, (((b.switches ++ [false]).set b.switches.length true)[i]?).getD false =
      (b.switches[i]?).getD false := by
    intro i hi
    have hlt := b.lt_length i hi
    rw [List.getElem?_set_ne (Nat.ne_of_gt hlt), List.getElem?_append_left hlt]
  unfold cancel
  rw [hhandle]
  unfold states fresh
  dsimp only
  rw [List.map_append, List.map_congr_left hold, List.map_singleton]
  simp

variable {b}

/-- With one signal more, that one is on as its state says. -/
theorem isCanceled_iff_of_states_concat {b' : SignalBoard} {on : Bool} (h : b'.states = b.states ++ [on])
    {n : Nat} : b'.isCanceled n = true ↔ b.isCanceled n = true ∨ (n = b.count ∧ on = true) := by
  rw [isCanceled_eq, isCanceled_eq, h, ← length_states]
  rcases Nat.lt_trichotomy n b.states.length with hlt | rfl | hgt
  · rw [List.getElem?_append_left hlt]
    simp [Nat.ne_of_lt hlt]
  · rw [List.getElem?_concat_length]
    simp
  · have hle : (b.states ++ [on]).length ≤ n := by
      rw [List.length_append]
      exact hgt
    rw [List.getElem?_eq_none hle, List.getElem?_eq_none (Nat.le_of_lt hgt)]
    simp [Nat.ne_of_gt hgt]

end SignalBoard

namespace Engine

/-! ## One line -/

/-- A run turns its signal on exactly if it is canceled. -/
theorem states_run (e : Engine) (s : Session) (p : Plan) :
    let step := e.run { s with signals := s.signals.fresh } s.signals.count p
    step.session.signals.states = s.signals.states ++ [decide (step.outcome = .canceled)] := by
  unfold run
  dsimp only
  split
  · cases (e.respond p).exit <;> exact s.signals.states_cancel_fresh
  · cases (e.respond p).exit <;> cases (e.respond p).result <;> exact s.signals.states_fresh

theorem outcome_refuse_ne_canceled (s : Session) (r : Refusal) : (s.refuse r).outcome ≠ .canceled := by
  unfold Session.refuse
  split <;> exact nofun

theorem states_execute (e : Engine) (s : Session) (context : List String) :
    let step := e.execute s context
    step.session.signals.states = s.signals.states ++ [decide (step.outcome = .canceled)] := by
  unfold execute
  dsimp only
  cases e.plan s context with
  | error r =>
    dsimp only
    rw [Session.session_refuse, decide_eq_false (outcome_refuse_ne_canceled _ r)]
    exact s.signals.states_fresh
  | ok p => exact e.states_run s p

/-- A line that is carried out adds its signal, which is on if the line is canceled; any other line adds
none. -/
theorem states_dispatch_cases (e : Engine) (s : Session) (line : String) :
    let step := e.dispatch s line
    step.session.signals.states = s.signals.states ++ [decide (step.outcome = .canceled)] ∨
      (step.session.signals = s.signals ∧ step.outcome ≠ .canceled) := by
  rcases e.dispatch_cases s line with ⟨f, -, hd⟩ | ⟨-, hd⟩ | ⟨tokens, -, -, hd⟩ | ⟨tokens, -, -, -, hd⟩
  · rw [hd]
    exact Or.inr ⟨by rw [Session.session_refuse], outcome_refuse_ne_canceled s _⟩
  · rw [hd]
    exact Or.inr ⟨rfl, nofun⟩
  · rw [hd]
    exact Or.inr ⟨rfl, nofun⟩
  · rw [hd]
    exact Or.inl (e.states_execute s _)

/-- After a line those signals are on that were on before it, and its own if it is canceled. -/
theorem isCanceled_dispatch_iff {e : Engine} {s : Session} {line : String} {n : Nat} :
    (e.dispatch s line).session.signals.isCanceled n = true ↔
      s.signals.isCanceled n = true ∨
        (n = s.signals.count ∧ (e.dispatch s line).outcome = .canceled) := by
  rcases e.states_dispatch_cases s line with h | ⟨h, hne⟩
  · rw [SignalBoard.isCanceled_iff_of_states_concat h, decide_eq_true_iff]
  · simp [h, hne]

/-! ## Some lines -/

/-- The session after some more lines. -/
def sessionAfter (e : Engine) (s : Session) (lines : List String) : Session :=
  lines.foldl (fun s line => (e.dispatch s line).session) s

/-- **A signal tells of its own line.** After some lines those signals are on that were on before, and
those of the lines that were canceled. -/
theorem isCanceled_sessionAfter_iff {e : Engine} {s : Session} {lines : List String} {n : Nat} :
    (e.sessionAfter s lines).signals.isCanceled n = true ↔
      s.signals.isCanceled n = true ∨
        ∃ front line back, lines = front ++ line :: back ∧
          n = (e.sessionAfter s front).signals.count ∧
          (e.dispatch (e.sessionAfter s front) line).outcome = .canceled := by
  induction lines generalizing s with
  | nil =>
    refine ⟨Or.inl, fun h => h.resolve_right ?_⟩
    rintro ⟨front, line, back, h, -⟩
    exact List.append_ne_nil_of_right_ne_nil front (List.cons_ne_nil line back) h.symm
  | cons first rest ih =>
    refine ih.trans ?_
    rw [isCanceled_dispatch_iff, or_assoc]
    refine or_congr_right ⟨?_, ?_⟩
    · rintro (⟨hn, hcanceled⟩ | ⟨front, line, back, rfl, hn, hcanceled⟩)
      · exact ⟨[], first, rest, rfl, hn, hcanceled⟩
      · exact ⟨first :: front, line, back, rfl, hn, hcanceled⟩
    · rintro ⟨front, line, back, hlines, hn, hcanceled⟩
      cases front with
      | nil =>
        cases hlines
        exact Or.inl ⟨hn, hcanceled⟩
      | cons x front =>
        cases hlines
        exact Or.inr ⟨front, line, back, rfl, hn, hcanceled⟩

end Engine
end CommandShell
