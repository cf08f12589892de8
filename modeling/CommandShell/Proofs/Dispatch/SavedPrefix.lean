import CommandShell.Proofs.BuiltTable
import CommandShell.Proofs.Dispatch.Lines

/-!
# The stack as a saved prefix

The control lines alone make the stack, and all that the stack does is to stand in front of the tokens
of a line: the same tokens typed on an empty stack are carried out in the same way.

    the stack after some lines = the control lines among them, applied in order
    dispatch e s line          = dispatch e (s with no stack) line', but for the stack itself,
                                 where the tokens of line' are the stack and the tokens of line
-/

namespace CommandShell

namespace Engine

/-! ## Sessions after some lines -/

/-- The tokens of a line; none of a line that cannot be split. -/
def tokensOf (e : Engine) (line : String) : List String :=
  match tokenize (e.substitution line) with
  | .ok tokens => tokens
  | .error _ => []

/-- What the control lines among some lines make of a stack. -/
def stackAfter (e : Engine) (items : List String) (lines : List String) : List String :=
  ((lines.map e.tokensOf).filter fun tokens => e.stackTokens.Controls tokens).foldl
    e.stackTokens.after items

/-- The session is reached from the start by carrying out some lines, oldest first. Between two lines the
host may change the services on offer. -/
inductive Reached (e : Engine) (services : Registry) : List String → Session → Prop
  | start : e.Reached services [] (e.start services)
  | line {lines : List String} {s : Session} (line : String) :
    e.Reached services lines s → e.Reached services (lines ++ [line]) (e.dispatch s line).session
  | offer {lines : List String} {s : Session} (r : Registry) :
    e.Reached services lines s → e.Reached services lines { s with registry := r }

theorem stackAfter_cons (e : Engine) (items : List String) (line : String) (lines : List String) :
    e.stackAfter items (line :: lines) =
      e.stackAfter (e.stackTokens.after items (e.tokensOf line)) lines := by
  unfold stackAfter
  rw [List.map_cons]
  by_cases h : e.stackTokens.Controls (e.tokensOf line)
  · rw [List.filter_cons_of_pos (by simpa using h)]
    rfl
  · rw [List.filter_cons_of_neg (by simpa using h), StackTokens.after_of_not_controls h]

theorem stackAfter_concat (e : Engine) (items lines : List String) (line : String) :
    e.stackAfter items (lines ++ [line]) =
      e.stackTokens.after (e.stackAfter items lines) (e.tokensOf line) := by
  unfold stackAfter
  rw [List.map_append, List.filter_append, List.foldl_append, List.map_singleton]
  by_cases h : e.stackTokens.Controls (e.tokensOf line)
  · rw [List.filter_cons_of_pos (by simpa using h)]
    rfl
  · rw [List.filter_cons_of_neg (by simpa using h), StackTokens.after_of_not_controls h]
    rfl

end Engine

/-! ## What is carried out and the stack -/

/-- The same step with another stack. -/
def Step.withStack (step : Step) (items : List String) : Step :=
  { step with session := { step.session with stack := items } }

theorem Session.refuse_withStack (s : Session) (r : Refusal) (items : List String) :
    Session.refuse { s with stack := items } r = (s.refuse r).withStack items := by
  unfold Session.refuse
  split <;> rfl

namespace Engine

theorem run_withStack (e : Engine) (s : Session) (signal : Nat) (p : Plan) (items : List String) :
    e.run { s with stack := items } signal p = (e.run s signal p).withStack items := by
  unfold run
  dsimp only
  split
  · cases (e.respond p).exit <;> rfl
  · cases (e.respond p).exit <;> cases (e.respond p).result <;> rfl

theorem plan_withStack (e : Engine) (s : Session) (context items : List String) :
    e.plan { s with stack := items } context = e.plan s context := rfl

/-- What is carried out does not look at the stack, and keeps it. -/
theorem execute_withStack (e : Engine) (s : Session) (context items : List String) :
    e.execute { s with stack := items } context = (e.execute s context).withStack items := by
  unfold execute
  dsimp only
  rw [plan_withStack]
  cases e.plan s context with
  | error r => exact Session.refuse_withStack { s with signals := s.signals.fresh } r items
  | ok p => exact run_withStack e { s with signals := s.signals.fresh } s.signals.count p items

theorem stack_execute (e : Engine) (s : Session) (context : List String) :
    (e.execute s context).session.stack = s.stack :=
  congrArg (fun step : Step => step.session.stack) (e.execute_withStack s context s.stack)

/-- A line changes the stack as its tokens say. -/
theorem stack_dispatch (e : Engine) (s : Session) (line : String) :
    (e.dispatch s line).session.stack = e.stackTokens.after s.stack (e.tokensOf line) := by
  unfold tokensOf
  rcases e.dispatch_cases s line with ⟨f, ht, hd⟩ | ⟨ht, hd⟩ | ⟨tokens, ht, -, hd⟩ |
    ⟨tokens, ht, -, hno, hd⟩
  · rw [hd, ht, StackTokens.after_of_not_controls e.stackTokens.not_controls_nil, Session.session_refuse]
  · rw [hd, ht, StackTokens.after_of_not_controls e.stackTokens.not_controls_nil]
  · rw [hd, ht]
  · rw [hd, ht, stack_execute, StackTokens.after_of_not_controls hno]

/-- The control lines alone make the stack. -/
theorem Reached.stack_eq {e : Engine} {services : Registry} {lines : List String} {s : Session}
    (h : e.Reached services lines s) : s.stack = e.stackAfter [] lines := by
  induction h with
  | start => rfl
  | line line _ ih => rw [stack_dispatch, stackAfter_concat, ih]
  | offer _ _ ih => exact ih

/-- A line on a stack is the line of both on an empty stack. -/
theorem dispatch_eq_withStack {e : Engine} {s : Session} {line line' : String} {tokens : List String}
    (ht : tokenize (e.substitution line) = .ok tokens) (hne : tokens ≠ [])
    (hno : ¬e.stackTokens.Controls tokens)
    (ht' : tokenize (e.substitution line') = .ok (s.stack ++ tokens)) :
    e.dispatch s line = (e.dispatch { s with stack := [] } line').withStack s.stack := by
  have hne' := List.append_ne_nil_of_right_ne_nil s.stack hne
  rw [dispatch_of_not_controls ht hne hno,
    dispatch_of_not_controls ht' hne' (StackTokens.not_controls_append hne hno s.stack),
    List.nil_append]
  exact execute_withStack e { s with stack := [] } (s.stack ++ tokens) s.stack

/-- **The stack is only a saved prefix.** The control lines alone make it, and a line behind it has the
plan, the outcome, the events and the session of the line of all these tokens on an empty stack. -/
theorem stack_is_saved_prefix {e : Engine} {services : Registry} {lines : List String} {s : Session}
    (h : e.Reached services lines s) :
    s.stack = e.stackAfter [] lines ∧
    ∀ line line' tokens, tokenize (e.substitution line) = .ok tokens → tokens ≠ [] →
      ¬e.stackTokens.Controls tokens → tokenize (e.substitution line') = .ok (s.stack ++ tokens) →
      let step := e.dispatch s line
      let bare := e.dispatch { s with stack := [] } line'
      e.planned s line = e.planned { s with stack := [] } line' ∧
        step.outcome = bare.outcome ∧ step.events = bare.events ∧
        step.session = { bare.session with stack := s.stack } := by
  refine ⟨h.stack_eq, fun line line' tokens ht hne hno ht' => ?_⟩
  have hne' := List.append_ne_nil_of_right_ne_nil s.stack hne
  have hno' := StackTokens.not_controls_append hne hno s.stack
  dsimp only
  rw [dispatch_eq_withStack ht hne hno ht', planned_of_not_controls ht hne hno,
    planned_of_not_controls ht' hne' hno', List.nil_append, plan_withStack e s _ []]
  generalize e.dispatch { s with stack := [] } line' = bare
  exact ⟨rfl, rfl, rfl, rfl⟩

/-- A push of two tokens, a line that fails on them, and a pop; then a line that completes. -/
theorem stack_is_saved_prefix_users :
    let e : Engine := { table := Builtin.table, converters := Builtin.converters }
    ∃ s, e.Reached (.ofContents [.users .example]) ["users show \\", "bogus", ".."] s ∧
      s.stack = ["users"] ∧
      (e.dispatch s "list").outcome = .completed ∧
      (e.dispatch { s with stack := [] } "users list").outcome = .completed ∧
      (e.dispatch s "list").events = (e.dispatch { s with stack := [] } "users list").events := by
  have hlist : tokenize "list" = .ok ["list"] := by with_unfolding_all rfl
  have husers : tokenize "users list" = .ok ["users", "list"] := by with_unfolding_all rfl
  rw [Builtin.table_eq]
  intro e
  have h : ∃ s, e.Reached (.ofContents [.users .example]) ["users show \\", "bogus", ".."] s ∧
      (e.dispatch s "list").outcome = .completed :=
    ⟨_, ((Reached.start.line "users show \\").line "bogus").line "..", by decide +kernel⟩
  obtain ⟨s, h, hcompleted⟩ := h
  obtain ⟨hstack, hline⟩ := stack_is_saved_prefix h
  have hitems : e.stackAfter [] ["users show \\", "bogus", ".."] = ["users"] := by decide +kernel
  rw [hitems] at hstack
  have hno : ¬e.stackTokens.Controls ["list"] := by decide
  have ht' : tokenize "users list" = .ok (s.stack ++ ["list"]) := by
    rw [hstack]
    exact husers
  obtain ⟨-, houtcome, hevents, -⟩ := hline "list" "users list" ["list"] hlist (by simp) hno ht'
  exact ⟨s, h, hstack, hcompleted, houtcome.symm.trans hcompleted, hevents⟩

end Engine
end CommandShell
