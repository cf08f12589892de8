import CommandShell.Proofs.Binding.Cursor
import CommandShell.Proofs.Dispatch.Lines

/-!
# Outcomes and effects of a line

The outcome of a line tells which events there were: what ran, what it put out and what was reported.

    empty          no event
    stackChanged   the new stack, if changes are announced
    completed      one run, its output
    rejected       one error, then hints; the last one shows a syntax if the tokens did not bind
    failed         one run, its causes from the innermost
    canceled       one run, the error `command canceled`

So a line fails exactly if an error is reported, and it completes exactly if an output is shown.
-/

namespace CommandShell

/-! ## Failures of binding -/

/-- A token is refused by a failure of binding, unless its converter breaks off the program. -/
theorem Converters.isBinding_of_convert {cs : Converters} {p : Parameter} {token : String} {f : Failure}
    (h : cs.convert p token = .error f) : f.isBinding = true ∨ ∃ message, f = .crash message := by
  rcases convert_eq_error h with ⟨_, _, rfl⟩ | ⟨_, _, message, _, _, _, rfl⟩
  · exact Or.inl rfl
  · exact Or.inr ⟨message, rfl⟩

theorem isBinding_of_bindFrom {cs : Converters} {c : Command} {s : Slots} {tokens : List String}
    {f : Failure} (h : bindFrom cs c s tokens = .error f) :
    f.isBinding = true ∨ ∃ message, f = .crash message := by
  fun_induction bindFrom cs c s tokens with
  -- all tokens are read, or the last one switches its parameter on
  | case1 | case4 => cases h
  -- the token itself is refused
  | case2 | case3 | case5 | case9 =>
    cases h
    exact Or.inl rfl
  -- its value is refused
  | case7 | case10 =>
    cases h
    exact Converters.isBinding_of_convert ‹_›
  -- the tokens behind it are refused
  | case6 | case8 | case11 =>
    rename_i ih
    exact ih h

theorem isBinding_of_bind {cs : Converters} {r : Registry} {c : Command} {tokens : List String}
    {f : Failure} (h : bind cs r c tokens = .error f) :
    f.isBinding = true ∨ ∃ message, f = .crash message := by
  rw [bind_eq_bindFrom] at h
  split at h
  · next hfrom =>
    cases h
    exact isBinding_of_bindFrom hfrom
  · split at h
    · cases h
    · cases h
      exact Or.inl rfl

/-! ## Reports of refusals -/

/-- The hints of a refusal end with the syntax of the command whose parameters the tokens did not fit;
those of any other refusal show no syntax. -/
structure Refusal.ShowsSyntax (r : Refusal) (hints : List String) : Prop where
  last_of_isBinding : r.failure.isBinding = true →
    ∃ c, r.command = some c ∧ hints.getLast? = some ("syntax: " ++ c.usage)
  not_mem : r.failure.isBinding = false → ∀ text, "syntax: " ++ text ∉ hints

/-- A refusal is about tokens, not about a run, and it names the command that they did not fit. -/
structure Refusal.OfTokens (r : Refusal) : Prop where
  ne_execution : ∀ causes, r.failure ≠ .execution causes
  isSome_command : r.failure.isBinding = true → r.command.isSome = true

/-- Texts with labels that begin differently differ. -/
theorem append_ne_append_of_head {a b : String} {x y : Char} (ha : a.toList.head? = some x)
    (hb : b.toList.head? = some y) (hne : x ≠ y) (s t : String) : a ++ s ≠ b ++ t := by
  intro h
  have hhead := congrArg (fun u => u.toList.head?) h
  simp only [String.toList_append, List.head?_append, ha, hb, Option.some_or, Option.some.injEq] at hhead
  exact hne hhead

/-- The events are hints, and none of them shows a syntax. -/
def HelpOnly (events : List Event) : Prop :=
  ∃ hints : List String, events = hints.map .hint ∧ ∀ text, "syntax: " ++ text ∉ hints

theorem HelpOnly.nil : HelpOnly [] :=
  ⟨[], rfl, fun _ => List.not_mem_nil⟩

theorem HelpOnly.labeled {label : String} {x : Char} (hlabel : label.toList.head? = some x) (hx : 's' ≠ x)
    (detail : String) : HelpOnly [.hint (label ++ detail)] := by
  refine ⟨[label ++ detail], rfl, fun text h => ?_⟩
  exact append_ne_append_of_head rfl hlabel hx _ _ (List.mem_singleton.1 h)

theorem HelpOnly.append {events events' : List Event} (h : HelpOnly events) (h' : HelpOnly events') :
    HelpOnly (events ++ events') := by
  obtain ⟨hints, rfl, hno⟩ := h
  obtain ⟨hints', rfl, hno'⟩ := h'
  refine ⟨hints ++ hints', List.map_append.symm, fun text hmem => ?_⟩
  exact (List.mem_append.1 hmem).elim (hno text) (hno' text)

theorem helpOnly_didYouMean (suggestions : List String) : HelpOnly (didYouMean suggestions) := by
  unfold didYouMean
  split
  · exact .nil
  · exact .labeled rfl (by decide) _

theorem Failure.helpOnly_hints (f : Failure) : HelpOnly f.hints := by
  cases f with
  | unknownFlag _ suggestions => exact helpOnly_didYouMean _
  | unknownCommand _ suggestions => exact helpOnly_didYouMean suggestions
  | mismatch m =>
    unfold hints
    refine .append ?_ ?_
    · split
      · exact .labeled rfl (by decide) _
      · exact .nil
    · split
      · exact .nil
      · exact .labeled rfl (by decide) _
  | malformed | repeatedParameter | missingValue | unexpectedArgument | missingParameters | execution
  | canceled | crash => exact .nil

theorem Failure.errors_eq {f : Failure} (h : ∀ causes, f ≠ .execution causes) :
    f.errors = [.error f.message] := by
  cases f with
  | execution causes => exact absurd rfl (h causes)
  | malformed | unknownFlag | repeatedParameter | missingValue | mismatch | unexpectedArgument
  | missingParameters | unknownCommand | canceled | crash => rfl

/-- A refusal is reported by its error, then hints. -/
theorem Refusal.OfTokens.report_eq {r : Refusal} (h : r.OfTokens) :
    ∃ hints : List String,
      r.failure.report r.command = .error r.failure.message :: hints.map .hint ∧ r.ShowsSyntax hints := by
  obtain ⟨hints, heq, hno⟩ := r.failure.helpOnly_hints
  unfold Failure.report
  rw [Failure.errors_eq h.ne_execution, heq]
  cases hb : r.failure.isBinding with
  | false =>
    refine ⟨hints, ?_, ⟨fun h => ?_, fun _ => hno⟩⟩
    · cases r.command <;> simp
    · rw [hb] at h
      cases h
  | true =>
    obtain ⟨c, hc⟩ := Option.isSome_iff_exists.1 (h.isSome_command hb)
    refine ⟨hints ++ ["syntax: " ++ c.usage], ?_, ⟨fun _ => ⟨c, hc, ?_⟩, fun h => ?_⟩⟩
    · rw [hc]
      simp
    · exact List.getLast?_concat
    · rw [hb] at h
      cases h

/-! ## Plans -/

namespace Engine

/-- What refuses a line is about its tokens, unless a converter breaks off the program. -/
theorem ofTokens_of_planned {e : Engine} {s : Session} {line : String} {r : Refusal}
    (h : e.planned s line = some (.error r)) : r.OfTokens ∨ ∃ message, r.failure = .crash message := by
  rcases planned_eq_some h with ⟨f, ht, hr⟩ | ⟨tokens, -, -, -, hplan⟩
  · cases hr
    obtain ⟨rfl, -⟩ := tokenize_eq_error ht
    exact Or.inl ⟨nofun, nofun⟩
  · rcases plan_eq_error hplan with ⟨c, args, f, -, hbind, rfl⟩ | ⟨name, -, -, -, rfl⟩
    · refine (isBinding_of_bind hbind).imp_left fun hb => ⟨fun causes hc => ?_, fun _ => rfl⟩
      change f = .execution causes at hc
      rw [hc] at hb
      cases hb
    · exact Or.inl ⟨nofun, nofun⟩

/-! ## Outcomes -/

/-- The outcome of a line accounts for its events. -/
inductive Accounts (e : Engine) (s : Session) (line : String) : Step → Prop where
  | empty (s' : Session) : Accounts e s line ⟨.empty, [], s'⟩
  | stackChanged (s' : Session) :
    Accounts e s line ⟨.stackChanged, if e.observed then [.stackChanged s'.stack] else [], s'⟩
  | completed (s' : Session) {p : Plan} {o : Output} (planned : e.planned s line = some (.ok p))
    (result : (e.respond p).result = .ok o) : Accounts e s line ⟨.completed, [p.ran, .output o], s'⟩
  | rejected (s' : Session) {r : Refusal} {hints : List String}
    (planned : e.planned s line = some (.error r)) (shown : r.ShowsSyntax hints) :
    Accounts e s line ⟨.rejected, .error r.failure.message :: hints.map .hint, s'⟩
  | failed (s' : Session) {p : Plan} {causes : Causes} (planned : e.planned s line = some (.ok p))
    (result : (e.respond p).result = .error causes) :
    Accounts e s line ⟨.failed, p.ran :: causes.chain.reverse.map .error, s'⟩
  | canceled (s' : Session) {p : Plan} (planned : e.planned s line = some (.ok p)) :
    Accounts e s line ⟨.canceled, [p.ran, .error "command canceled"], s'⟩
  /-- A converter broke off the program. -/
  | crashed (s' : Session) {r : Refusal} {message : String} (planned : e.planned s line = some (.error r))
    (crash : r.failure = .crash message) : Accounts e s line ⟨.crashed message, [], s'⟩

variable {e : Engine} {s : Session} {line : String}

theorem accounts_refuse {r : Refusal} (hr : e.planned s line = some (.error r)) (s' : Session) :
    e.Accounts s line (s'.refuse r) := by
  unfold Session.refuse
  split
  · next message hcrash => exact .crashed s' hr hcrash
  · next hcrash =>
    have htokens : r.OfTokens := (ofTokens_of_planned hr).resolve_right fun ⟨m, hm⟩ => hcrash m hm
    obtain ⟨hints, heq, hsyntax⟩ := htokens.report_eq
    rw [heq]
    exact .rejected s' hr hsyntax

theorem accounts_run {p : Plan} (hp : e.planned s line = some (.ok p)) (s' : Session) (signal : Nat) :
    e.Accounts s line (e.run s' signal p) := by
  unfold run
  dsimp only
  generalize s'.applyExit (e.respond p).exit = s''
  split
  · exact .canceled (s''.cancel signal) hp
  · cases hr : (e.respond p).result with
    | ok o => exact .completed s'' hp hr
    | error causes =>
      have hreport : (Failure.execution causes).report none = causes.chain.reverse.map .error := by
        simp [Failure.report, Failure.errors, Failure.hints]
      unfold Session.finish
      dsimp only
      rw [hreport]
      exact .failed s'' hp hr

theorem accounts_dispatch (e : Engine) (s : Session) (line : String) :
    e.Accounts s line (e.dispatch s line) := by
  rcases e.dispatch_cases s line with ⟨f, ht, hd⟩ | ⟨-, hd⟩ | ⟨tokens, -, -, hd⟩ |
    ⟨tokens, ht, hne, hno, hd⟩
  · rw [hd]
    exact accounts_refuse (planned_of_error ht s) s
  · rw [hd]
    exact .empty s
  · rw [hd]
    exact .stackChanged { s with stack := e.stackTokens.after s.stack tokens }
  · rw [hd]
    have hplanned := planned_of_not_controls ht hne hno s
    unfold execute
    dsimp only
    cases hp : e.plan s (s.stack ++ tokens) with
    | error r =>
      rw [hp] at hplanned
      exact accounts_refuse hplanned _
    | ok p =>
      rw [hp] at hplanned
      exact accounts_run hplanned _ _

end Engine
end CommandShell
