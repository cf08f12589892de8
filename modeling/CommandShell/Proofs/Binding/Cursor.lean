import CommandShell.Proofs.Binding.Places

/-!
# Binding without a cursor

Binding looks for the next positional parameter behind the one that it found last. The places in front are
injected or bound, and stay so; a search from the first place finds the same parameter. What is proved of
binding is proved of this search, which depends on the slots alone.

    bind = bindFrom, then the check that nothing is missing
-/

namespace CommandShell

/-- Reads the tokens, each positional one for the first parameter that is open. -/
def bindFrom (cs : Converters) (c : Command) : Slots → List String → Except Failure Slots
  | s, [] => .ok s
  | s, token :: rest =>
    if isFlag token then
      match c.flagTarget? (flagName token) with
      | none => .error (.unknownFlag (flagName token) (rankAll (c.visibleParams.map (·.name)) (flagName token)))
      | some (p, i) =>
        if s.isBound i then .error (.repeatedParameter p.name)
        else match rest with
          | [] => if p.type.isBoolean then .ok (s.set i (some (.bool true))) else .error (.missingValue p.name)
          | value :: rest =>
            if p.type.isBoolean && isFlag value then
              bindFrom cs c (s.set i (some (.bool true))) (value :: rest)
            else match cs.convert p value with
              | .error e => .error e
              | .ok v => bindFrom cs c (s.set i (some v)) rest
    else
      match s.firstOpen? c with
      | none => .error (.unexpectedArgument token)
      | some (p, i) =>
        match cs.convert p token with
        | .error e => .error e
        | .ok v => bindFrom cs c (s.set i (some v)) rest

variable {cs : Converters} {c : Command}

/-- **The cursor changes nothing**, as long as all places in front of it are injected or bound. -/
theorem bindAt_eq {cursor : Nat} {s : Slots} {tokens : List String} (h : c.Passed s.isBound cursor)
    (hl : s.length = c.params.length) : bindAt cs c cursor s tokens = bindFrom cs c s tokens := by
  fun_induction bindAt cs c cursor s tokens with
  | case1 => rw [bindFrom]
  | case2 | case3 | case4 | case5 | case7 => simp [bindFrom, *]
  -- a flag leaves the cursor where it is
  | case6 cursor s token hflag p i ht hfree value rest hswitch ih =>
    rw [ih (h.mono fun j => Slots.isBound_set _) (by rwa [List.length_set]),
      bindFrom.eq_def cs c s (token :: value :: rest)]
    dsimp only
    rw [if_pos hflag, ht]
    dsimp only
    rw [if_neg hfree, if_pos hswitch]
  | case8 cursor s token hflag p i ht hfree value rest hno v hv ih =>
    rw [ih (h.mono fun j => Slots.isBound_set _) (by rwa [List.length_set])]
    simp [bindFrom, *]
  | case9 cursor s token rest hflag hopen =>
    rw [h.openFrom?_eq] at hopen
    simp [bindFrom, Slots.firstOpen?, *]
  | case10 cursor s token rest hflag p i hopen e he =>
    rw [h.openFrom?_eq] at hopen
    simp [bindFrom, Slots.firstOpen?, *]
  | case11 cursor s token rest hflag p i hopen v hv ih =>
    have hlt : i < s.length := by
      rw [hl]
      exact Command.lt_length_of_mem_places (List.mem_of_mem_drop (List.mem_of_find?_eq_some hopen))
    have hnext := h.next hopen (fun j => Slots.isBound_set v) (Slots.isBound_set_self v hlt)
    rw [h.openFrom?_eq] at hopen
    rw [ih hnext (by rwa [List.length_set])]
    simp [bindFrom, Slots.firstOpen?, *]

/-- Binding starts with the cursor at the first place. -/
theorem bind_eq_bindFrom (cs : Converters) (r : Registry) (c : Command) (tokens : List String) :
    bind cs r c tokens = match bindFrom cs c (Slots.start c) tokens with
      | .error e => .error e
      | .ok s =>
        if (s.missing c).isEmpty then .ok (s.arguments r c) else .error (.missingParameters (s.missing c)) := by
  have hfrom : bindAt cs c 0 (Slots.start c) tokens = bindFrom cs c (Slots.start c) tokens :=
    bindAt_eq Command.passed_zero (Slots.length_start c)
  unfold bind
  cases h : bindFrom cs c (Slots.start c) tokens with
  | error e => simp only [hfrom, h]
  | ok s => simp only [hfrom, h]

end CommandShell
