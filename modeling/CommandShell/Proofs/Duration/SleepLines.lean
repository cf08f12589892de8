import CommandShell.Proofs.Binding.ScanErrors
import CommandShell.Proofs.Dispatch.Effects
import CommandShell.Proofs.Duration.Reading

/-!
# Durations on a line

Of the built-in commands only `sleep` has a parameter of a host's type, so the reader of durations is the only
converter that a line can reach. A line that gives it a text of 2^64 seconds or more breaks the program off, no
other line does, and a text that is no duration is reported like every other token that does not convert.

    e.AsksSleep s line token    the line runs `sleep`, and `token` stands for its duration
-/

namespace CommandShell

/-! ## Converters that break off -/

theorem Slots.isBound_of_isBound_set {s : Slots} {i j : Nat} {v : Value}
    (h : Slots.isBound (s.set i (some v)) j = false) : s.isBound j = false := by
  unfold isBound at h ⊢
  rw [List.getElem?_set] at h
  split at h
  · next hij =>
    subst hij
    split at h
    · cases h
    · next hlt =>
      rw [List.getElem?_eq_none (Nat.not_lt.1 hlt)]
      rfl
  · exact h

section
variable {cs : Converters} {c : Command} {s : Slots} {tokens : List String} {message : String}

/-- No parameter of a host's type waits for its token. -/
def Slots.HostTypesBound (c : Command) (s : Slots) : Prop :=
  ∀ p i, (p, i) ∈ c.places → s.isBound i = false → ∀ tag, p.type ≠ .custom tag

theorem Slots.HostTypesBound.set (h : s.HostTypesBound c) (i : Nat) (v : Value) :
    Slots.HostTypesBound c (s.set i (some v)) :=
  fun p j hp hfree => h p j hp (isBound_of_isBound_set hfree)

theorem Slots.HostTypesBound.convert_ne_crash (h : s.HostTypesBound c) {p : Parameter} {i : Nat}
    (hp : (p, i) ∈ c.places) (hfree : s.isBound i = false) {token : String} :
    cs.convert p token ≠ .error (.crash message) := by
  intro hconvert
  rcases Converters.convert_eq_error hconvert with ⟨_, _, hf⟩ | ⟨tag, _, _, htype, -⟩
  · cases hf
  · exact h p i hp hfree tag htype

theorem Slots.of_firstOpen? {p : Parameter} {i : Nat} (h : s.firstOpen? c = some (p, i)) :
    (p, i) ∈ c.places ∧ s.isBound i = false := by
  refine ⟨List.mem_of_find?_eq_some h, ?_⟩
  have := List.find?_some h
  simp only [Bool.and_eq_true, Bool.not_eq_true'] at this
  exact this.2

/-- A converter breaks a scan off only for a parameter that no token has bound. -/
theorem Slots.HostTypesBound.bindFrom_ne_crash (h : s.HostTypesBound c) :
    bindFrom cs c s tokens ≠ .error (.crash message) := by
  intro hcrash
  fun_induction bindFrom cs c s tokens with
  -- another failure, or none
  | case1 | case2 | case3 | case4 | case5 | case9 => cases hcrash
  -- a value is refused
  | case7 s flag hflag p i ht hfree value rest hvalue f hf =>
    cases hcrash
    exact h.convert_ne_crash (Command.mem_places_of_flagTarget? ht) (by simpa using hfree) hf
  | case10 s token rest hflag p i ht f hf =>
    cases hcrash
    obtain ⟨hp, hfree⟩ := Slots.of_firstOpen? ht
    exact h.convert_ne_crash hp hfree hf
  -- the tokens behind it are refused
  | case6 _ _ _ _ _ _ _ _ _ _ ih | case8 _ _ _ _ _ _ _ _ _ _ _ _ ih | case11 _ _ _ _ _ _ _ _ _ ih =>
    exact ih (h.set _ _) hcrash

end

/-! ## The command -/

namespace Builtin

/-- The parameter of `sleep` that a token stands for. -/
def duration : Parameter :=
  { name := "duration", type := .custom durationTag }

/-- The token that stands for the duration of `sleep`: the first one, or the one behind a flag in front that
names the duration. -/
inductive GivesDuration : List String → String → Prop
  | positional {token : String} {rest : List String} (h : isFlag token = false) :
    GivesDuration (token :: rest) token
  | named {flag token : String} {rest : List String} (h : isFlag flag = true)
    (names : Text.sameName "duration" (flagName flag) = true) : GivesDuration (flag :: token :: rest) token

/-- A duration is converted as it is read. -/
theorem convert_duration (token : String) :
    converters.convert duration token =
      match Duration.read (unquote token) with
      | .duration d => .ok (.custom ⟨0, .duration d⟩)
      | .invalid causes => .error (duration.refuse (unquote token) [] (some causes.text))
      | .tooLong => .error (.crash Duration.tooLongMessage) := by
  have hfind : converters.find? durationTag = some readDuration := by
    simp [converters, Converters.register, Converters.find?]
  unfold Converters.convert duration
  dsimp only
  rw [hfind]
  unfold readDuration
  dsimp only
  cases Duration.read (unquote token) <;> rfl

theorem places_sleep :
    sleep.places = [(duration, 0), (⟨"signal", .injected .signal "signal", none, none⟩, 1)] := rfl

theorem flagTarget?_sleep (name : String) :
    sleep.flagTarget? name = if Text.sameName "duration" name = true then some (duration, 0) else none := by
  have hname : duration.name = "duration" := rfl
  unfold Command.flagTarget?
  rw [places_sleep, List.find?_cons, List.find?_cons, List.find?_nil]
  dsimp only
  rw [hname]
  cases Text.sameName "duration" name with
  | true => rfl
  | false => cases Text.sameName "signal" name <;> rfl

section
variable {cs : Converters} {r : Registry} {args : List String} {token : String}

/-- The token is converted first, and what stands behind it is read with the duration bound. -/
theorem GivesDuration.bindFrom_eq (cs : Converters) (h : GivesDuration args token) :
    ∃ rest, bindFrom cs sleep (Slots.start sleep) args =
      match cs.convert duration token with
      | .error f => .error f
      | .ok v => bindFrom cs sleep [some v, none] rest := by
  cases h with
  | @positional _ rest h =>
    have hopen : (Slots.start sleep).firstOpen? sleep = some (duration, 0) := rfl
    refine ⟨rest, ?_⟩
    rw [bindFrom, if_neg (by rw [h]; exact Bool.false_ne_true), hopen]
    rfl
  | @named flag _ rest h names =>
    refine ⟨rest, ?_⟩
    rw [bindFrom, if_pos h, flagTarget?_sleep, if_pos names]
    rfl

/-- Without a token for the duration no token is converted. -/
theorem bindFrom_ne_crash_of_not_gives (h : ∀ token, ¬GivesDuration args token) (message : String) :
    bindFrom cs sleep (Slots.start sleep) args ≠ .error (.crash message) := by
  intro hcrash
  cases args with
  | nil => cases hcrash
  | cons token rest =>
    have hflag : isFlag token = true := by
      by_contra hno
      exact h token (.positional (by simpa using hno))
    rw [bindFrom, if_pos hflag, flagTarget?_sleep] at hcrash
    by_cases hnames : Text.sameName "duration" (flagName token) = true
    · cases rest with
      | nil =>
        rw [if_pos hnames] at hcrash
        cases hcrash
      | cons value rest => exact absurd (.named hflag hnames) (h value)
    · rw [if_neg hnames] at hcrash
      cases hcrash

/-- With its duration bound, `sleep` reads no other one. -/
theorem hostTypesBound_sleep (v : Value) : Slots.HostTypesBound sleep [some v, none] := by
  intro p i hp hfree
  rw [places_sleep] at hp
  rcases List.mem_cons.1 hp with hp | hp
  · cases hp
    cases hfree
  · obtain rfl := (Prod.mk.inj (List.mem_singleton.1 hp)).1
    exact fun tag => nofun

/-- The other built-in commands have no parameter of a host's type. -/
theorem eq_sleep_or_hostTypesBound {c : Command} (hc : c ∈ table.commands) :
    c = sleep ∨ (Slots.start c).HostTypesBound c := by
  have hparams : ∀ {c : Command}, (∀ p ∈ c.params, ∀ tag, p.type ≠ .custom tag) →
      (Slots.start c).HostTypesBound c :=
    fun h p i hp _ => h p (List.fst_mem_of_mem_zipIdx hp)
  rw [commands_table] at hc
  simp only [List.mem_cons, List.not_mem_nil, or_false] at hc
  rcases hc with rfl | rfl | rfl | rfl | rfl | rfl | rfl
  case inr.inr.inr.inr.inr.inl => exact Or.inl rfl
  all_goals
    refine Or.inr (hparams ?_)
    simp [connect, echo, exit, help, history, users]

/-- Binding breaks off exactly on a duration that is too long. -/
theorem bind_eq_crash_iff {c : Command} (hc : c ∈ table.commands) {message : String} :
    bind converters r c args = .error (.crash message) ↔
      c = sleep ∧ message = Duration.tooLongMessage ∧
        ∃ token, GivesDuration args token ∧ Duration.read (unquote token) = .tooLong := by
  constructor
  · intro h
    have hscan := (bind_eq_error h).resolve_right nofun
    rcases eq_sleep_or_hostTypesBound hc with rfl | hbound
    · refine ⟨rfl, ?_⟩
      by_cases hgives : ∃ token, GivesDuration args token
      · obtain ⟨token, hgives⟩ := hgives
        obtain ⟨rest, hbind⟩ := hgives.bindFrom_eq converters
        rw [hbind, convert_duration] at hscan
        cases hread : Duration.read (unquote token) with
        | duration d =>
          rw [hread] at hscan
          exact absurd hscan (hostTypesBound_sleep _).bindFrom_ne_crash
        | invalid causes =>
          rw [hread] at hscan
          cases hscan
        | tooLong =>
          rw [hread] at hscan
          cases hscan
          exact ⟨rfl, token, hgives, hread⟩
      · exact absurd hscan (bindFrom_ne_crash_of_not_gives (fun token h => hgives ⟨token, h⟩) message)
    · exact absurd hscan hbound.bindFrom_ne_crash
  · rintro ⟨rfl, rfl, token, hgives, hread⟩
    obtain ⟨rest, hbind⟩ := hgives.bindFrom_eq converters
    rw [convert_duration, hread] at hbind
    exact bind_of_bindFrom_error hbind

/-- A text that is no duration is refused like every token that does not convert. -/
theorem bind_of_invalid (h : GivesDuration args token) {causes : Causes}
    (hread : Duration.read (unquote token) = .invalid causes) :
    bind converters r sleep args =
      .error (duration.refuse (unquote token) [] (some causes.text)) := by
  obtain ⟨rest, hbind⟩ := h.bindFrom_eq converters
  rw [convert_duration, hread] at hbind
  exact bind_of_bindFrom_error hbind

end

end Builtin

/-! ## Lines -/

namespace Engine

/-- The line runs `sleep`, and the token stands for its duration. -/
def AsksSleep (e : Engine) (s : Session) (line token : String) : Prop :=
  ∃ tokens args, tokenize (e.substitution line) = .ok tokens ∧ tokens ≠ [] ∧ ¬e.stackTokens.Controls tokens ∧
    e.table.resolve? (s.stack ++ tokens) = some (Builtin.sleep, args) ∧ Builtin.GivesDuration args token

variable {e : Engine} {s : Session} {line : String}

/-- A line whose tokens do not bind is refused. -/
theorem dispatch_of_bind_error {tokens args : List String} {c : Command} {f : Failure}
    (ht : tokenize (e.substitution line) = .ok tokens) (hne : tokens ≠ []) (hno : ¬e.stackTokens.Controls tokens)
    (hc : e.table.resolve? (s.stack ++ tokens) = some (c, args))
    (hbind : bind e.converters s.services c args = .error f) :
    e.dispatch s line = Session.refuse { s with signals := s.signals.fresh } ⟨f, some c⟩ := by
  have hplan : e.plan s (s.stack ++ tokens) = .error ⟨f, some c⟩ := by
    unfold plan
    rw [hc]
    dsimp only
    rw [hbind]
  rw [dispatch_of_not_controls ht hne hno]
  unfold execute
  rw [hplan]

/-- A line breaks the program off exactly if binding does. -/
theorem crashed_iff {message : String} :
    (e.dispatch s line).outcome = .crashed message ↔
      ∃ tokens c args, tokenize (e.substitution line) = .ok tokens ∧ tokens ≠ [] ∧
        ¬e.stackTokens.Controls tokens ∧ e.table.resolve? (s.stack ++ tokens) = some (c, args) ∧
        bind e.converters s.services c args = .error (.crash message) := by
  constructor
  · intro h
    obtain ⟨r, hplanned, hcrash⟩ : ∃ r, e.planned s line = some (.error r) ∧ r.failure = .crash message := by
      have haccounts := e.accounts_dispatch s line
      generalize e.dispatch s line = step at h haccounts
      cases haccounts with
      | crashed _ hplanned hcrash =>
        cases h
        exact ⟨_, hplanned, hcrash⟩
      | empty | stackChanged | completed | rejected | failed | canceled => cases h
    rcases planned_eq_some hplanned with ⟨f, ht, hr⟩ | ⟨tokens, ht, hne, hno, hplan⟩
    · cases hr
      rw [(tokenize_eq_error ht).1] at hcrash
      cases hcrash
    rcases plan_eq_error hplan with ⟨c, args, f, hc, hbind, rfl⟩ | ⟨name, -, -, -, rfl⟩
    · obtain rfl : f = .crash message := hcrash
      exact ⟨tokens, c, args, ht, hne, hno, hc, hbind⟩
    · cases hcrash
  · rintro ⟨tokens, c, args, ht, hne, hno, hc, hbind⟩
    rw [dispatch_of_bind_error ht hne hno hc hbind]
    rfl

/-- **Only a duration that is too long breaks a line off.** Every text is read as the duration that it stands
for, or refused, or it is of 2^64 seconds or more, which are exactly the numbers that reach the limit. With
the built-in commands and conversions a line breaks the program off exactly if it runs `sleep` with such a
text, and a text that is no duration is reported like every token that does not convert. -/
theorem breaks_off_iff_too_long (ht : e.table = Builtin.table) (hc : e.converters = Builtin.converters) :
    (∀ raw, Duration.Reads raw (Duration.read raw)) ∧
    (∀ raw, Duration.read raw = .tooLong ↔ Duration.ReachesLimit raw) ∧
    ∀ s line,
      (∀ message, (e.dispatch s line).outcome = .crashed message ↔
        message = Duration.tooLongMessage ∧
          ∃ token, e.AsksSleep s line token ∧ Duration.ReachesLimit (unquote token)) ∧
      ∀ token causes, e.AsksSleep s line token → Duration.read (unquote token) = .invalid causes →
        e.dispatch s line = ⟨.rejected,
          (Builtin.duration.refuse (unquote token) [] (some causes.text)).report (some Builtin.sleep),
          { s with signals := s.signals.fresh }⟩ := by
  refine ⟨Duration.reads_read, Duration.read_eq_tooLong_iff, fun s line => ⟨fun message => ?_, ?_⟩⟩
  · rw [crashed_iff]
    constructor
    · rintro ⟨tokens, c, args, htokens, hne, hno, hresolve, hbind⟩
      have hmem := CommandTable.mem_of_resolve? hresolve
      rw [ht] at hmem
      rw [hc] at hbind
      obtain ⟨rfl, hmessage, token, hgives, hread⟩ := (Builtin.bind_eq_crash_iff hmem).1 hbind
      exact ⟨hmessage, token, ⟨tokens, args, htokens, hne, hno, hresolve, hgives⟩,
        (Duration.read_eq_tooLong_iff _).1 hread⟩
    · rintro ⟨rfl, token, ⟨tokens, args, htokens, hne, hno, hresolve, hgives⟩, hlimit⟩
      have hmem := CommandTable.mem_of_resolve? hresolve
      rw [ht] at hmem
      refine ⟨tokens, _, args, htokens, hne, hno, hresolve, ?_⟩
      rw [hc]
      exact (Builtin.bind_eq_crash_iff hmem).2 ⟨rfl, rfl, token, hgives, (Duration.read_eq_tooLong_iff _).2 hlimit⟩
  · rintro token causes ⟨tokens, args, htokens, hne, hno, hresolve, hgives⟩ hread
    have hbind := Builtin.bind_of_invalid (r := s.services) hgives hread
    rw [← hc] at hbind
    exact dispatch_of_bind_error htokens hne hno hresolve hbind

/-- A text below zero behind the flag is reported, with the reason and the syntax. -/
theorem breaks_off_iff_too_long_below_zero :
    let e : Engine := { table := Builtin.table, converters := Builtin.converters }
    let s := e.start .empty
    e.table = Builtin.table ∧ e.converters = Builtin.converters ∧
      e.AsksSleep s "sleep -duration -1ms" "-1ms" ∧
      (e.dispatch s "sleep -duration -1ms").outcome = .rejected ∧
      (e.dispatch s "sleep -duration -1ms").events =
        [.error "cannot convert '-1ms' to duration for parameter: duration",
          .hint "reason: invalid duration: -1ms", .hint "syntax: sleep (duration duration)"] ∧
      ¬Duration.ReachesLimit "-1ms" := by
  have htokens : tokenize "sleep -duration -1ms" = .ok ["sleep", "-duration", "-1ms"] := by
    with_unfolding_all rfl
  rw [Builtin.table_eq]
  intro e s
  obtain ⟨-, hlimit, hlines⟩ := breaks_off_iff_too_long (e := e) Builtin.table_eq.symm rfl
  have htext : unquote "-1ms" = "-1ms" := by decide +kernel
  have hread : Duration.read "-1ms" = .invalid ⟨"invalid duration: -1ms", []⟩ := by decide +kernel
  have hasks : e.AsksSleep s "sleep -duration -1ms" "-1ms" :=
    ⟨_, _, htokens, List.cons_ne_nil _ _, by decide, rfl, .named (by decide) (by decide +kernel)⟩
  have hstep := (hlines s "sleep -duration -1ms").2 "-1ms" ⟨"invalid duration: -1ms", []⟩ hasks
    (by rw [htext]; exact hread)
  rw [htext] at hstep
  refine ⟨rfl, rfl, hasks, ?_, ?_, ?_⟩
  · rw [hstep]
  · rw [hstep]
    with_unfolding_all rfl
  · rw [← hlimit, hread]
    exact nofun

/-- A number of seconds that no duration can hold is not refused. -/
theorem sleep_breaks_off :
    let e : Engine := { table := Builtin.table, converters := Builtin.converters }
    Duration.read "1e30" = .tooLong ∧
      (e.dispatch (e.start .empty) "sleep 1e30").outcome = .crashed Duration.tooLongMessage := by
  rw [Builtin.table_eq]
  decide +kernel

end Engine
end CommandShell
