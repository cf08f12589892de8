import CommandShell.Proofs.Binding.Cursor

/-!
# Scans of a token list

The tokens are cut into groups: a switch, a flag with its value, or a token that stands alone. Each
group targets a parameter, by its name or by its place, and no parameter is targeted twice.

    bindFrom cs c s tokens = .ok s'  ↔  a scan of the tokens fills the slots s to s'

One group at a time: `bindFrom` does with the slots what the group says (`bindFrom_group`), and it
reads nothing but such groups (`exists_group_of_bindFrom`).
-/

namespace CommandShell

/-! ## Groups -/

/-- Tokens that are read as one, with the place of the parameter that they target. -/
inductive Group where
  /-- A flag of a truth value that no value follows. -/
  | switch (flag : String) (place : Nat)
  | named (flag value : String) (place : Nat)
  | positional (token : String) (place : Nat)

namespace Group

def tokens : Group → List String
  | switch flag _ => [flag]
  | named flag value _ => [flag, value]
  | positional token _ => [token]

def place : Group → Nat
  | switch _ i | named _ _ i | positional _ i => i

/-- The value that the group gives its parameter `p`. -/
def value (cs : Converters) (p : Parameter) : Group → Except Failure Value
  | switch .. => .ok (.bool true)
  | named _ token _ | positional token _ => cs.convert p token

def Gives (cs : Converters) (c : Command) (g : Group) (v : Value) : Prop :=
  ∃ p, c.params[g.place]? = some p ∧ g.value cs p = .ok v

/-- The group is formed by the rules, the parameters at `taken` targeted before it and the tokens
`after` right behind it. -/
def Fits (c : Command) (taken : List Nat) (after : List String) : Group → Prop
  | switch flag i =>
    ∃ p, c.FlagNames flag i p ∧ p.type.isBoolean = true ∧ ∀ t ∈ after.head?, isFlag t = true
  | named flag token i =>
    ∃ p, c.FlagNames flag i p ∧ ¬(p.type.isBoolean = true ∧ isFlag token = true)
  | positional token i => isFlag token = false ∧ ∃ p, c.FirstOpen taken i p

theorem tokens_ne_nil (g : Group) : g.tokens ≠ [] := by
  cases g <;> simp [tokens]

/-- A group targets a visible parameter. -/
theorem Fits.visible {c : Command} {taken : List Nat} {after : List String} {g : Group}
    (h : g.Fits c taken after) : ∃ p, c.params[g.place]? = some p ∧ p.isInjected = false := by
  cases g with
  | switch flag i | named flag token i =>
    obtain ⟨p, hp, -⟩ := h
    exact ⟨p, hp.stands, hp.visible⟩
  | positional token i =>
    obtain ⟨-, p, hp⟩ := h
    exact ⟨p, hp.stands, hp.visible⟩

theorem Gives.unique {cs : Converters} {c : Command} {g : Group} {v w : Value}
    (hv : g.Gives cs c v) (hw : g.Gives cs c w) : v = w := by
  obtain ⟨p, hp, hv⟩ := hv
  obtain ⟨q, hq, hw⟩ := hw
  rw [hp] at hq
  cases hq
  rw [hv] at hw
  exact Except.ok.inj hw

theorem Gives.lt_length {cs : Converters} {c : Command} {g : Group} {v : Value}
    (h : g.Gives cs c v) : g.place < c.params.length := by
  obtain ⟨p, hp, -⟩ := h
  exact (List.getElem?_eq_some_iff.1 hp).1

end Group

/-! ## Scans -/

/-- Every group is formed by the rules at its place among the groups. -/
def Arranged (c : Command) (taken : List Nat) (gs : List Group) : Prop :=
  ∀ before g after, gs = before ++ g :: after →
    g.Fits c (taken ++ before.map Group.place) (after.flatMap Group.tokens)

theorem arranged_cons {c : Command} {taken : List Nat} {g : Group} {gs : List Group} :
    Arranged c taken (g :: gs) ↔
      g.Fits c taken (gs.flatMap Group.tokens) ∧ Arranged c (taken ++ [g.place]) gs := by
  constructor
  · intro h
    refine ⟨by simpa using h [] g gs rfl, fun before g' after he => ?_⟩
    have := h (g :: before) g' after (by rw [he, List.cons_append])
    simpa using this
  · rintro ⟨hg, h⟩ before g' after he
    cases before with
    | nil =>
      obtain ⟨rfl, rfl⟩ := List.cons.inj he
      simpa using hg
    | cons d before =>
      obtain ⟨rfl, hgs⟩ := List.cons.inj he
      simpa using h before g' after hgs

/-- The tokens are cut into groups that follow the rules, the parameters at `taken` targeted before
them. -/
structure Scan (cs : Converters) (c : Command) (taken : List Nat) (tokens : List String)
    (gs : List Group) : Prop where
  cut : gs.flatMap Group.tokens = tokens
  arranged : Arranged c taken gs
  fresh : ∀ g ∈ gs, g.place ∉ taken
  once : (gs.map Group.place).Nodup
  converts : ∀ g ∈ gs, ∃ v, g.Gives cs c v

theorem scan_nil_iff {cs : Converters} {c : Command} {taken : List Nat} {tokens : List String} :
    Scan cs c taken tokens [] ↔ tokens = [] := by
  constructor
  · intro h
    exact h.cut.symm
  · rintro rfl
    exact ⟨rfl, by intro before g after he; simp at he, by simp, by simp, by simp⟩

theorem scan_cons_iff {cs : Converters} {c : Command} {taken : List Nat} {tokens : List String}
    {g : Group} {gs : List Group} :
    Scan cs c taken tokens (g :: gs) ↔
      ∃ rest, tokens = g.tokens ++ rest ∧ g.Fits c taken rest ∧ g.place ∉ taken ∧
        (∃ v, g.Gives cs c v) ∧ Scan cs c (taken ++ [g.place]) rest gs := by
  constructor
  · rintro ⟨hcut, harr, hfresh, honce, hconv⟩
    rw [arranged_cons] at harr
    rw [List.map_cons, List.nodup_cons] at honce
    refine ⟨gs.flatMap Group.tokens, by rw [← hcut, List.flatMap_cons], harr.1,
      hfresh g List.mem_cons_self, hconv g List.mem_cons_self, rfl, harr.2, ?_, honce.2, ?_⟩
    · intro g' hg' hmem
      rcases List.mem_append.1 hmem with hmem | hmem
      · exact hfresh g' (List.mem_cons_of_mem _ hg') hmem
      · exact honce.1 (List.mem_map.2 ⟨g', hg', List.mem_singleton.1 hmem⟩)
    · intro g' hg'
      exact hconv g' (List.mem_cons_of_mem _ hg')
  · rintro ⟨rest, rfl, hfits, hfree, hgives, hcut, harr, hfresh, honce, hconv⟩
    have hne : ∀ g' ∈ gs, g'.place ∉ taken ∧ g'.place ≠ g.place := by
      intro g' hg'
      have := hfresh g' hg'
      rw [List.mem_append, List.mem_singleton] at this
      exact ⟨fun h => this (Or.inl h), fun h => this (Or.inr h)⟩
    refine ⟨by rw [List.flatMap_cons, hcut], arranged_cons.2 ⟨hcut ▸ hfits, harr⟩, ?_, ?_, ?_⟩
    · intro g' hg'
      rcases List.mem_cons.1 hg' with rfl | hg'
      · exact hfree
      · exact (hne g' hg').1
    · rw [List.map_cons, List.nodup_cons]
      refine ⟨fun hmem => ?_, honce⟩
      obtain ⟨g', hg', he⟩ := List.mem_map.1 hmem
      exact (hne g' hg').2 he
    · intro g' hg'
      rcases List.mem_cons.1 hg' with rfl | hg'
      · exact hgives
      · exact hconv g' hg'

/-! ## One scan at most -/

/-- The tokens decide which group stands in front. -/
theorem Group.Fits.unique {c : Command} (hd : c.NamesDistinct) {taken : List Nat} {g g' : Group}
    {rest rest' : List String} (hg : g.Fits c taken rest) (hg' : g'.Fits c taken rest')
    (he : g.tokens ++ rest = g'.tokens ++ rest') : g = g' ∧ rest = rest' := by
  have hflag : ∀ {t : String}, isFlag t = true → ¬isFlag t = false := by
    intro t h h'
    rw [h] at h'
    cases h'
  cases g with
  | switch flag i =>
    obtain ⟨p, hp, hbool, hafter⟩ := hg
    cases g' with
    | switch flag' j =>
      obtain ⟨q, hq, -, -⟩ := hg'
      obtain ⟨rfl, rfl⟩ := List.cons.inj he
      obtain ⟨rfl, -⟩ := hp.unique hd hq
      exact ⟨rfl, rfl⟩
    | named flag' token j =>
      obtain ⟨q, hq, hno⟩ := hg'
      obtain ⟨rfl, hrest⟩ := List.cons.inj he
      obtain ⟨rfl, rfl⟩ := hp.unique hd hq
      have hrest : rest = token :: rest' := hrest
      exact absurd ⟨hbool, hafter token (by rw [hrest]; rfl)⟩ hno
    | positional token j =>
      obtain ⟨rfl, -⟩ := List.cons.inj he
      exact absurd hg'.1 (hflag hp.flag_isFlag)
  | named flag token i =>
    obtain ⟨p, hp, hno⟩ := hg
    cases g' with
    | switch flag' j =>
      obtain ⟨q, hq, hbool, hafter⟩ := hg'
      obtain ⟨rfl, hrest⟩ := List.cons.inj he
      obtain ⟨rfl, rfl⟩ := hp.unique hd hq
      have hrest : rest' = token :: rest := hrest.symm
      exact absurd ⟨hbool, hafter token (by rw [hrest]; rfl)⟩ hno
    | named flag' token' j =>
      obtain ⟨q, hq, -⟩ := hg'
      obtain ⟨rfl, hrest⟩ := List.cons.inj he
      obtain ⟨rfl, rfl⟩ := List.cons.inj hrest
      obtain ⟨rfl, -⟩ := hp.unique hd hq
      exact ⟨rfl, rfl⟩
    | positional token' j =>
      obtain ⟨rfl, -⟩ := List.cons.inj he
      exact absurd hg'.1 (hflag hp.flag_isFlag)
  | positional token i =>
    obtain ⟨hpos, p, hp⟩ := hg
    cases g' with
    | switch flag' j | named flag' token' j =>
      obtain ⟨q, hq, -⟩ := hg'
      obtain ⟨rfl, -⟩ := List.cons.inj he
      exact absurd hpos (hflag hq.flag_isFlag)
    | positional token' j =>
      obtain ⟨-, q, hq⟩ := hg'
      obtain ⟨rfl, rfl⟩ := List.cons.inj he
      obtain rfl := hp.unique hq
      exact ⟨rfl, rfl⟩

theorem Scan.unique {cs : Converters} {c : Command} (hd : c.NamesDistinct) {taken : List Nat}
    {tokens : List String} {gs gs' : List Group} (h : Scan cs c taken tokens gs)
    (h' : Scan cs c taken tokens gs') : gs = gs' := by
  induction gs generalizing taken tokens gs' with
  | nil =>
    cases gs' with
    | nil => rfl
    | cons g' gs' =>
      obtain ⟨rest, he, -⟩ := scan_cons_iff.1 h'
      rw [scan_nil_iff.1 h] at he
      exact absurd (List.append_eq_nil_iff.1 he.symm).1 g'.tokens_ne_nil
  | cons g gs ih =>
    obtain ⟨rest, he, hg, -, -, hscan⟩ := scan_cons_iff.1 h
    cases gs' with
    | nil =>
      rw [scan_nil_iff.1 h'] at he
      exact absurd (List.append_eq_nil_iff.1 he.symm).1 g.tokens_ne_nil
    | cons g' gs' =>
      obtain ⟨rest', he', hg', -, -, hscan'⟩ := scan_cons_iff.1 h'
      obtain ⟨rfl, rfl⟩ := hg.unique hd hg' (he.symm.trans he')
      rw [ih hscan hscan']

/-! ## What one group does to the slots -/

section
variable {cs : Converters} {c : Command} {s s' : Slots} {taken : List Nat}

/-- A group that follows the rules is read first, and its value is put at its place. -/
theorem bindFrom_group (hd : c.NamesDistinct) (hs : s.Taken taken) {g : Group} {v : Value}
    {rest : List String} (hg : g.Fits c taken rest) (hfree : g.place ∉ taken)
    (hv : g.Gives cs c v) :
    bindFrom cs c s (g.tokens ++ rest) = bindFrom cs c (s.set g.place (some v)) rest := by
  obtain ⟨q, hq, hv⟩ := hv
  have hb : ∀ i, i ∉ taken → ¬s.isBound i = true := fun i hi h => hi ((hs i).1 h)
  cases g with
  | switch flag i =>
    obtain ⟨p, hp, hbool, hafter⟩ := hg
    cases hv
    have ht := (Command.flagTarget?_eq_some_iff hd hp.flag_isFlag).2 hp
    show bindFrom cs c s (flag :: rest) = bindFrom cs c (s.set i (some (.bool true))) rest
    rw [bindFrom, if_pos hp.flag_isFlag, ht]
    dsimp only
    rw [if_neg (hb i hfree)]
    cases rest with
    | nil => rw [if_pos hbool, bindFrom]
    | cons t rest =>
      dsimp only
      rw [if_pos (by rw [hbool, hafter t rfl]; rfl)]
  | named flag token i =>
    obtain ⟨p, hp, hno⟩ := hg
    have ht := (Command.flagTarget?_eq_some_iff hd hp.flag_isFlag).2 hp
    obtain rfl : p = q := Option.some.inj (hp.stands.symm.trans hq)
    replace hv : cs.convert p token = .ok v := hv
    show bindFrom cs c s (flag :: token :: rest) = bindFrom cs c (s.set i (some v)) rest
    rw [bindFrom, if_pos hp.flag_isFlag, ht]
    dsimp only
    rw [if_neg (hb i hfree), if_neg (by rwa [Bool.and_eq_true]), hv]
  | positional token i =>
    obtain ⟨hflag, p, hp⟩ := hg
    have ht := (Slots.firstOpen?_eq_some_iff hs).2 hp
    obtain rfl : p = q := Option.some.inj (hp.stands.symm.trans hq)
    replace hv : cs.convert p token = .ok v := hv
    show bindFrom cs c s (token :: rest) = bindFrom cs c (s.set i (some v)) rest
    rw [bindFrom, if_neg (by rw [hflag]; exact Bool.false_ne_true), ht]
    dsimp only
    rw [hv]

/-- Tokens that are bound start with a group that follows the rules. -/
theorem exists_group_of_bindFrom (hd : c.NamesDistinct) (hs : s.Taken taken) {token : String}
    {tokens : List String} (h : bindFrom cs c s (token :: tokens) = .ok s') :
    ∃ (g : Group) (v : Value) (rest : List String), token :: tokens = g.tokens ++ rest ∧
      g.Fits c taken rest ∧ g.place ∉ taken ∧ g.Gives cs c v := by
  have hfree : ∀ i, ¬s.isBound i = true → i ∉ taken := fun i hb hi => hb ((hs i).2 hi)
  unfold bindFrom at h
  split at h
  · next hflag =>
    split at h
    · cases h
    · next p i ht =>
      have hp := (Command.flagTarget?_eq_some_iff hd hflag).1 ht
      split at h
      · cases h
      · next hb =>
        split at h
        · split at h
          · next hbool =>
            exact ⟨.switch token i, .bool true, [], rfl, ⟨p, hp, hbool, by simp⟩, hfree i hb,
              p, hp.stands, rfl⟩
          · cases h
        · next value rest =>
          split at h
          · next hsw =>
            rw [Bool.and_eq_true] at hsw
            exact ⟨.switch token i, .bool true, value :: rest, rfl,
              ⟨p, hp, hsw.1, by simpa using hsw.2⟩, hfree i hb, p, hp.stands, rfl⟩
          · next hno =>
            split at h
            · cases h
            · next v hv =>
              exact ⟨.named token value i, v, rest, rfl, ⟨p, hp, by simpa using hno⟩, hfree i hb,
                p, hp.stands, hv⟩
  · next hflag =>
    split at h
    · cases h
    · next p i ht =>
      have hp := (Slots.firstOpen?_eq_some_iff hs).1 ht
      split at h
      · cases h
      · next v hv =>
        exact ⟨.positional token i, v, tokens, rfl, ⟨by simpa using hflag, p, hp⟩, hp.free,
          p, hp.stands, hv⟩

end

/-! ## What a scan does to the slots -/

/-- The slots `s'` are the slots `s` with the value of each group put at its place. -/
structure Slots.Filled (cs : Converters) (c : Command) (s : Slots) (gs : List Group) (s' : Slots) :
    Prop where
  size : s'.length = s.length
  given : ∀ g ∈ gs, ∀ v, g.Gives cs c v → s'[g.place]? = some (some v)
  kept : ∀ i, i ∉ gs.map Group.place → s'[i]? = s[i]?

section
variable {cs : Converters} {c : Command} {s s' : Slots} {taken : List Nat} {gs : List Group}
  {tokens : List String}

theorem filled_nil_iff : s.Filled cs c [] s' ↔ s' = s := by
  constructor
  · intro h
    exact List.ext_getElem? fun i => h.kept i (by simp)
  · rintro rfl
    exact ⟨rfl, by simp, fun _ _ => rfl⟩

theorem filled_cons_iff {g : Group} {v : Value} (hv : g.Gives cs c v) (hlt : g.place < s.length)
    (hg : g.place ∉ gs.map Group.place) :
    s.Filled cs c (g :: gs) s' ↔ Slots.Filled cs c (s.set g.place (some v)) gs s' := by
  constructor
  · intro h
    refine ⟨by rw [h.size, List.length_set], fun g' hg' => h.given g' (List.mem_cons_of_mem _ hg'),
      fun i hi => ?_⟩
    by_cases he : i = g.place
    · rw [he, h.given g List.mem_cons_self v hv, List.getElem?_set_self hlt]
    · rw [h.kept i (by simpa [he] using hi), List.getElem?_set_ne (Ne.symm he)]
  · intro h
    refine ⟨by rw [h.size, List.length_set], fun g' hg' w hw => ?_, fun i hi => ?_⟩
    · rcases List.mem_cons.1 hg' with rfl | hg'
      · rw [h.kept g'.place hg, List.getElem?_set_self hlt, hw.unique hv]
      · exact h.given g' hg' w hw
    · rw [List.map_cons, List.mem_cons, not_or] at hi
      rw [h.kept i hi.2, List.getElem?_set_ne (Ne.symm hi.1)]

theorem Scan.head_notMem {rest : List String} {g : Group}
    (h : Scan cs c (taken ++ [g.place]) rest gs) : g.place ∉ gs.map Group.place := by
  intro hmem
  obtain ⟨g', hg', he⟩ := List.mem_map.1 hmem
  exact h.fresh g' hg' (by rw [he]; simp)

theorem exists_scan_of_bindFrom (hd : c.NamesDistinct) (hs : s.Taken taken)
    (hl : s.length = c.params.length) (h : bindFrom cs c s tokens = .ok s') :
    ∃ gs, Scan cs c taken tokens gs ∧ s.Filled cs c gs s' := by
  -- a group takes one or two tokens, so the induction is on the number of tokens
  induction hn : tokens.length using Nat.strongRecOn generalizing s taken tokens with
  | ind n ih =>
    cases tokens with
    | nil =>
      rw [bindFrom] at h
      cases h
      exact ⟨[], scan_nil_iff.2 rfl, filled_nil_iff.2 rfl⟩
    | cons token tokens =>
      obtain ⟨g, v, rest, he, hg, hfree, hv⟩ := exists_group_of_bindFrom hd hs h
      have hlt : g.place < s.length := by rw [hl]; exact hv.lt_length
      have hshort : rest.length < n := by
        have := List.length_pos_iff.2 g.tokens_ne_nil
        rw [← hn, he, List.length_append]
        omega
      rw [he, bindFrom_group hd hs hg hfree hv] at h
      obtain ⟨gs, hscan, hfill⟩ :=
        ih rest.length hshort (hs.set hlt v) (by rw [List.length_set, hl]) h rfl
      exact ⟨g :: gs, scan_cons_iff.2 ⟨rest, he, hg, hfree, ⟨v, hv⟩, hscan⟩,
        (filled_cons_iff hv hlt hscan.head_notMem).2 hfill⟩

theorem bindFrom_of_scan (hd : c.NamesDistinct) (hs : s.Taken taken)
    (hl : s.length = c.params.length) (hscan : Scan cs c taken tokens gs)
    (hfill : s.Filled cs c gs s') : bindFrom cs c s tokens = .ok s' := by
  induction gs generalizing s taken tokens with
  | nil =>
    rw [scan_nil_iff.1 hscan, bindFrom, filled_nil_iff.1 hfill]
  | cons g gs ih =>
    obtain ⟨rest, rfl, hg, hfree, ⟨v, hv⟩, hscan⟩ := scan_cons_iff.1 hscan
    have hlt : g.place < s.length := by rw [hl]; exact hv.lt_length
    rw [bindFrom_group hd hs hg hfree hv]
    exact ih (hs.set hlt v) (by rw [List.length_set, hl]) hscan
      ((filled_cons_iff hv hlt hscan.head_notMem).1 hfill)

/-- Every scan fills the slots in one way. -/
theorem Scan.exists_filled (hl : s.length = c.params.length) (h : Scan cs c taken tokens gs) :
    ∃ s', s.Filled cs c gs s' := by
  induction gs generalizing s taken tokens with
  | nil => exact ⟨s, filled_nil_iff.2 rfl⟩
  | cons g gs ih =>
    obtain ⟨rest, rfl, -, -, ⟨v, hv⟩, hscan⟩ := scan_cons_iff.1 h
    have hlt : g.place < s.length := by rw [hl]; exact hv.lt_length
    obtain ⟨s', hs'⟩ := ih (s := s.set g.place (some v)) (by rw [List.length_set, hl]) hscan
    exact ⟨s', (filled_cons_iff hv hlt hscan.head_notMem).2 hs'⟩

theorem Slots.Filled.taken_append (hs : s.Taken taken) (h : s.Filled cs c gs s')
    (hg : ∀ g ∈ gs, ∃ v, g.Gives cs c v) : s'.Taken (taken ++ gs.map Group.place) := by
  intro i
  rw [List.mem_append, ← hs i]
  by_cases hi : i ∈ gs.map Group.place
  · obtain ⟨g, hg', rfl⟩ := List.mem_map.1 hi
    obtain ⟨v, hv⟩ := hg g hg'
    unfold Slots.isBound
    rw [h.given g hg' v hv]
    simp [hi]
  · unfold Slots.isBound
    rw [h.kept i hi]
    simp [hi]

end

end CommandShell
