import CommandShell.Proofs.Binding.FlagsBehind
import CommandShell.Proofs.Binding.NamedForm
import CommandShell.Proofs.Binding.ScanErrors

/-!
# Missing parameters

Tokens that are read to their end may still leave required parameters without a value. The failure names
exactly these, in the order of the command, and they can be supplied behind the tokens: by name, in any
order, some of them now and the others later.

    bind cs r c tokens = .error (.missingParameters names)
      →  all of the names, supplied behind the tokens, bind; some of them leave exactly the others missing
-/

namespace CommandShell

/-! ## Names that are missing -/

/-- The names of the required parameters at places that are not among `taken`. -/
def Command.missingAt (c : Command) (taken : List Nat) : List String :=
  (c.places.filter fun t => t.1.isRequired && !taken.contains t.2).map (·.1.name)

theorem Command.NamesDistinct.nodup_names {c : Command} (hd : c.NamesDistinct) :
    (c.params.map (·.name)).Nodup := by
  unfold List.Nodup
  rw [List.pairwise_map]
  apply List.Pairwise.imp _ hd
  intro p q hpq hname
  rw [hname, Text.sameName_refl] at hpq
  cases hpq

section
variable {c : Command} {taken : List Nat}

theorem Command.mem_missingAt {name : String} :
    name ∈ c.missingAt taken ↔
      ∃ i p, c.params[i]? = some p ∧ p.isRequired = true ∧ i ∉ taken ∧ p.name = name := by
  unfold missingAt places
  simp only [List.mem_map, List.mem_filter, Prod.exists, List.mem_zipIdx_iff_getElem?, Bool.and_eq_true,
    Bool.not_eq_true', List.contains_eq_mem, decide_eq_false_iff_not]
  constructor
  · rintro ⟨p, i, ⟨hp, hreq, hi⟩, hname⟩
    exact ⟨i, p, hp, hreq, hi, hname⟩
  · rintro ⟨i, p, hp, hreq, hi, hname⟩
    exact ⟨p, i, ⟨hp, hreq, hi⟩, hname⟩

/-- The missing names are names of visible parameters without a default, in the order of the command. -/
theorem Command.missingAt_sublist :
    (c.missingAt taken).Sublist ((c.visibleParams.filter (·.default.isNone)).map (·.name)) := by
  have hrequired : c.visibleParams.filter (·.default.isNone) =
      (c.places.filter (·.1.isRequired)).map Prod.fst := by
    have hfst : c.places.map Prod.fst = c.params := List.zipIdx_map_fst 0 c.params
    unfold visibleParams
    rw [← hfst, List.filter_filter, List.filter_map]
    rfl
  rw [hrequired, List.map_map]
  apply List.Sublist.map
  apply List.monotone_filter_right
  intro t ht
  exact (Bool.and_eq_true_iff.1 ht).1

theorem Command.nodup_missingAt (hd : c.NamesDistinct) : (c.missingAt taken).Nodup := by
  have hvisible : (c.visibleParams.filter (·.default.isNone)).Sublist c.params :=
    List.filter_sublist.trans List.filter_sublist
  exact (hd.nodup_names.sublist (hvisible.map _)).sublist missingAt_sublist

/-- A parameter that is targeted is no longer missing. -/
theorem Command.missingAt_concat (hd : c.NamesDistinct) {i : Nat} {p : Parameter}
    (hp : c.params[i]? = some p) :
    c.missingAt (taken ++ [i]) = (c.missingAt taken).filter fun name => name != p.name := by
  unfold missingAt
  rw [List.filter_map, List.filter_filter]
  congr 1
  apply List.filter_congr
  rintro ⟨q, j⟩ hq
  have hq : c.params[j]? = some q := List.mem_zipIdx_iff_getElem?.1 hq
  have hname : q.name = p.name ↔ j = i := by
    constructor
    · intro hname
      exact hd.place_unique hq hp (by rw [hname, Text.sameName_refl])
    · rintro rfl
      rw [hp] at hq
      cases hq
      rfl
  by_cases hj : j = i
  · simp [hj, hname.2 hj]
  · have hne : q.name ≠ p.name := fun h => hj (hname.1 h)
    simp [hj, hne]

theorem map_filter_zip_eq {α β γ : Type} {f : α × β → Bool} {g : α × Nat → Bool} (k : α → γ) {xs : List α}
    {ys : List β} {n : Nat} (hl : ys.length = xs.length)
    (h : ∀ i x y, xs[i]? = some x → ys[i]? = some y → f (x, y) = g (x, n + i)) :
    ((xs.zip ys).filter f).map (fun t => k t.1) = ((xs.zipIdx n).filter g).map (fun t => k t.1) := by
  induction xs generalizing ys n with
  | nil => simp
  | cons x xs ih =>
    cases ys with
    | nil => simp at hl
    | cons y ys =>
      have hhead : f (x, y) = g (x, n) := h 0 x y rfl rfl
      have hl' : ys.length = xs.length := by simpa using hl
      have hshift : ∀ i a b, xs[i]? = some a → ys[i]? = some b → f (a, b) = g (a, n + 1 + i) := by
        intro i a b ha hb
        have := h (i + 1) a b ha hb
        rwa [show n + 1 + i = n + (i + 1) by omega]
      have htail := ih hl' hshift
      rw [List.zip_cons_cons, List.zipIdx_cons, List.filter_cons, List.filter_cons, hhead]
      split
      · rw [List.map_cons, List.map_cons, htail]
      · exact htail

theorem Slots.missing_eq {s : Slots} (hs : s.Taken taken) (hl : s.length = c.params.length) :
    s.missing c = c.missingAt taken := by
  refine map_filter_zip_eq (·.name) hl ?_
  intro i p w hp hw
  have hbound := hs i
  unfold isBound at hbound
  rw [hw] at hbound
  rw [Nat.zero_add]
  cases w with
  | none =>
    have hi : i ∉ taken := fun hmem => by cases hbound.2 hmem
    simp [hi]
  | some v =>
    have hi : i ∈ taken := hbound.1 rfl
    simp [hi]

end

/-! ## Binding what a scan leaves missing -/

theorem bindFrom_ne_missingParameters {cs : Converters} {c : Command} {s : Slots} {tokens names : List String} :
    bindFrom cs c s tokens ≠ .error (.missingParameters names) := by
  intro h
  fun_induction bindFrom cs c s tokens with
  -- another failure, or none
  | case1 | case2 | case3 | case4 | case5 | case9 => cases h
  -- what a conversion says
  | case7 _ _ _ _ _ _ _ _ _ _ _ he | case10 _ _ _ _ _ _ _ _ he =>
    cases h
    cases Converters.isMissing_of_convert he
  -- a token behind
  | case6 _ _ _ _ _ _ _ _ _ _ ih | case8 _ _ _ _ _ _ _ _ _ _ _ _ ih | case11 _ _ _ _ _ _ _ _ _ ih =>
    exact ih h

section
variable {cs : Converters} {r : Registry} {c : Command} {tokens : List String} {gs : List Group}

theorem Scan.bind_eq (hd : c.NamesDistinct) (h : Scan cs c [] tokens gs) :
    (c.missingAt (gs.map Group.place) = [] → ∃ a, bind cs r c tokens = .ok a) ∧
      (c.missingAt (gs.map Group.place) ≠ [] →
        bind cs r c tokens = .error (.missingParameters (c.missingAt (gs.map Group.place)))) := by
  have hl := Slots.length_start c
  obtain ⟨s, hfill⟩ := h.exists_filled hl
  have htaken : s.Taken (gs.map Group.place) :=
    hfill.taken_append (Slots.taken_start c) h.converts
  rw [← Slots.missing_eq htaken (hfill.size.trans hl)]
  rw [bind_eq_bindFrom]
  rw [bindFrom_of_scan hd (Slots.taken_start c) hl h hfill]
  dsimp only
  constructor
  · intro hnone
    rw [hnone]
    exact ⟨_, rfl⟩
  · intro hsome
    rw [if_neg (by rwa [List.isEmpty_iff])]

/-- Tokens that leave parameters missing are read to their end. -/
theorem exists_scan_of_bind_missing (hd : c.NamesDistinct) {names : List String}
    (h : bind cs r c tokens = .error (.missingParameters names)) :
    ∃ gs, Scan cs c [] tokens gs ∧ names = c.missingAt (gs.map Group.place) := by
  have hl := Slots.length_start c
  cases hs : bindFrom cs c (Slots.start c) tokens with
  | error f =>
    rw [bind_of_bindFrom_error hs] at h
    cases h
    exact absurd hs bindFrom_ne_missingParameters
  | ok s =>
    obtain ⟨gs, hscan, -⟩ := exists_scan_of_bindFrom hd (Slots.taken_start c) hl hs
    refine ⟨gs, hscan, ?_⟩
    obtain ⟨hnone, hsome⟩ := hscan.bind_eq (r := r) hd
    by_cases hm : c.missingAt (gs.map Group.place) = []
    · obtain ⟨a, ha⟩ := hnone hm
      rw [ha] at h
      cases h
    · rw [hsome hm] at h
      cases h
      rfl

/-! ## Supplying what is missing -/

/-- A token for some of the names, each name once and each token one that converts for its parameter. -/
structure Supplies (cs : Converters) (c : Command) (names : List String)
    (given : List (String × String)) : Prop where
  once : (given.map Prod.fst).Nodup
  named : given.map Prod.fst ⊆ names
  converts : ∀ e ∈ given, ∀ p ∈ c.params, p.name = e.1 → ∃ v, cs.convert p e.2 = .ok v

/-- Each name as a flag, with its token behind it. -/
def suppliedTokens (given : List (String × String)) : List String :=
  given.flatMap fun e => ["-" ++ e.1, e.2]

theorem Scan.append_supplied (hd : c.NamesDistinct) (hn : c.NamesUndashed) (h : Scan cs c [] tokens gs)
    {given : List (String × String)} (hg : Supplies cs c (c.missingAt (gs.map Group.place)) given) :
    ∃ gs', Scan cs c [] (tokens ++ suppliedTokens given) gs' ∧
      c.missingAt (gs'.map Group.place) =
        (c.missingAt (gs.map Group.place)).filter fun name => !(given.map Prod.fst).contains name := by
  induction given generalizing tokens gs with
  | nil => exact ⟨gs, by simpa [suppliedTokens] using h, by simp⟩
  | cons e given ih =>
    obtain ⟨name, token⟩ := e
    obtain ⟨honce, hnamed, hconverts⟩ := hg
    rw [List.map_cons, List.nodup_cons] at honce
    rw [List.map_cons, List.cons_subset] at hnamed
    obtain ⟨i, p, hp, hreq, hfree, rfl⟩ := Command.mem_missingAt.1 hnamed.1
    have hvisible : p.isInjected = false := by
      have := (Bool.and_eq_true_iff.1 hreq).2
      simpa using this
    obtain ⟨v, hv⟩ := hconverts _ List.mem_cons_self p (List.mem_of_getElem? hp) rfl
    have hflag : c.FlagNames ("-" ++ p.name) i p := by
      have := hn.flagNames hp hvisible
      rwa [Command.nameAt, hp] at this
    have hscan := h.concat_named hflag hv List.not_mem_nil hfree
    have hmissing : c.missingAt ((gs ++ [Group.named ("-" ++ p.name) token i]).map Group.place) =
        (c.missingAt (gs.map Group.place)).filter fun name => name != p.name := by
      rw [List.map_append]
      exact Command.missingAt_concat hd hp
    -- the other names are still missing, for the first one is none of them
    have hrest : Supplies cs c (c.missingAt ((gs ++ [Group.named ("-" ++ p.name) token i]).map Group.place)) given := by
      refine ⟨honce.2, ?_, fun e he => hconverts e (List.mem_cons_of_mem _ he)⟩
      rw [hmissing]
      intro name hname
      have hne : name ≠ p.name := by
        rintro rfl
        exact honce.1 hname
      exact List.mem_filter.2 ⟨hnamed.2 hname, by simpa using hne⟩
    obtain ⟨gs', hscan', hmissing'⟩ := ih hscan hrest
    refine ⟨gs', ?_, ?_⟩
    · have htokens : suppliedTokens ((p.name, token) :: given) =
          ["-" ++ p.name, token] ++ suppliedTokens given := rfl
      rwa [htokens, ← List.append_assoc]
    · rw [hmissing', hmissing, List.filter_filter]
      apply List.filter_congr
      intro name _
      rw [List.map_cons, List.contains_cons, Bool.not_or, Bool.and_comm]
      rfl

end

/-- **The missing names are exactly what has to be supplied.** They are names of visible parameters without
a default, each once and in the order of the command. Supplied behind the tokens, in any order and with any
tokens that convert, all of them make the tokens bind, and some of them leave exactly the others missing. -/
theorem missing_parameters_supplied {ds : List Command} {t : CommandTable}
    (ht : CommandTable.build ds = .ok t) {c : Command} (hc : c ∈ t.commands) (hn : c.NamesUndashed)
    {cs : Converters} {r : Registry} {tokens names : List String}
    (h : bind cs r c tokens = .error (.missingParameters names)) :
    names.Sublist ((c.visibleParams.filter (·.default.isNone)).map (·.name)) ∧ names.Nodup ∧
      ∀ given, Supplies cs c names given →
        (names ⊆ given.map Prod.fst → ∃ a, bind cs r c (tokens ++ suppliedTokens given) = .ok a) ∧
        (¬names ⊆ given.map Prod.fst →
          bind cs r c (tokens ++ suppliedTokens given) =
            .error (.missingParameters (names.filter fun name => !(given.map Prod.fst).contains name))) := by
  have hd := CommandTable.namesDistinct_of_build ht hc
  obtain ⟨gs, hscan, rfl⟩ := exists_scan_of_bind_missing hd h
  refine ⟨Command.missingAt_sublist, Command.nodup_missingAt hd, ?_⟩
  intro given hg
  obtain ⟨gs', hscan', hrest⟩ := hscan.append_supplied hd hn hg
  obtain ⟨hnone, hsome⟩ := hscan'.bind_eq (r := r) hd
  rw [hrest] at hnone hsome
  have hall : (c.missingAt (gs.map Group.place)).filter
      (fun name => !(given.map Prod.fst).contains name) = [] ↔
        c.missingAt (gs.map Group.place) ⊆ given.map Prod.fst := by
    rw [List.filter_eq_nil_iff]
    simp [List.subset_def]
  exact ⟨fun hsub => hnone (hall.2 hsub), fun hsub => hsome fun hnil => hsub (hall.1 hnil)⟩

/-- A command with two required parameters and a switch. -/
def dial : Command where
  name := "dial"
  params := [
    { name := "host", type := .text },
    { name := "port", type := .integer },
    { name := "secure", type := .boolean, default := some (.bool false) }]
  handler _ := Builtin.done .nothing

/-- A switch at the end leaves host and port missing. They are supplied the other way round; or only the
port is, which leaves the host missing. -/
theorem missing_parameters_supplied_dial :
    CommandTable.build [dial] = .ok ⟨[("dial", dial)], none⟩ ∧ dial.NamesUndashed ∧
      bind Builtin.converters .empty dial ["-secure"] = .error (.missingParameters ["host", "port"]) ∧
      Supplies Builtin.converters dial ["host", "port"] [("port", "443"), ("host", "db")] ∧
      (∃ a, bind Builtin.converters .empty dial ["-secure", "-port", "443", "-host", "db"] = .ok a) ∧
      Supplies Builtin.converters dial ["host", "port"] [("port", "443")] ∧
      bind Builtin.converters .empty dial ["-secure", "-port", "443"] = .error (.missingParameters ["host"]) := by
  have ht : CommandTable.build [dial] = .ok ⟨[("dial", dial)], none⟩ := rfl
  have hn : dial.NamesUndashed := by
    unfold Command.NamesUndashed
    with_unfolding_all decide
  have hmissing : bind Builtin.converters .empty dial ["-secure"] =
      .error (.missingParameters ["host", "port"]) := rfl
  have hhost : ∀ p ∈ dial.params, p.name = "host" → ∃ v, Builtin.converters.convert p "db" = .ok v := by
    have hdb : ∃ v, Builtin.converters.convert { name := "host", type := .text } "db" = .ok v :=
      ⟨.str "db", rfl⟩
    simpa [dial] using hdb
  have hport : ∀ p ∈ dial.params, p.name = "port" → ∃ v, Builtin.converters.convert p "443" = .ok v := by
    have h443 : ∃ v, Builtin.converters.convert { name := "port", type := .integer } "443" = .ok v :=
      ⟨.int 443, rfl⟩
    simpa [dial] using h443
  have hboth : Supplies Builtin.converters dial ["host", "port"] [("port", "443"), ("host", "db")] :=
    ⟨by decide, by decide, by simpa using ⟨hport, hhost⟩⟩
  have hone : Supplies Builtin.converters dial ["host", "port"] [("port", "443")] :=
    ⟨by decide, by decide, by simpa using hport⟩
  obtain ⟨-, -, hall⟩ := missing_parameters_supplied ht List.mem_cons_self hn hmissing
  exact ⟨ht, hn, hmissing, hboth, (hall _ hboth).1 (by decide), hone, (hall _ hone).2 (by decide)⟩

end CommandShell
