import CommandShell.Proofs.Binding.FlagsBehind
import CommandShell.Proofs.Binding.NamedForm
import CommandShell.Proofs.Completion.Offers
import CommandShell.Proofs.Completion.Walk

/-!
# Offered flags, bound

Completion offers the flag of every visible parameter that no flag in front names. It looks for names
only: a parameter may have got its value by its place, and a flag in front may still wait for its own
value and take the offered one for it. In all other cases the flag binds its parameter.

    flag ∈ flagSuggestions c args hint   →   no flag of args names its parameter
    args, flag, token binds the parameter   ↔   args is read to its end, no token of it by place
-/

namespace CommandShell

/-! ## Scans with a group at their end -/

section
variable {cs : Converters} {c : Command} {taken : List Nat} {args tokens : List String} {gs : List Group}

/-- The groups in front of the last one are a scan of the tokens in front of it. -/
theorem Scan.of_concat {g : Group} (h : Scan cs c taken (args ++ g.tokens) (gs ++ [g])) :
    Scan cs c taken args gs := by
  have hcut := h.cut
  rw [List.flatMap_append, List.flatMap_singleton] at hcut
  have honce := h.once
  rw [List.map_append] at honce
  refine ⟨List.append_cancel_right hcut, fun before g' after he => ?_,
    fun g' hg' => h.fresh g' (List.mem_append_left _ hg'), (List.nodup_append.1 honce).1,
    fun g' hg' => h.converts g' (List.mem_append_left _ hg')⟩
  have hfits := h.arranged before g' (after ++ [g]) (by rw [he]; simp)
  refine hfits.of_prefix ?_
  rw [List.flatMap_append]
  exact List.prefix_append _ _

theorem Scan.last_notMem {g : Group} (h : Scan cs c taken tokens (gs ++ [g])) :
    g.place ∉ gs.map Group.place := by
  intro hmem
  have honce := h.once
  rw [List.map_append, List.nodup_append] at honce
  exact honce.2.2 g.place hmem g.place (by simp) rfl

/-- A parameter that no flag names is targeted by its place. -/
theorem Scan.eq_positional (h : Scan cs c taken args gs) {i : Nat} {p : Parameter}
    (hp : c.params[i]? = some p)
    (hunnamed : ∀ t ∈ args, isFlag t = true → Text.sameName p.name (flagName t) = false) {g : Group}
    (hg : g ∈ gs) (hplace : g.place = i) : ∃ token, g = .positional token i := by
  obtain ⟨_, _, hfits⟩ := h.exists_fits hg
  have hmem : ∀ t ∈ g.tokens, t ∈ args := fun t ht => by
    rw [← h.cut]
    exact List.mem_flatMap.2 ⟨g, hg, ht⟩
  have hnone : ∀ {flag : String} {q : Parameter}, flag ∈ args → ¬c.FlagNames flag i q := by
    intro flag q hflag hq
    have hsame := hq.sameName
    obtain rfl : p = q := Option.some.inj (hp.symm.trans hq.stands)
    rw [hunnamed flag hflag hq.flag_isFlag] at hsame
    cases hsame
  cases g with
  | switch flag j | named flag token j =>
    obtain rfl : j = i := hplace
    obtain ⟨q, hq, -⟩ := hfits
    exact absurd hq (hnone (hmem flag List.mem_cons_self))
  | positional token j =>
    obtain rfl : j = i := hplace
    exact ⟨token, rfl⟩

/-- The parameters that a scan targets are bound once its tokens are read. -/
theorem Scan.isBound_of_mem (hd : c.NamesDistinct) (h : Scan cs c [] args gs) {s : Slots}
    (hs : bindFrom cs c (Slots.start c) args = .ok s) {g : Group} (hg : g ∈ gs) :
    s.isBound g.place = true := by
  have hl := Slots.length_start c
  obtain ⟨s', hfill⟩ := h.exists_filled hl
  rw [bindFrom_of_scan hd (Slots.taken_start c) hl h hfill] at hs
  cases hs
  rw [hfill.taken_append (Slots.taken_start c) h.converts]
  exact List.mem_append_right _ (List.mem_map.2 ⟨g, hg, rfl⟩)

/-- What a scan binds is in the arguments, if nothing required is missing. -/
theorem Scan.bind_given (hd : c.NamesDistinct) (r : Registry) (h : Scan cs c [] tokens gs) {g : Group}
    (hg : g ∈ gs) {v : Value} (hv : g.Gives cs c v) :
    (∃ a, bind cs r c tokens = .ok a ∧ a.values[g.place]? = some v) ∨
      ∃ names, bind cs r c tokens = .error (.missingParameters names) := by
  have hl := Slots.length_start c
  obtain ⟨s, hfill⟩ := h.exists_filled hl
  rw [bind_eq_bindFrom]
  rw [bindFrom_of_scan hd (Slots.taken_start c) hl h hfill]
  dsimp only
  obtain ⟨p, hp, -⟩ := id hv
  split
  · exact Or.inl ⟨_, rfl, Slots.arguments_values hp (hfill.given g hg v hv)⟩
  · exact Or.inr ⟨_, rfl⟩

end

/-! ## Offered flags -/

/-- The flags on offer: those of the visible parameters that no flag in front names. -/
theorem mem_flagSuggestions {c : Command} {args : List String} {hint flag : String} :
    flag ∈ flagSuggestions c args hint ↔
      ∃ p ∈ c.visibleParams, flag = "-" ++ p.name ∧ isClose hint p.name = true ∧
        ∀ t ∈ args, isFlag t = true → Text.sameName p.name (flagName t) = false := by
  have hunused : ∀ name, (!((args.filter isFlag).map fun t => Text.lowercase (flagName t)).contains
      (Text.lowercase name)) = true ↔
        ∀ t ∈ args, isFlag t = true → Text.sameName name (flagName t) = false := by
    intro name
    simp only [Bool.not_eq_true', List.contains_eq_mem, decide_eq_false_iff_not, List.mem_map,
      List.mem_filter, not_exists, not_and, and_imp, Text.sameName, beq_eq_false_iff_ne]
    exact forall_congr' fun t => forall_congr' fun _ => forall_congr' fun _ => ne_comm
  unfold flagSuggestions
  simp only [List.mem_map, mem_rankAll, List.mem_filter, hunused]
  constructor
  · rintro ⟨name, ⟨⟨⟨p, hp, rfl⟩, hnone⟩, hclose⟩, rfl⟩
    exact ⟨p, hp, rfl, hclose, hnone⟩
  · rintro ⟨p, hp, rfl, hclose, hnone⟩
    exact ⟨p.name, ⟨⟨⟨p, hp, rfl⟩, hnone⟩, hclose⟩, rfl⟩

theorem Builtin.connect_namesUndashed : Builtin.connect.NamesUndashed := by
  unfold Command.NamesUndashed
  with_unfolding_all decide

/-- **An offered flag binds its parameter**, whatever token that converts follows it, exactly if the
arguments in front are read without an error, so that no flag among them still waits for its value, and
none of their tokens went to the parameter by its place. -/
theorem flag_offer_usable_iff {ds : List Command} {t : CommandTable} (ht : CommandTable.build ds = .ok t)
    {x : CompletionContext} (hx : x.table = t) {text : String} {cursor : Nat} {tokens : List String}
    {hint : String} (hcur : StandsBehind text cursor tokens hint) {c : Command} {args : List String}
    (hc : x.table.resolve? (x.stack ++ tokens) = some (c, args)) (hn : c.NamesUndashed)
    (hhint : isFlag hint = true) (cs : Converters) (r : Registry) {flag : String}
    (ho : flag ∈ x.suggestions text cursor) :
    ∃ p i, flag = "-" ++ p.name ∧ c.FlagNames flag i p ∧
      ∀ token v, cs.convert p token = .ok v →
        (((∃ gs, Scan cs c [] (args ++ [flag, token]) (gs ++ [.named flag token i])) ∧
            ((∃ a, bind cs r c (args ++ [flag, token]) = .ok a ∧ a.values[i]? = some v) ∨
              ∃ names, bind cs r c (args ++ [flag, token]) = .error (.missingParameters names))) ↔
          (∃ s, bindFrom cs c (Slots.start c) args = .ok s) ∧
            ∀ gs, Scan cs c [] args gs → ∀ token, .positional token i ∉ gs) := by
  have hd : c.NamesDistinct :=
    CommandTable.namesDistinct_of_build ht (hx ▸ CommandTable.mem_of_resolve? hc)
  rw [CompletionContext.suggestions_of_isFlag hcur hc hhint, mem_flagSuggestions] at ho
  obtain ⟨p, hp, rfl, -, hunnamed⟩ := ho
  obtain ⟨hmem, hvis⟩ := List.mem_filter.1 hp
  obtain ⟨i, hi⟩ := List.mem_iff_getElem?.1 hmem
  have hflag : c.FlagNames ("-" ++ p.name) i p :=
    ⟨isFlag_dash_append _, hi, by simpa using hvis, by rw [flagName_dash_append (hn p hp), Text.sameName_iff]⟩
  refine ⟨p, i, rfl, hflag, fun token v hv => ⟨?_, ?_⟩⟩
  · rintro ⟨⟨gs, hscan⟩, -⟩
    have hfront := Scan.of_concat (g := .named ("-" ++ p.name) token i) hscan
    obtain ⟨s, hfill⟩ := hfront.exists_filled (Slots.length_start c)
    refine ⟨⟨s, bindFrom_of_scan hd (Slots.taken_start c) (Slots.length_start c) hfront hfill⟩, ?_⟩
    intro gs' hgs' token' hmem'
    rw [hgs'.unique hd hfront] at hmem'
    exact hscan.last_notMem (List.mem_map.2 ⟨_, hmem', rfl⟩)
  · rintro ⟨⟨s, hs⟩, hno⟩
    obtain ⟨gs, hscan, -⟩ := exists_scan_of_bindFrom hd (Slots.taken_start c) (Slots.length_start c) hs
    have hfree : i ∉ gs.map Group.place := by
      intro hmem'
      obtain ⟨g, hg, hplace⟩ := List.mem_map.1 hmem'
      obtain ⟨token', rfl⟩ := hscan.eq_positional hi hunnamed hg hplace
      exact hno gs hscan token' hg
    have hall := hscan.concat_named hflag hv List.not_mem_nil hfree
    exact ⟨⟨gs, hall⟩, hall.bind_given hd r (g := .named ("-" ++ p.name) token i) (by simp) ⟨p, hi, hv⟩⟩

/-- The port of a host that is given by its place. -/
theorem flag_offer_usable_iff_port :
    let x : CompletionContext := ⟨Builtin.table, .empty, [], []⟩
    CommandTable.build Builtin.commands = .ok Builtin.table ∧
      StandsBehind "connect db -p" 13 ["connect", "db"] "-p" ∧
      x.table.resolve? (x.stack ++ ["connect", "db"]) = some (Builtin.connect, ["db"]) ∧
      Builtin.connect.NamesUndashed ∧ isFlag "-p" = true ∧ "-port" ∈ x.suggestions "connect db -p" 13 ∧
      (∃ gs, Scan Builtin.converters Builtin.connect [] ["db", "-port", "443"]
        (gs ++ [.named "-port" "443" 1])) ∧
      ((∃ a, bind Builtin.converters .empty Builtin.connect ["db", "-port", "443"] = .ok a ∧
          a.values[1]? = some (.int 443)) ∨
        ∃ names, bind Builtin.converters .empty Builtin.connect ["db", "-port", "443"] =
          .error (.missingParameters names)) := by
  intro x
  have hcur : StandsBehind "connect db -p" 13 ["connect", "db"] "-p" := by with_unfolding_all rfl
  have hc : x.table.resolve? (x.stack ++ ["connect", "db"]) = some (Builtin.connect, ["db"]) :=
    Builtin.resolve?_connect ["db"]
  have ho : "-port" ∈ x.suggestions "connect db -p" 13 := by
    rw [CompletionContext.suggestions_of_isFlag hcur hc (by decide)]
    exact List.mem_map.2 ⟨"port", mem_rankAll.2 (by with_unfolding_all decide), rfl⟩
  have hs : bindFrom Builtin.converters Builtin.connect (Slots.start Builtin.connect) ["db"] =
      .ok [some (.str "db"), none, none] := rfl
  have hd := CommandTable.namesDistinct_of_build Builtin.build_commands Builtin.connect_mem
  obtain ⟨p, i, hname, hp, hall⟩ :=
    flag_offer_usable_iff Builtin.build_commands rfl hcur hc Builtin.connect_namesUndashed
      (by decide) Builtin.converters .empty ho
  obtain ⟨rfl, rfl⟩ := hp.unique hd (j := 1) ⟨rfl, rfl, rfl, rfl⟩
  obtain ⟨hscan, hbind⟩ := (hall "443" (.int 443) rfl).2 ⟨⟨_, hs⟩, fun gs hgs token hmem => by
    have := hgs.isBound_of_mem hd hs hmem
    cases this⟩
  exact ⟨Builtin.build_commands, hcur, hc, Builtin.connect_namesUndashed, by decide, ho, hscan, hbind⟩

/-- The host that was given by its place is offered again, and its flag is refused. -/
theorem flag_offer_repeats_host :
    let x : CompletionContext := ⟨Builtin.table, .empty, [], []⟩
    StandsBehind "connect db -" 12 ["connect", "db"] "-" ∧
      x.table.resolve? (x.stack ++ ["connect", "db"]) = some (Builtin.connect, ["db"]) ∧
      Builtin.connect.NamesUndashed ∧ isFlag "-" = true ∧ "-host" ∈ x.suggestions "connect db -" 12 ∧
      (∃ s, bindFrom Builtin.converters Builtin.connect (Slots.start Builtin.connect) ["db"] = .ok s) ∧
      bind Builtin.converters .empty Builtin.connect ["db", "-host", "x"] =
        .error (.repeatedParameter "host") := by
  intro x
  have hcur : StandsBehind "connect db -" 12 ["connect", "db"] "-" := by with_unfolding_all rfl
  have hc : x.table.resolve? (x.stack ++ ["connect", "db"]) = some (Builtin.connect, ["db"]) :=
    Builtin.resolve?_connect ["db"]
  refine ⟨hcur, hc, Builtin.connect_namesUndashed, by decide, ?_, ⟨_, rfl⟩, rfl⟩
  rw [CompletionContext.suggestions_of_isFlag hcur hc (by decide)]
  exact List.mem_map.2 ⟨"host", mem_rankAll.2 (by with_unfolding_all decide), rfl⟩

end CommandShell
