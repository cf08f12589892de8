import CommandShell.Proofs.Binding.Reading
import Mathlib.Data.List.Perm.Basic

/-!
# Arguments by name

Every group of a reading can be written with the name of its parameter and an explicit value: a token
that stands alone as `-p token`, a switch as `-p true`. A group of this form is read the same wherever
it stands, so the groups may come in any order.

    bind cs r c tokens = .ok a  →  bind cs r c (the groups by name, in any order) = .ok a
-/

namespace CommandShell

/-! ## Groups by name -/

/-- The name of the parameter at a place. -/
def Command.nameAt (c : Command) (i : Nat) : String :=
  (c.params[i]?.map (·.name)).getD ""

namespace Group

/-- The token that says the value of the group; a switch says `true`. -/
def valueToken : Group → String
  | switch .. => "true"
  | named _ token _ | positional token _ => token

/-- The two tokens that name the group's parameter and say its value. -/
def pair (c : Command) (g : Group) : List String :=
  ["-" ++ c.nameAt g.place, g.valueToken]

/-- The group that these two tokens are. -/
def byName (c : Command) (g : Group) : Group :=
  .named ("-" ++ c.nameAt g.place) g.valueToken g.place

end Group

/-- No visible parameter's name starts with a dash. -/
def Command.NamesUndashed (c : Command) : Prop :=
  ∀ p ∈ c.visibleParams, isFlag p.name = false

/-! ## Lemmas -/

theorem isFlag_dash_append (name : String) : isFlag ("-" ++ name) = true := by
  simp [isFlag, String.toList_append]

theorem flagName_dash_append {name : String} (h : isFlag name = false) :
    flagName ("-" ++ name) = name := by
  have hl : ("-" ++ name).toList = '-' :: name.toList := by rw [String.toList_append]; rfl
  unfold flagName
  rw [hl, List.dropWhile_cons_of_pos (by rfl)]
  unfold isFlag at h
  cases hn : name.toList with
  | nil => rw [List.dropWhile_nil, ← hn, String.ofList_toList]
  | cons x rest =>
    rw [hn] at h
    rw [List.dropWhile_cons_of_neg (by simpa using h), ← hn, String.ofList_toList]

theorem readBool_true : readBool (unquote "true") = some true := by with_unfolding_all decide

section
variable {cs : Converters} {c : Command} {taken : List Nat} {after : List String} {g : Group}

theorem Command.NamesUndashed.flagNames (hn : c.NamesUndashed) {i : Nat} {p : Parameter}
    (hp : c.params[i]? = some p) (hv : p.isInjected = false) :
    c.FlagNames ("-" ++ c.nameAt i) i p := by
  have hname : c.nameAt i = p.name := by rw [nameAt, hp]; rfl
  have hmem : p ∈ c.visibleParams :=
    List.mem_filter.2 ⟨List.mem_of_getElem? hp, by rw [hv]; rfl⟩
  refine ⟨isFlag_dash_append _, hp, hv, ?_⟩
  rw [hname, flagName_dash_append (hn p hmem), Text.sameName_iff]

/-- By its name a group fits anywhere. -/
theorem Group.Fits.byName (hn : c.NamesUndashed) (hg : g.Fits c taken after) (taken' : List Nat)
    (after' : List String) : (g.byName c).Fits c taken' after' := by
  obtain ⟨p, hp, hv⟩ := hg.visible
  refine ⟨p, hn.flagNames hp hv, ?_⟩
  rintro ⟨hbool, hflag⟩
  cases g with
  | switch flag i =>
    have htrue : isFlag "true" = false := by decide
    rw [Group.valueToken, htrue] at hflag
    cases hflag
  | named flag token i =>
    obtain ⟨q, hq, hno⟩ := hg
    rw [Group.place, hq.stands] at hp
    cases hp
    exact hno ⟨hbool, hflag⟩
  | positional token i =>
    rw [Group.valueToken, hg.1] at hflag
    cases hflag

theorem Group.Fits.gives_byName_iff (hg : g.Fits c taken after) {v : Value} :
    (g.byName c).Gives cs c v ↔ g.Gives cs c v := by
  cases g with
  | switch flag i =>
    obtain ⟨p, hp, hbool, -⟩ := hg
    have hvalue : ∀ q, c.params[i]? = some q → cs.convert q "true" = .ok (.bool true) := by
      intro q hq
      rw [hp.stands] at hq
      cases hq
      rw [Converters.convert_of_isBoolean hbool, readBool_true]
    constructor
    · rintro ⟨q, hq, hv⟩
      exact ⟨q, hq, (hvalue q hq).symm.trans hv⟩
    · rintro ⟨q, hq, hv⟩
      exact ⟨q, hq, (hvalue q hq).trans hv⟩
  | named flag token i | positional token i => exact Iff.rfl

theorem flatMap_tokens_byName (gs : List Group) :
    (gs.map (Group.byName c)).flatMap Group.tokens = (gs.map (Group.pair c)).flatten := by
  rw [List.flatMap_map, List.flatMap_def]
  rfl

end

section
variable {cs : Converters} {c : Command} {tokens : List String} {gs gs' : List Group}

theorem Scan.exists_fits {taken : List Nat} (h : Scan cs c taken tokens gs) {g : Group}
    (hg : g ∈ gs) : ∃ taken after, g.Fits c taken after := by
  obtain ⟨before, after, he⟩ := List.append_of_mem hg
  exact ⟨_, _, h.arranged before g after he⟩

theorem places_byName (gs : List Group) :
    (gs.map (Group.byName c)).map Group.place = gs.map Group.place := by
  rw [List.map_map]
  rfl

/-- The groups of a reading, by name and in any order, are a reading. -/
theorem Reading.byName (h : Reading cs c tokens gs) (hn : c.NamesUndashed) (hp : gs'.Perm gs) :
    Reading cs c (gs'.map (Group.pair c)).flatten (gs'.map (Group.byName c)) := by
  have hfits : ∀ g ∈ gs', ∃ taken after, g.Fits c taken after := fun g hg =>
    h.exists_fits (hp.mem_iff.1 hg)
  refine ⟨⟨flatMap_tokens_byName gs', ?_, by simp, ?_, ?_⟩, ?_⟩
  · intro before g after he
    have hmem : g ∈ gs'.map (Group.byName c) := by rw [he]; simp
    obtain ⟨g', hg', rfl⟩ := List.mem_map.1 hmem
    obtain ⟨_, _, hg'⟩ := hfits g' hg'
    exact hg'.byName hn _ _
  · rw [places_byName]
    exact (hp.map Group.place).nodup_iff.2 h.once
  · intro g hg
    obtain ⟨g', hg', rfl⟩ := List.mem_map.1 hg
    obtain ⟨v, hv⟩ := h.converts g' (hp.mem_iff.1 hg')
    obtain ⟨_, _, hfit⟩ := hfits g' hg'
    exact ⟨v, hfit.gives_byName_iff.2 hv⟩
  · intro i p hi hr
    rw [places_byName]
    exact (hp.map Group.place).mem_iff.2 (h.complete i p hi hr)

/-- Both fill the slots in the same way. -/
theorem Reading.filled_byName (h : Reading cs c tokens gs) (hp : gs'.Perm gs) {s s' : Slots}
    (hfill : s.Filled cs c gs s') : s.Filled cs c (gs'.map (Group.byName c)) s' := by
  refine ⟨hfill.size, fun g hg v hv => ?_, fun i hi => ?_⟩
  · obtain ⟨g', hg', rfl⟩ := List.mem_map.1 hg
    have hmem := hp.mem_iff.1 hg'
    obtain ⟨_, _, hfit⟩ := h.exists_fits hmem
    exact hfill.given g' hmem v (hfit.gives_byName_iff.1 hv)
  · rw [places_byName] at hi
    exact hfill.kept i fun hmem => hi ((hp.map Group.place).mem_iff.2 hmem)

end

theorem exists_perm_of_perm_map {α β : Type} {f : α → β} {ps : List β} {xs : List α}
    (h : ps.Perm (xs.map f)) : ∃ ys : List α, ps = ys.map f ∧ ys.Perm xs := by
  have h' : Relation.Comp (fun ps ys => ps = List.map f ys) List.Perm ps xs := by
    rw [List.eq_map_comp_perm]
    exact h
  exact h'

/-! ## Binding by name -/

/-- **Named and positional forms agree.** The tokens have one reading, and its groups, each written by
name, bind the same arguments in any order. -/
theorem bind_byName {ds : List Command} {t : CommandTable} (ht : CommandTable.build ds = .ok t)
    {c : Command} (hc : c ∈ t.commands) (hn : c.NamesUndashed) {cs : Converters} {r : Registry}
    {tokens : List String} {a : Arguments} (h : bind cs r c tokens = .ok a) :
    ∃ gs, Reading cs c tokens gs ∧ (∀ gs', Reading cs c tokens gs' → gs' = gs) ∧
      ∀ ps : List (List String), ps.Perm (gs.map (Group.pair c)) → bind cs r c ps.flatten = .ok a := by
  have hd := CommandTable.namesDistinct_of_build ht hc
  obtain ⟨gs, s', hgs, hfill⟩ := exists_reading_of_bind hd h
  refine ⟨gs, hgs, fun gs' hgs' => hgs'.unique hd hgs.toScan, fun ps hps => ?_⟩
  obtain ⟨gs', rfl, hperm⟩ := exists_perm_of_perm_map hps
  rw [bind_of_reading hd (hgs.byName hn hperm) (hgs.filled_byName hperm hfill), ← h,
    bind_of_reading hd hgs hfill]

/-- A token that stands alone, a switch and a flag with its value, which all may come by name. -/
theorem bind_byName_connect :
    CommandTable.build Builtin.commands = .ok Builtin.table ∧ Builtin.connect ∈ Builtin.table.commands ∧
      Builtin.connect.NamesUndashed ∧
      bind Builtin.converters .empty Builtin.connect ["db", "-secure", "--PORT", "443"] =
        .ok ⟨[("host", .str "db"), ("port", .int 443), ("secure", .bool true)]⟩ ∧
      ∃ gs, Reading Builtin.converters Builtin.connect ["db", "-secure", "--PORT", "443"] gs ∧
        ∀ ps : List (List String), ps.Perm (gs.map (Group.pair Builtin.connect)) →
          bind Builtin.converters .empty Builtin.connect ps.flatten =
            .ok ⟨[("host", .str "db"), ("port", .int 443), ("secure", .bool true)]⟩ := by
  have hn : Builtin.connect.NamesUndashed := by
    unfold Command.NamesUndashed
    with_unfolding_all decide
  have hb : bind Builtin.converters .empty Builtin.connect ["db", "-secure", "--PORT", "443"] =
      .ok ⟨[("host", .str "db"), ("port", .int 443), ("secure", .bool true)]⟩ := rfl
  obtain ⟨gs, hgs, -, hps⟩ := bind_byName Builtin.build_commands Builtin.connect_mem hn hb
  exact ⟨Builtin.build_commands, Builtin.connect_mem, hn, hb, gs, hgs, hps⟩

end CommandShell
