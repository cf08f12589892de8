import CommandShell.Proofs.Binding.Scan

/-!
# Readings of a token list

A reading is a scan that targets every required parameter. Binding succeeds exactly on the token
lists that have one, and what it gives a parameter depends on the group that targets it: the value of
the group; without one, the default; and for a service what the registry offers.

    bind cs r c tokens = .ok a  ↔  a holds what a reading of the tokens gives
-/

namespace CommandShell

/-! ## Readings -/

/-- A scan from the start that targets every required parameter. -/
structure Reading (cs : Converters) (c : Command) (tokens : List String) (gs : List Group) : Prop
    extends Scan cs c [] tokens gs where
  complete : ∀ i p, c.params[i]? = some p → p.isRequired = true → i ∈ gs.map Group.place

/-- What the parameter `p` at the place `i` is bound to by the groups. -/
inductive Settled (cs : Converters) (r : Registry) (gs : List Group) (i : Nat) (p : Parameter) :
    Value → Prop
  | given {g : Group} {v : Value} :
    g ∈ gs → g.place = i → g.value cs p = .ok v → Settled cs r gs i p v
  | default {v : Value} :
    i ∉ gs.map Group.place → p.isInjected = false → p.default = some v → Settled cs r gs i p v
  | service {kind : Kind} {typeName : String} {o : Object} :
    p.type = .injected kind typeName → r.find? kind = some o → Settled cs r gs i p (.injected o)
  | noService {kind : Kind} {typeName : String} :
    p.type = .injected kind typeName → r.find? kind = none → Settled cs r gs i p .absent

/-- The arguments hold one value for each parameter, in order: what the groups bind it to. -/
structure Arguments.Hold (cs : Converters) (r : Registry) (c : Command) (gs : List Group)
    (a : Arguments) : Prop where
  names : a.slots.map (·.1) = c.params.map (·.name)
  values : ∀ i p, c.params[i]? = some p → ∃ v, a.values[i]? = some v ∧ Settled cs r gs i p v

/-! ## From filled slots to arguments -/

theorem Parameter.type_of_isInjected (p : Parameter) (h : p.isInjected = true) :
    ∃ kind typeName, p.type = .injected kind typeName := by
  unfold isInjected ParameterType.isInjected at h
  split at h
  · next kind typeName ht => exact ⟨kind, typeName, ht⟩
  · cases h

theorem Parameter.initial_of_injected {r : Registry} (p : Parameter) {kind : Kind}
    {typeName : String} (h : p.type = .injected kind typeName) :
    p.initial r = ((r.find? kind).map Value.injected).getD .absent := by
  unfold initial
  rw [h]

theorem Parameter.initial_of_visible {r : Registry} (p : Parameter) (h : p.isInjected = false) :
    p.initial r = p.default.getD .absent := by
  unfold initial
  split
  · next ht => simp [isInjected, ht, ParameterType.isInjected] at h
  · rfl

theorem Arguments.slots_eq_zip (a : Arguments) :
    a.slots = List.zip (a.slots.map (·.1)) a.values := by
  have h := List.zip_unzip a.slots
  rw [List.unzip_fst, List.unzip_snd] at h
  exact h.symm

theorem Arguments.eq_of_names_values {a b : Arguments}
    (hn : a.slots.map (·.1) = b.slots.map (·.1)) (hv : a.values = b.values) : a = b := by
  have h : a.slots = b.slots := by rw [a.slots_eq_zip, hn, hv, ← b.slots_eq_zip]
  cases a
  cases b
  exact congrArg Arguments.mk h

theorem Slots.missing_eq_nil_iff {c : Command} {s : Slots} {taken : List Nat} (hs : s.Taken taken)
    (hl : s.length = c.params.length) :
    s.missing c = [] ↔ ∀ i p, c.params[i]? = some p → p.isRequired = true → i ∈ taken := by
  unfold missing
  rw [List.map_eq_nil_iff, List.filter_eq_nil_iff]
  constructor
  · intro h i p hp hr
    obtain ⟨hi, -⟩ := List.getElem?_eq_some_iff.1 hp
    have hlt : i < s.length := by omega
    have hw : s[i]? = some s[i] := List.getElem?_eq_getElem hlt
    have hz : (p, s[i]) ∈ c.params.zip s :=
      List.mem_of_getElem? (List.getElem?_zip_eq_some.2 ⟨hp, hw⟩)
    rw [← hs i]
    unfold isBound
    rw [hw]
    simpa [hr, Option.isSome_iff_ne_none] using h _ hz
  · rintro h ⟨p, w⟩ hz hc
    obtain ⟨i, hi⟩ := List.mem_iff_getElem?.1 hz
    obtain ⟨hp, hw⟩ := List.getElem?_zip_eq_some.1 hi
    simp only [Bool.and_eq_true] at hc
    have hb := (hs i).2 (h i p hp hc.1)
    unfold isBound at hb
    rw [hw] at hb
    cases w with
    | none => cases hb
    | some v => cases hc.2

theorem Slots.arguments_values {r : Registry} {c : Command} {s : Slots} {i : Nat} {p : Parameter}
    {w : Option Value} (hp : c.params[i]? = some p) (hw : s[i]? = some w) :
    (s.arguments r c).values[i]? = some (w.getD (p.initial r)) := by
  have hz : (c.params.zip s)[i]? = some (p, w) := List.getElem?_zip_eq_some.2 ⟨hp, hw⟩
  simp [arguments, Arguments.values, hz]

theorem Slots.arguments_names {r : Registry} {c : Command} {s : Slots}
    (hl : s.length = c.params.length) :
    (s.arguments r c).slots.map (·.1) = c.params.map (·.name) := by
  unfold arguments
  rw [List.map_map]
  have : (Prod.fst ∘ fun x : Parameter × Option Value => (x.1.name, x.2.getD (x.1.initial r))) =
      Parameter.name ∘ Prod.fst := rfl
  rw [this, ← List.map_map, List.map_fst_zip (by omega)]

section
variable {cs : Converters} {r : Registry} {c : Command} {tokens : List String} {gs : List Group}
  {s' : Slots}

theorem Scan.visible {taken : List Nat} (h : Scan cs c taken tokens gs) {g : Group} (hg : g ∈ gs) :
    ∃ p, c.params[g.place]? = some p ∧ p.isInjected = false := by
  obtain ⟨before, after, he⟩ := List.append_of_mem hg
  exact (h.arranged before g after he).visible

theorem Settled.of_targeted (h : Reading cs c tokens gs) {g : Group} (hg : g ∈ gs)
    {p : Parameter} (hp : c.params[g.place]? = some p) {v : Value}
    (hset : Settled cs r gs g.place p v) : ∃ g' ∈ gs, g'.place = g.place ∧ g'.Gives cs c v := by
  obtain ⟨q, hq, hvis⟩ := h.visible hg
  rw [hp] at hq
  cases hq
  cases hset with
  | @given g' _ hg' hplace hv => exact ⟨g', hg', hplace, p, by rw [hplace, hp], hv⟩
  | default hno => exact absurd (List.mem_map.2 ⟨g, hg, rfl⟩) hno
  | service ht | noService ht => simp [Parameter.isInjected, ht, ParameterType.isInjected] at hvis

/-- A parameter that no group targets keeps what it has at the start. -/
theorem Reading.settled_untargeted_iff (h : Reading cs c tokens gs) {i : Nat} {p : Parameter}
    {v : Value} (hp : c.params[i]? = some p) (hi : i ∉ gs.map Group.place) :
    Settled cs r gs i p v ↔ v = p.initial r := by
  cases hvis : p.isInjected with
  | true =>
    obtain ⟨kind, typeName, ht⟩ := p.type_of_isInjected hvis
    rw [p.initial_of_injected ht]
    constructor
    · intro hset
      cases hset with
      | given hg hplace => exact absurd (List.mem_map.2 ⟨_, hg, hplace⟩) hi
      | default _ hvis' => rw [hvis] at hvis'; cases hvis'
      | service ht' hf | noService ht' hf =>
        rw [ht] at ht'
        cases ht'
        rw [hf]
        rfl
    · rintro rfl
      cases hf : r.find? kind with
      | none => exact .noService ht hf
      | some o => exact .service ht hf
  | false =>
    rw [p.initial_of_visible hvis]
    constructor
    · intro hset
      cases hset with
      | given hg hplace => exact absurd (List.mem_map.2 ⟨_, hg, hplace⟩) hi
      | default _ _ hdef => rw [hdef, Option.getD_some]
      | service ht | noService ht => simp [Parameter.isInjected, ht, ParameterType.isInjected] at hvis
    · rintro rfl
      cases hdef : p.default with
      | none =>
        have hreq : p.isRequired = true := by simp [Parameter.isRequired, hdef, hvis]
        exact absurd (h.complete i p hp hreq) hi
      | some v => exact .default hi hvis hdef

/-- The slots say what each parameter is bound to. -/
theorem Reading.settled_iff (h : Reading cs c tokens gs)
    (hfill : (Slots.start c).Filled cs c gs s') {i : Nat} {p : Parameter} {w : Option Value}
    {v : Value} (hp : c.params[i]? = some p) (hw : s'[i]? = some w) :
    Settled cs r gs i p v ↔ v = w.getD (p.initial r) := by
  by_cases hi : i ∈ gs.map Group.place
  · obtain ⟨g, hg, rfl⟩ := List.mem_map.1 hi
    obtain ⟨u, q, hq, hu⟩ := h.converts g hg
    have hwu : w = some u := Option.some.inj (hw.symm.trans (hfill.given g hg u ⟨q, hq, hu⟩))
    rw [hwu, Option.getD_some]
    constructor
    · intro hset
      obtain ⟨g', hg', hplace, hv⟩ := hset.of_targeted h hg hp
      have := hfill.given g' hg' v hv
      rw [hplace, hw, hwu] at this
      cases this
      rfl
    · rintro rfl
      rw [hp] at hq
      cases hq
      exact .given hg rfl hu
  · have hwn : w = none := by
      have := hfill.kept i hi
      rw [hw, Slots.start, List.getElem?_map, hp] at this
      exact Option.some.inj this
    rw [hwn, Option.getD_none]
    exact h.settled_untargeted_iff hp hi

/-- Of the arguments that the filled slots make, and of no others, the reading tells the values. -/
theorem Reading.hold_iff (h : Reading cs c tokens gs) (hfill : (Slots.start c).Filled cs c gs s')
    {a : Arguments} : a.Hold cs r c gs ↔ a = s'.arguments r c := by
  have hl : s'.length = c.params.length := hfill.size.trans (Slots.length_start c)
  have hslot : ∀ (i : Nat) (p : Parameter), c.params[i]? = some p →
      ∃ w : Option Value, s'[i]? = some w := by
    intro i p hp
    obtain ⟨hi, -⟩ := List.getElem?_eq_some_iff.1 hp
    have hlt : i < s'.length := by omega
    exact ⟨s'[i], List.getElem?_eq_getElem hlt⟩
  constructor
  · intro ha
    have hlen : a.slots.length = c.params.length := by
      have := congrArg List.length ha.names
      simpa using this
    have hlen' : (s'.arguments r c).slots.length = c.params.length := by
      have := congrArg List.length (Slots.arguments_names (r := r) hl)
      simpa using this
    have hvalues : a.values = (s'.arguments r c).values := by
      apply List.ext_getElem?
      intro i
      cases hp : c.params[i]? with
      | none =>
        rw [List.getElem?_eq_none_iff] at hp
        rw [List.getElem?_eq_none (by simpa [Arguments.values, hlen] using hp),
          List.getElem?_eq_none (by simpa [Arguments.values, hlen'] using hp)]
      | some p =>
        obtain ⟨w, hw⟩ := hslot i p hp
        obtain ⟨v, hv, hset⟩ := ha.values i p hp
        rw [hv, Slots.arguments_values hp hw, (h.settled_iff hfill hp hw).1 hset]
    exact Arguments.eq_of_names_values (ha.names.trans (Slots.arguments_names hl).symm) hvalues
  · rintro rfl
    refine ⟨Slots.arguments_names hl, fun i p hp => ?_⟩
    obtain ⟨w, hw⟩ := hslot i p hp
    exact ⟨_, Slots.arguments_values hp hw, (h.settled_iff hfill hp hw).2 rfl⟩

/-! ## Binding -/

theorem bind_of_reading (hd : c.NamesDistinct) (h : Reading cs c tokens gs)
    (hfill : (Slots.start c).Filled cs c gs s') : bind cs r c tokens = .ok (s'.arguments r c) := by
  have hl := Slots.length_start c
  have htaken := hfill.taken_append (Slots.taken_start c) h.converts
  have hmiss : s'.missing c = [] := by
    rw [Slots.missing_eq_nil_iff htaken (hfill.size.trans hl)]
    intro i p hp hr
    simpa using h.complete i p hp hr
  rw [bind_eq_bindFrom]
  rw [bindFrom_of_scan hd (Slots.taken_start c) hl h.toScan hfill]
  dsimp only
  rw [hmiss]
  rfl

theorem exists_reading_of_bind (hd : c.NamesDistinct) {a : Arguments}
    (h : bind cs r c tokens = .ok a) :
    ∃ gs s', Reading cs c tokens gs ∧ (Slots.start c).Filled cs c gs s' := by
  have hl := Slots.length_start c
  rw [bind_eq_bindFrom] at h
  split at h
  · cases h
  · next s' hs' =>
    obtain ⟨gs, hscan, hfill⟩ := exists_scan_of_bindFrom hd (Slots.taken_start c) hl hs'
    have htaken := hfill.taken_append (Slots.taken_start c) hscan.converts
    split at h
    · next hmiss =>
      rw [List.isEmpty_iff, Slots.missing_eq_nil_iff htaken (hfill.size.trans hl)] at hmiss
      refine ⟨gs, s', ⟨hscan, fun i p hp hr => ?_⟩, hfill⟩
      simpa using hmiss i p hp hr
    · cases h

end

/-- **Binding meets its rules.** It succeeds exactly on the token lists that have a reading, with the
arguments that hold what the reading gives. -/
theorem bind_ok_iff_reading {ds : List Command} {t : CommandTable} (ht : CommandTable.build ds = .ok t)
    {c : Command} (hc : c ∈ t.commands) (cs : Converters) (r : Registry) (tokens : List String) :
    ((∃ a, bind cs r c tokens = .ok a) ↔ ∃ gs, Reading cs c tokens gs) ∧
      ∀ gs, Reading cs c tokens gs → ∀ a, bind cs r c tokens = .ok a ↔ a.Hold cs r c gs := by
  have hd := CommandTable.namesDistinct_of_build ht hc
  refine ⟨⟨?_, ?_⟩, fun gs hgs a => ?_⟩
  · rintro ⟨a, ha⟩
    obtain ⟨gs, s', hgs, -⟩ := exists_reading_of_bind hd ha
    exact ⟨gs, hgs⟩
  · rintro ⟨gs, hgs⟩
    obtain ⟨s', hfill⟩ := hgs.exists_filled (Slots.length_start c)
    exact ⟨_, bind_of_reading hd hgs hfill⟩
  · obtain ⟨s', hfill⟩ := hgs.exists_filled (Slots.length_start c)
    rw [hgs.hold_iff hfill, bind_of_reading hd hgs hfill]
    exact ⟨fun h => (Except.ok.inj h).symm, fun h => by rw [h]⟩

/-- A switch in front of a flag, a flag that fills a later place, and a token that goes to the first. -/
theorem bind_ok_iff_reading_connect :
    CommandTable.build Builtin.commands = .ok Builtin.table ∧ Builtin.connect ∈ Builtin.table.commands ∧
      ∃ gs, Reading Builtin.converters Builtin.connect ["-SECURE", "-port", "443", "db"] gs ∧
        Arguments.Hold Builtin.converters .empty Builtin.connect gs
          ⟨[("host", .str "db"), ("port", .int 443), ("secure", .bool true)]⟩ := by
  have hb : bind Builtin.converters .empty Builtin.connect ["-SECURE", "-port", "443", "db"] =
      .ok ⟨[("host", .str "db"), ("port", .int 443), ("secure", .bool true)]⟩ := rfl
  have hiff := bind_ok_iff_reading Builtin.build_commands Builtin.connect_mem Builtin.converters .empty
    ["-SECURE", "-port", "443", "db"]
  obtain ⟨gs, hgs⟩ := hiff.1.1 ⟨_, hb⟩
  exact ⟨Builtin.build_commands, Builtin.connect_mem, gs, hgs, (hiff.2 gs hgs _).1 hb⟩

end CommandShell
