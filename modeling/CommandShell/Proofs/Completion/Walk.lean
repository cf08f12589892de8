import CommandShell.Proofs.Completion.Cursor
import CommandShell.Proofs.Binding.Reading

/-!
# The walk and binding

Completion walks over the tokens in front of the cursor as binding would read them. Over the groups of
a scan it marks the parameters that binding binds, and it ends at the place that the next token fills.
One thing it cannot know: a truth value's flag at the end is a switch for the walk, and becomes a flag
with a value if the next token is no flag.

    walk c args ends at the place that bind fills from the token behind args,
    unless that token answers the flag of a truth value
-/

namespace CommandShell

/-! ## Marks -/

namespace Marks

/-- Exactly the parameters at the places in `taken` are used. -/
def Taken (m : Marks) (taken : List Nat) : Prop :=
  ∀ i, m.isUsed i = true ↔ i ∈ taken

/-- What a walk notes of a group. -/
def record (m : Marks) : Group → Marks
  | .switch _ i => m.touch i
  | .named _ token i => m.put i (if isFlag token then none else some token)
  | .positional token i => m.put i (some token)

theorem taken_start (c : Command) : (Marks.start c).Taken [] := by
  intro i
  unfold start isUsed
  rw [List.getElem?_map]
  cases c.params[i]? <;> simp

theorem length_record (m : Marks) (g : Group) : (m.record g).length = m.length := by
  cases g with
  | switch flag i => exact List.length_modify ..
  | named flag token i | positional token i => exact List.length_set ..

theorem isUsed_record (m : Marks) (g : Group) (j : Nat) :
    (m.record g).isUsed j = true ↔ m.isUsed j = true ∨ j = g.place ∧ g.place < m.length := by
  cases g with
  | switch flag i => exact isUsed_touch m i j
  | named flag token i | positional token i => exact isUsed_put m i j _

theorem Taken.record {m : Marks} {taken : List Nat} (h : m.Taken taken) {g : Group}
    (hi : g.place < m.length) : (m.record g).Taken (taken ++ [g.place]) := by
  intro j
  rw [isUsed_record, h j, List.mem_append, List.mem_singleton]
  exact ⟨fun hj => hj.imp_right And.left, fun hj => hj.imp_right fun he => ⟨he, hi⟩⟩

theorem firstOpen?_eq_some_iff {c : Command} {m : Marks} {taken : List Nat} (h : m.Taken taken)
    {p : Parameter} {i : Nat} : m.firstOpen? c = some (p, i) ↔ c.FirstOpen taken i p :=
  Command.find?_open_eq_some_iff h

end Marks

/-! ## The walk over groups -/

/-- A group fits in front of any beginning of what it fits in front of. -/
theorem Group.Fits.of_prefix {c : Command} {taken : List Nat} {after after' : List String} {g : Group}
    (h : g.Fits c taken after) (hp : after' <+: after) : g.Fits c taken after' := by
  cases g with
  | switch flag i =>
    obtain ⟨p, hp', hbool, hafter⟩ := h
    refine ⟨p, hp', hbool, fun t ht => hafter t ?_⟩
    obtain ⟨rest, rfl⟩ := hp
    cases after' with
    | nil => cases ht
    | cons u after' => exact ht
  | named flag token i | positional token i => exact h

section
variable {c : Command} {m : Marks} {taken : List Nat}

/-- The walk reads a group as binding does. -/
theorem walkFrom_group (hd : c.NamesDistinct) (hm : m.Taken taken) {g : Group} {rest : List String}
    (hg : g.Fits c taken rest) :
    walkFrom c m (g.tokens ++ rest) = walkFrom c (m.record g) rest := by
  cases g with
  | switch flag i =>
    obtain ⟨p, hp, hbool, hafter⟩ := hg
    have ht := (Command.flagTarget?_eq_some_iff hd hp.flag_isFlag).2 hp
    show walkFrom c m (flag :: rest) = walkFrom c (m.touch i) rest
    rw [walkFrom.eq_def c m (flag :: rest)]
    dsimp only
    rw [if_pos hp.flag_isFlag, ht]
    cases rest with
    | nil =>
      dsimp only
      rw [if_pos hbool]
    | cons t rest =>
      dsimp only
      rw [if_pos (hafter t rfl), if_pos hbool]
  | named flag token i =>
    obtain ⟨p, hp, hno⟩ := hg
    have ht := (Command.flagTarget?_eq_some_iff hd hp.flag_isFlag).2 hp
    show walkFrom c m (flag :: token :: rest) =
      walkFrom c (m.put i (if isFlag token then none else some token)) rest
    rw [walkFrom.eq_def c m (flag :: token :: rest)]
    dsimp only
    rw [if_pos hp.flag_isFlag, ht]
    dsimp only
    by_cases htok : isFlag token = true
    · rw [if_pos htok, if_pos htok, if_neg fun hbool => hno ⟨hbool, htok⟩]
    · rw [if_neg htok, if_neg htok]
  | positional token i =>
    obtain ⟨hflag, p, hp⟩ := hg
    have ht := (Marks.firstOpen?_eq_some_iff hm).2 hp
    show walkFrom c m (token :: rest) = walkFrom c (m.put i (some token)) rest
    rw [walkFrom.eq_def c m (token :: rest)]
    dsimp only
    rw [if_neg (by rw [hflag]; exact Bool.false_ne_true), ht]

/-- The walk over groups that follow the rules, in front of a beginning of more such groups. -/
theorem walkFrom_groups (hd : c.NamesDistinct) (hm : m.Taken taken) (hl : m.length = c.params.length)
    {gs gs' : List Group} {rest : List String} (harr : Arranged c taken (gs ++ gs'))
    (hrest : rest <+: gs'.flatMap Group.tokens) :
    walkFrom c m (gs.flatMap Group.tokens ++ rest) = walkFrom c (gs.foldl Marks.record m) rest ∧
      Marks.Taken (gs.foldl Marks.record m) (taken ++ gs.map Group.place) ∧
      (gs.foldl Marks.record m).length = c.params.length := by
  induction gs generalizing m taken with
  | nil => exact ⟨rfl, by simpa using hm, hl⟩
  | cons g gs ih =>
    obtain ⟨hg, harr⟩ := arranged_cons.1 harr
    obtain ⟨p, hp, -⟩ := hg.visible
    have hlt : g.place < m.length := by rw [hl]; exact (List.getElem?_eq_some_iff.1 hp).1
    have hpre : gs.flatMap Group.tokens ++ rest <+: (gs ++ gs').flatMap Group.tokens := by
      rw [List.flatMap_append]
      exact (List.prefix_append_right_inj _).2 hrest
    obtain ⟨hwalk, htaken, hlen⟩ := ih (hm.record hlt) (by rw [Marks.length_record, hl]) harr
    rw [List.flatMap_cons, List.append_assoc, walkFrom_group hd hm (hg.of_prefix hpre), hwalk]
    exact ⟨rfl, by simpa using htaken, hlen⟩

theorem next_of_firstOpen (hm : m.Taken taken) {i : Nat} {p : Parameter}
    (h : c.FirstOpen taken i p) : (walkFrom c m []).next = .positional i := by
  rw [walkFrom, (Marks.firstOpen?_eq_some_iff hm).2 h]

/-- At its end the walk designates no place that is taken. -/
theorem next_notMem_taken (hm : m.Taken taken) {i : Nat}
    (h : (walkFrom c m []).next.index? = some i) : i ∉ taken := by
  rw [walkFrom] at h
  split at h
  · next p j hopen =>
    cases h
    exact ((Marks.firstOpen?_eq_some_iff hm).1 hopen).free
  · cases h

/-- A flag at the end: its value is next, but a truth value may do without. -/
theorem walkFrom_flag (hd : c.NamesDistinct) {flag : String} {i : Nat} {p : Parameter}
    (hp : c.FlagNames flag i p) :
    walkFrom c m [flag] =
      if p.type.isBoolean then walkFrom c (m.touch i) [] else ⟨.flagValue i, m.touch i⟩ := by
  have ht := (Command.flagTarget?_eq_some_iff hd hp.flag_isFlag).2 hp
  rw [walkFrom.eq_def c m [flag]]
  dsimp only
  rw [if_pos hp.flag_isFlag, ht]

end

/-! ## The next slot -/

namespace Group

/-- The slot that the last token of the group goes to. -/
def slot : Group → NextSlot
  | .switch .. => .none
  | .named _ _ i => .flagValue i
  | .positional _ i => .positional i

/-- The group is a truth value's flag with a value. -/
def AnswersTruth (c : Command) : Group → Prop
  | .named _ _ i => ∃ p, c.params[i]? = some p ∧ p.type.isBoolean = true
  | .switch .. | .positional .. => False

theorem AnswersTruth.exists_boolean {c : Command} {g : Group} (h : g.AnswersTruth c) :
    ∃ p, c.params[g.place]? = some p ∧ p.type.isBoolean = true := by
  cases g with
  | named flag token i => exact h
  | switch flag i | positional token i => cases h

/-- The tokens of a group up to a last one that is no flag. -/
theorem tokens_eq_concat {c : Command} {taken : List Nat} {after : List String} {g : Group}
    (h : g.Fits c taken after) {front : List String} {token : String}
    (he : g.tokens = front ++ [token]) (hflag : isFlag token = false) :
    (∃ flag i, g = .named flag token i ∧ front = [flag]) ∨ ∃ i, g = .positional token i ∧ front = [] := by
  cases g with
  | switch flag i =>
    obtain ⟨p, hp, -⟩ := h
    obtain ⟨-, ht⟩ := List.append_inj' (show [] ++ [flag] = front ++ [token] from he) rfl
    rw [← (List.cons.inj ht).1, hp.flag_isFlag] at hflag
    cases hflag
  | named flag value i =>
    obtain ⟨hf, ht⟩ := List.append_inj' (show [flag] ++ [value] = front ++ [token] from he) rfl
    exact Or.inl ⟨flag, i, by rw [(List.cons.inj ht).1], hf.symm⟩
  | positional value i =>
    obtain ⟨hf, ht⟩ := List.append_inj' (show [] ++ [value] = front ++ [token] from he) rfl
    exact Or.inr ⟨i, by rw [(List.cons.inj ht).1], hf.symm⟩

end Group

/-- In front of the last token of a scan, the walk ends at the slot of that token's group, unless the
group answers a truth value's flag. -/
theorem walkFrom_next {c : Command} (hd : c.NamesDistinct) {m : Marks} {taken : List Nat}
    (hm : m.Taken taken) (hl : m.length = c.params.length) {g : Group} (hg : g.Fits c taken [])
    {front : List String} {token : String}
    (he : g.tokens = front ++ [token]) (hflag : isFlag token = false) :
    (¬g.AnswersTruth c → (walkFrom c m front).next = g.slot ∧ g.slot.index? = some g.place) ∧
      (g.AnswersTruth c → (walkFrom c m front).next.index? ≠ some g.place) := by
  rcases g.tokens_eq_concat hg he hflag with ⟨flag, i, rfl, rfl⟩ | ⟨i, rfl, rfl⟩
  · obtain ⟨p, hp, -⟩ := hg
    rw [walkFrom_flag hd hp]
    cases hbool : p.type.isBoolean with
    | true =>
      refine ⟨fun hno => absurd ⟨p, hp.stands, hbool⟩ hno, fun _ hnext => ?_⟩
      have hlt : i < m.length := by rw [hl]; exact (List.getElem?_eq_some_iff.1 hp.stands).1
      have htouch : (m.touch i).Taken (taken ++ [i]) := hm.record (g := .switch flag i) hlt
      rw [if_pos rfl] at hnext
      exact next_notMem_taken htouch hnext (by simp [Group.place])
    | false =>
      refine ⟨fun _ => ⟨rfl, rfl⟩, fun ⟨q, hq, hbool'⟩ => ?_⟩
      rw [hp.stands] at hq
      cases hq
      rw [hbool] at hbool'
      cases hbool'
  · obtain ⟨-, p, hp⟩ := hg
    exact ⟨fun _ => ⟨next_of_firstOpen hm hp, rfl⟩, fun h => absurd h id⟩

/-- The last token of a scan is the last one of its last group. -/
theorem Scan.exists_last {cs : Converters} {c : Command} {taken : List Nat} {args : List String}
    {token : String} {gs' : List Group} (h : Scan cs c taken (args ++ [token]) gs') :
    ∃ gs g front, gs' = gs ++ [g] ∧ g.tokens = front ++ [token] ∧
      args = gs.flatMap Group.tokens ++ front := by
  rcases List.eq_nil_or_concat gs' with rfl | ⟨gs, g, rfl⟩
  · exact absurd h.cut (by simp)
  rw [List.concat_eq_append] at h
  rcases List.eq_nil_or_concat g.tokens with hnil | ⟨front, last, hlast⟩
  · exact absurd hnil g.tokens_ne_nil
  rw [List.concat_eq_append] at hlast
  have hcut := h.cut
  rw [List.flatMap_append, List.flatMap_singleton, hlast, ← List.append_assoc] at hcut
  obtain ⟨hargs, htoken⟩ := List.append_inj' hcut rfl
  obtain ⟨rfl, -⟩ := List.cons.inj htoken
  exact ⟨gs, g, front, List.concat_eq_append, hlast, hargs.symm⟩

/-- **The walk ends at the slot that binding fills from the next token**, except behind the flag of a
truth value: there it ends at a slot that binding does not fill. -/
theorem walk_next_eq_slot {ds : List Command} {t : CommandTable} (ht : CommandTable.build ds = .ok t)
    {c : Command} (hc : c ∈ t.commands) (cs : Converters) (r : Registry) {args : List String}
    {token : String} (hflag : isFlag token = false) {a : Arguments}
    (ha : bind cs r c (args ++ [token]) = .ok a) :
    ∃ gs g p v, Reading cs c (args ++ [token]) (gs ++ [g]) ∧ g.tokens.getLast? = some token ∧
      c.params[g.place]? = some p ∧ cs.convert p token = .ok v ∧ a.values[g.place]? = some v ∧
      (¬g.AnswersTruth c → (walk c args).next = g.slot ∧ g.slot.index? = some g.place) ∧
      (g.AnswersTruth c → (walk c args).next.index? ≠ some g.place) := by
  have hd := CommandTable.namesDistinct_of_build ht hc
  obtain ⟨gs', s', hread, hfill⟩ := exists_reading_of_bind hd ha
  obtain ⟨gs, g, front, rfl, htokens, hargs⟩ := hread.exists_last
  have hmem : g ∈ gs ++ [g] := by simp
  have hg : g.Fits c (gs.map Group.place) [] := hread.arranged gs g [] rfl
  obtain ⟨v, p, hp, hv⟩ := hread.converts g hmem
  have hconv : cs.convert p token = .ok v := by
    rcases g.tokens_eq_concat hg htokens hflag with ⟨flag, i, rfl, -⟩ | ⟨i, rfl, -⟩
    · exact hv
    · exact hv
  have hval : a.values[g.place]? = some v := by
    rw [bind_of_reading hd hread hfill] at ha
    cases ha
    exact Slots.arguments_values hp (hfill.given g hmem v ⟨p, hp, hv⟩)
  have hfront : front <+: [g].flatMap Group.tokens := ⟨[token], by simp [htokens]⟩
  obtain ⟨hwalk, htaken, hlen⟩ :=
    walkFrom_groups hd (Marks.taken_start c) (Marks.length_start c) hread.arranged hfront
  refine ⟨gs, g, p, v, hread, by rw [htokens, List.getLast?_concat], hp, hconv, hval, ?_⟩
  rw [walk_eq_walkFrom, hargs, hwalk]
  exact walkFrom_next hd htaken hlen hg htokens hflag

/-- Behind a flag that takes a value, the walk ends at that value. -/
theorem walk_next_eq_slot_connect :
    CommandTable.build Builtin.commands = .ok Builtin.table ∧ Builtin.connect ∈ Builtin.table.commands ∧
      isFlag "443" = false ∧ ∃ a, bind Builtin.converters .empty Builtin.connect
        (["db", "-secure", "-port"] ++ ["443"]) = .ok a ∧
      ∃ gs g p v, Reading Builtin.converters Builtin.connect (["db", "-secure", "-port"] ++ ["443"])
          (gs ++ [g]) ∧
        g.tokens.getLast? = some "443" ∧ Builtin.connect.params[g.place]? = some p ∧
        Builtin.converters.convert p "443" = .ok v ∧ a.values[g.place]? = some v ∧
        (walk Builtin.connect ["db", "-secure", "-port"]).next = g.slot ∧
        g.slot.index? = some g.place := by
  have hb : bind Builtin.converters .empty Builtin.connect (["db", "-secure", "-port"] ++ ["443"]) =
      .ok ⟨[("host", .str "db"), ("port", .int 443), ("secure", .bool true)]⟩ := rfl
  have hflag : isFlag "443" = false := rfl
  obtain ⟨gs, g, p, v, hread, hlast, hp, hconv, hval, hnext, -⟩ := walk_next_eq_slot
    Builtin.build_commands Builtin.connect_mem Builtin.converters .empty hflag hb
  have htruth : ¬g.AnswersTruth Builtin.connect := by
    intro h
    obtain ⟨q, hq, hbool⟩ := h.exists_boolean
    rw [hp] at hq
    cases hq
    have hnone : readBool (unquote "443") = none := by with_unfolding_all decide
    rw [Converters.convert_of_isBoolean hbool, hnone] at hconv
    cases hconv
  exact ⟨Builtin.build_commands, Builtin.connect_mem, hflag, _, hb, gs, g, p, v, hread, hlast, hp,
    hconv, hval, hnext htruth⟩

/-- The walk takes `-secure` for a switch and goes on to the port; binding reads the next token as its
value. -/
theorem walk_next_ne_slot_connect :
    ∃ a gs g, bind Builtin.converters .empty Builtin.connect (["db", "-secure"] ++ ["n"]) = .ok a ∧
      a.values[2]? = some (.bool false) ∧
      Reading Builtin.converters Builtin.connect (["db", "-secure"] ++ ["n"]) (gs ++ [g]) ∧
      g = .named "-secure" "n" 2 ∧ (walk Builtin.connect ["db", "-secure"]).next = .positional 1 := by
  have hno : readBool (unquote "n") = some false := by with_unfolding_all decide
  have hgives : Group.Gives Builtin.converters Builtin.connect (.named "-secure" "n" 2) (.bool false) := by
    have hbool : ParameterType.isBoolean .boolean = true := rfl
    refine ⟨_, rfl, ?_⟩
    unfold Group.value
    dsimp only
    rw [Converters.convert_of_isBoolean hbool, hno]
  have hread : Reading Builtin.converters Builtin.connect (["db", "-secure"] ++ ["n"])
      ([.positional "db" 0] ++ [.named "-secure" "n" 2]) := by
    refine ⟨⟨rfl, ?_, by simp, by decide, ?_⟩, ?_⟩
    · rw [List.singleton_append, arranged_cons, arranged_cons]
      refine ⟨⟨rfl, _, rfl, rfl, by simp, fun j q hj => by omega⟩, ⟨_, ⟨rfl, rfl, rfl, rfl⟩, ?_⟩, ?_⟩
      · exact fun h => Bool.false_ne_true h.2
      · intro before g after he
        simp at he
    · intro g hg
      simp only [List.singleton_append, List.mem_cons, List.not_mem_nil, or_false] at hg
      rcases hg with rfl | rfl
      · exact ⟨.str "db", _, rfl, rfl⟩
      · exact ⟨.bool false, hgives⟩
    · intro i p hp hreq
      match i with
      | 0 => simp [Group.place]
      | 1 | 2 =>
        cases hp
        cases hreq
      | i + 3 => cases hp
  have hd := CommandTable.namesDistinct_of_build Builtin.build_commands Builtin.connect_mem
  obtain ⟨s', hfill⟩ := hread.exists_filled (Slots.length_start _)
  refine ⟨_, _, _, bind_of_reading hd hread hfill, ?_, hread, rfl, rfl⟩
  exact Slots.arguments_values rfl (hfill.given (.named "-secure" "n" 2) (by simp) (.bool false)
    hgives)

end CommandShell
