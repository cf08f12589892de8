import CommandShell.Proofs.Completion.Walk

/-!
# The tokens that a walk notes

Over arguments that can be bound, the walk notes for each parameter the token of the group that targets
it. It notes none where binding needs none: for a parameter that is not targeted, and for a switch; and
it leaves out one that binding takes, a value that looks like a flag itself.

    (walk c args).marks.token? i = g.noted?   for the group g that targets i
-/

namespace CommandShell

/-- The token that a walk notes of the group. -/
def Group.noted? : Group → Option String
  | .switch .. => none
  | .named _ token _ => if isFlag token then none else some token
  | .positional token _ => some token

/-! ## What one group notes -/

namespace Marks

theorem token?_start (c : Command) (i : Nat) : (Marks.start c).token? i = none := by
  unfold start token?
  rw [List.getElem?_map]
  cases c.params[i]? with
  | none => rfl
  | some p => rfl

theorem token?_touch (m : Marks) (i j : Nat) : (m.touch i).token? j = m.token? j := by
  unfold touch token?
  rw [List.getElem?_modify]
  by_cases hj : i = j
  · subst hj
    cases m[i]? with
    | none => simp
    | some k => simp
  · simp [hj]

theorem token?_put_self (m : Marks) {i : Nat} (hi : i < m.length) (token : Option String) :
    (m.put i token).token? i = token := by
  unfold put token?
  rw [List.getElem?_set_self hi]
  rfl

theorem token?_put_of_ne (m : Marks) {i j : Nat} (h : j ≠ i) (token : Option String) :
    (m.put i token).token? j = m.token? j := by
  unfold put token?
  rw [List.getElem?_set_ne (Ne.symm h)]

theorem token?_record_self {m : Marks} {g : Group} (hlt : g.place < m.length)
    (hm : m.token? g.place = none) : (m.record g).token? g.place = g.noted? := by
  cases g with
  | switch flag i =>
    show (m.touch i).token? i = none
    rw [token?_touch]
    exact hm
  | named flag token i => exact token?_put_self m hlt _
  | positional token i => exact token?_put_self m hlt _

theorem token?_record_of_ne (m : Marks) {g : Group} {j : Nat} (h : j ≠ g.place) :
    (m.record g).token? j = m.token? j := by
  cases g with
  | switch flag i => exact token?_touch m i j
  | named flag token i | positional token i => exact token?_put_of_ne m h _

/-! ## What all groups note -/

theorem length_foldl_record (gs : List Group) (m : Marks) :
    (gs.foldl record m).length = m.length := by
  induction gs generalizing m with
  | nil => rfl
  | cons g gs ih => rw [List.foldl_cons, ih, length_record]

theorem token?_foldl_record_of_notMem {gs : List Group} {i : Nat} (h : i ∉ gs.map Group.place)
    (m : Marks) : (gs.foldl record m).token? i = m.token? i := by
  induction gs generalizing m with
  | nil => rfl
  | cons g gs ih =>
    rw [List.map_cons, List.mem_cons, not_or] at h
    rw [List.foldl_cons, ih h.2, token?_record_of_ne m h.1]

/-- Groups that target different parameters do not disturb each other. -/
theorem token?_foldl_record {gs : List Group} (honce : (gs.map Group.place).Nodup) {g : Group}
    (hg : g ∈ gs) {m : Marks} (hlt : g.place < m.length) (hm : m.token? g.place = none) :
    (gs.foldl record m).token? g.place = g.noted? := by
  induction gs generalizing m with
  | nil => cases hg
  | cons d gs ih =>
    rw [List.map_cons, List.nodup_cons] at honce
    rw [List.foldl_cons]
    rcases List.mem_cons.1 hg with rfl | hg
    · rw [token?_foldl_record_of_notMem honce.1]
      exact token?_record_self hlt hm
    · have hne : g.place ≠ d.place := by
        intro he
        exact honce.1 (he ▸ List.mem_map_of_mem hg)
      refine ih honce.2 hg (by rw [length_record]; exact hlt) ?_
      rw [token?_record_of_ne m hne]
      exact hm

end Marks

/-! ## The walk over a reading -/

section
variable {cs : Converters} {r : Registry} {c : Command} {args : List String} {gs : List Group}

theorem Scan.walk_marks (hd : c.NamesDistinct) (h : Scan cs c [] args gs) :
    (walk c args).marks = gs.foldl Marks.record (Marks.start c) := by
  have harr : Arranged c [] (gs ++ []) := by
    rw [List.append_nil]
    exact h.arranged
  obtain ⟨hwalk, -, -⟩ := walkFrom_groups hd (Marks.taken_start c) (Marks.length_start c) harr
    (List.nil_prefix (l := ([] : List Group).flatMap Group.tokens))
  rw [List.append_nil, h.cut] at hwalk
  rw [walk_eq_walkFrom, hwalk, walkFrom]
  split <;> rfl

theorem Scan.walk_token?_of_mem (hd : c.NamesDistinct) (h : Scan cs c [] args gs) {g : Group}
    (hg : g ∈ gs) : (walk c args).marks.token? g.place = g.noted? := by
  obtain ⟨v, hv⟩ := h.converts g hg
  have hlt : g.place < (Marks.start c).length := by
    rw [Marks.length_start]
    exact hv.lt_length
  rw [h.walk_marks hd]
  exact Marks.token?_foldl_record h.once hg hlt (Marks.token?_start c _)

theorem Scan.walk_token?_of_notMem (hd : c.NamesDistinct) (h : Scan cs c [] args gs) {i : Nat}
    (hi : i ∉ gs.map Group.place) : (walk c args).marks.token? i = none := by
  rw [h.walk_marks hd, Marks.token?_foldl_record_of_notMem hi]
  exact Marks.token?_start c i

/-- A parameter that no group targets keeps what it has before the tokens are read. -/
theorem Slots.Filled.arguments_values_of_notMem {s : Slots} (h : (Slots.start c).Filled cs c gs s)
    {i : Nat} {p : Parameter} (hp : c.params[i]? = some p) (hi : i ∉ gs.map Group.place) :
    (s.arguments r c).values[i]? = some (p.initial r) := by
  have hs : s[i]? = some none := by
    rw [h.kept i hi, Slots.start, List.getElem?_map, hp]
    rfl
  exact Slots.arguments_values hp hs

end

/-- **The walk notes what binding converts.** Over arguments that are bound, a token that the walk notes
for a parameter is the one whose value the parameter gets. Where it notes none, the parameter keeps what
it has at the start, or is switched on, or gets the value of a token that looks like a flag. -/
theorem walk_tokens_agree {ds : List Command} {t : CommandTable} (ht : CommandTable.build ds = .ok t)
    {c : Command} (hc : c ∈ t.commands) (cs : Converters) (r : Registry) {args : List String}
    {a : Arguments} (ha : bind cs r c args = .ok a) :
    (walk c args).marks.length = c.params.length ∧
    ∃ gs, Reading cs c args gs ∧ ∀ i p, c.params[i]? = some p → ∃ v, a.values[i]? = some v ∧
      (∀ token, (walk c args).marks.token? i = some token → cs.convert p token = .ok v) ∧
      ((walk c args).marks.token? i = none →
        (i ∉ gs.map Group.place ∧ v = p.initial r) ∨
        (∃ flag, Group.switch flag i ∈ gs ∧ v = .bool true) ∨
        ∃ flag token, Group.named flag token i ∈ gs ∧ isFlag token = true ∧
          cs.convert p token = .ok v) := by
  have hd := CommandTable.namesDistinct_of_build ht hc
  obtain ⟨gs, s', hread, hfill⟩ := exists_reading_of_bind hd ha
  rw [bind_of_reading hd hread hfill] at ha
  cases ha
  refine ⟨?_, gs, hread, fun i p hp => ?_⟩
  · rw [hread.walk_marks hd, Marks.length_foldl_record, Marks.length_start]
  by_cases hi : i ∈ gs.map Group.place
  · obtain ⟨g, hg, rfl⟩ := List.mem_map.1 hi
    obtain ⟨v, hv⟩ := hread.converts g hg
    obtain ⟨q, hq, hvalue⟩ := id hv
    obtain rfl : p = q := Option.some.inj (hp.symm.trans hq)
    refine ⟨v, Slots.arguments_values hp (hfill.given g hg v hv), ?_⟩
    rw [hread.walk_token?_of_mem hd hg]
    cases g with
    | switch flag j =>
      refine ⟨fun token h => (by cases h), fun _ => Or.inr (Or.inl ⟨flag, hg, ?_⟩)⟩
      exact (Except.ok.inj hvalue).symm
    | positional token j =>
      refine ⟨fun u h => ?_, fun h => (by cases h)⟩
      cases h
      exact hvalue
    | named flag token j =>
      by_cases hflag : isFlag token = true
      · have hnone : Group.noted? (.named flag token j) = none := if_pos hflag
        rw [hnone]
        exact ⟨fun u h => (by cases h), fun _ => Or.inr (Or.inr ⟨flag, token, hg, hflag, hvalue⟩)⟩
      · have hsome : Group.noted? (.named flag token j) = some token := if_neg hflag
        rw [hsome]
        refine ⟨fun u h => ?_, fun h => (by cases h)⟩
        cases h
        exact hvalue
  · refine ⟨p.initial r, hfill.arguments_values_of_notMem hp hi, ?_⟩
    rw [hread.walk_token?_of_notMem hd hi]
    exact ⟨fun token h => (by cases h), fun _ => Or.inl ⟨hi, rfl⟩⟩

/-- A value that looks like a flag, a token at its place, and a switch: the walk notes the second. -/
theorem walk_tokens_agree_connect :
    CommandTable.build Builtin.commands = .ok Builtin.table ∧ Builtin.connect ∈ Builtin.table.commands ∧
      ∃ a, bind Builtin.converters .empty Builtin.connect ["-port", "-5", "db", "-secure"] = .ok a ∧
        a.values = [.str "db", .int (-5), .bool true] ∧
        (List.range 3).map (walk Builtin.connect ["-port", "-5", "db", "-secure"]).marks.token? =
          [some "db", none, none] ∧
        ∃ gs, Reading Builtin.converters Builtin.connect ["-port", "-5", "db", "-secure"] gs ∧
          (∃ flag token, Group.named flag token 1 ∈ gs ∧ isFlag token = true) ∧
          ∃ flag, Group.switch flag 2 ∈ gs := by
  have hb : bind Builtin.converters .empty Builtin.connect ["-port", "-5", "db", "-secure"] =
      .ok ⟨[("host", .str "db"), ("port", .int (-5)), ("secure", .bool true)]⟩ := rfl
  obtain ⟨-, gs, hread, hall⟩ := walk_tokens_agree Builtin.build_commands Builtin.connect_mem
    Builtin.converters .empty hb
  refine ⟨Builtin.build_commands, Builtin.connect_mem, _, hb, rfl, rfl, gs, hread, ?_, ?_⟩
  · obtain ⟨v, hv, -, hport⟩ := hall 1 _ rfl
    obtain rfl : Value.int (-5) = v := Option.some.inj hv
    rcases hport rfl with ⟨-, hinitial⟩ | ⟨flag, -, hswitch⟩ | ⟨flag, token, hg, hflag, -⟩
    · exact absurd (Value.int.inj hinitial) (by decide)
    · cases hswitch
    · exact ⟨flag, token, hg, hflag⟩
  · obtain ⟨v, hv, -, hsecure⟩ := hall 2 _ rfl
    obtain rfl : Value.bool true = v := Option.some.inj hv
    rcases hsecure rfl with ⟨-, hinitial⟩ | ⟨flag, hg, -⟩ | ⟨flag, token, hg, hflag, -⟩
    · cases hinitial
    · exact ⟨flag, hg⟩
    · -- a truth value's flag takes no token that looks like a flag
      obtain ⟨before, after, he⟩ := List.append_of_mem hg
      obtain ⟨p, hp, hno⟩ := hread.arranged before _ after he
      obtain rfl : _ = p := Option.some.inj hp.stands
      exact absurd ⟨rfl, hflag⟩ hno

end CommandShell
