import CommandShell.Proofs.BuiltTable

/-!
# Which lists of commands are tables

Commands are added in the order in which they are listed. The first one that offends against those before
it, or in itself, decides the error; without one the table holds each command once, under its lowercase
name and in the order of these names.

    build cs = .error e ↔ cs = before ++ c :: after, none in before offends, and Offends before c e
    build cs = .ok t    → t.commands is cs, in the order of the lowercase names
-/

namespace CommandShell

/-! ## Sorted entries -/

namespace Assoc

variable {α : Type} {key : String} {es : List (String × α)}

/-- A new key adds an entry and leaves the others. -/
theorem insert_perm (h : find? key es = none) (v : α) : (insert key v es).Perm ((key, v) :: es) := by
  induction es with
  | nil => exact List.Perm.refl _
  | cons e rest ih =>
    obtain ⟨k, w⟩ := e
    rw [find?] at h
    rw [insert]
    split at h
    · cases h
    · next hk =>
      rw [if_neg hk]
      split
      · exact List.Perm.refl _
      · exact ((ih h).cons (k, w)).trans (List.Perm.swap ..)

theorem sorted_insert (h : es.Pairwise fun d e => d.1 < e.1) (v : α) :
    (insert key v es).Pairwise fun d e => d.1 < e.1 := by
  induction es with
  | nil => exact List.pairwise_singleton _ _
  | cons e rest ih =>
    obtain ⟨k, w⟩ := e
    obtain ⟨hk, hrest⟩ := List.pairwise_cons.1 h
    rw [insert]
    split
    · next hlt =>
      refine List.pairwise_cons.2 ⟨fun d hd => ?_, h⟩
      rcases List.mem_cons.1 hd with rfl | hd
      · exact hlt
      · exact String.lt_trans hlt (hk d hd)
    · next hnot =>
      split
      · next heq => exact List.pairwise_cons.2 ⟨fun d hd => heq ▸ hk d hd, hrest⟩
      · next hne =>
        -- what stands behind `k` now is the new key, which is greater, or stood there before
        refine List.pairwise_cons.2 ⟨fun d hd => ?_, ih hrest⟩
        rcases mem_insert hd with rfl | hd
        · exact Std.lt_of_le_of_ne (String.not_lt.1 hnot) hne
        · exact hk d hd

end Assoc

theorem Command.NamesDistinct.of_append {c : Command} (h : c.NamesDistinct) {front behind : List Parameter}
    {p q : Parameter} (hc : c.params = front ++ p :: behind) (hq : q ∈ front) :
    Text.sameName q.name p.name = false := by
  unfold Command.NamesDistinct at h
  rw [hc] at h
  exact (List.pairwise_append.1 h).2.2 q hq p List.mem_cons_self

namespace CommandTable

/-! ## Offences -/

/-- What a command has that keeps it from standing behind some others. A name counts before the
parameters, and these before the default. -/
inductive Offends (before : List Command) (c : Command) : TableError → Prop where
  | name {d : Command} (hd : d ∈ before) (h : Text.lowercase d.name = Text.lowercase c.name) :
      Offends before c (.duplicateCommand c.name)
  /-- `p` is the first parameter whose name an earlier one has. -/
  | parameter {front behind : List Parameter} {p q : Parameter}
      (hname : ∀ d ∈ before, Text.lowercase d.name ≠ Text.lowercase c.name)
      (hparams : c.params = front ++ p :: behind)
      (hfront : front.Pairwise fun p q => Text.sameName p.name q.name = false)
      (hq : q ∈ front) (h : Text.sameName q.name p.name = true) :
      Offends before c (.duplicateParameter c.name p.name)
  | default {d : Command}
      (hname : ∀ d ∈ before, Text.lowercase d.name ≠ Text.lowercase c.name)
      (hparams : c.NamesDistinct) (hc : c.isDefault = true) (hd : d ∈ before) (h : d.isDefault = true) :
      Offends before c (.severalDefaults d.name c.name)

/-- None of the commands offends against those before it, or in itself. -/
def Unoffending (cs : List Command) : Prop :=
  ∀ before c after e, cs = before ++ c :: after → ¬ Offends before c e

/-- No two commands have the same name, one at most is the default, and no command has two parameters of
the same name. -/
structure Consistent (cs : List Command) : Prop where
  names : cs.Pairwise fun c d => Text.lowercase c.name ≠ Text.lowercase d.name
  default : (cs.filter (·.isDefault)).length ≤ 1
  params : ∀ c ∈ cs, c.NamesDistinct

theorem Consistent.nil : Consistent [] :=
  ⟨List.Pairwise.nil, Nat.zero_le 1, fun _ h => absurd h List.not_mem_nil⟩

theorem Consistent.default_unique {cs : List Command} (h : Consistent cs) {c d : Command} (hc : c ∈ cs)
    (hd : d ∈ cs) (hc' : c.isDefault = true) (hd' : d.isDefault = true) : c = d := by
  have hmem : ∀ c ∈ cs, c.isDefault = true → c ∈ cs.filter (·.isDefault) :=
    fun c hc hc' => List.mem_filter.2 ⟨hc, hc'⟩
  obtain ⟨i, hi, hci⟩ := List.getElem_of_mem (hmem c hc hc')
  obtain ⟨j, hj, hdj⟩ := List.getElem_of_mem (hmem d hd hd')
  have hplaces : i = j := by
    have := h.default
    omega
  subst hplaces
  exact hci.symm.trans hdj

/-- In a consistent list nothing offends. -/
theorem Consistent.unoffending {cs : List Command} (h : Consistent cs) : Unoffending cs := by
  rintro before c after e rfl hoffends
  obtain ⟨-, -, hcross⟩ := List.pairwise_append.1 h.names
  have hcmem : c ∈ before ++ c :: after := List.mem_append_right _ List.mem_cons_self
  cases hoffends with
  | name hd heq => exact hcross _ hd c List.mem_cons_self heq
  | parameter _ hparams _ hq heq =>
    rw [(h.params c hcmem).of_append hparams hq] at heq
    cases heq
  | default hname _ hc hd hdefault =>
    obtain rfl := h.default_unique (List.mem_append_left _ hd) hcmem hdefault hc
    exact hname _ hd rfl

/-! ## Parameters -/

/-- The parameter that is found is the first one whose name is taken, by an earlier one or from the start. -/
theorem repeatedParameter?_eq_some_iff {before : List String} {ps : List Parameter} {p : Parameter} :
    repeatedParameter? before ps = some p ↔
      ∃ front behind, ps = front ++ p :: behind ∧
        (∀ n ∈ before, ∀ q ∈ front, Text.sameName n q.name = false) ∧
        front.Pairwise (fun p q => Text.sameName p.name q.name = false) ∧
        ∃ n ∈ before ++ front.map (·.name), Text.sameName n p.name = true := by
  constructor
  · intro h
    induction ps generalizing before with
    | nil => cases h
    | cons r rest ih =>
      rw [repeatedParameter?] at h
      split at h
      · next hr =>
        obtain ⟨n, hn, hsame⟩ := List.any_eq_true.1 hr
        cases h
        exact ⟨[], rest, rfl, by simp, List.Pairwise.nil, n, by simpa using hn, hsame⟩
      · next hr =>
        obtain ⟨front, behind, rfl, hbefore, hfront, n, hn, hsame⟩ := ih h
        refine ⟨r :: front, behind, rfl, fun m hm q hq => ?_,
          List.pairwise_cons.2 ⟨hbefore r.name List.mem_cons_self, hfront⟩, n, ?_, hsame⟩
        · rcases List.mem_cons.1 hq with rfl | hq
          · exact Bool.eq_false_iff.2 fun hc => hr (List.any_eq_true.2 ⟨m, hm, hc⟩)
          · exact hbefore m (List.mem_cons_of_mem _ hm) q hq
        · simpa [or_left_comm] using hn
  · rintro ⟨front, behind, rfl, hbefore, hfront, n, hn, hsame⟩
    induction front generalizing before with
    | nil =>
      rw [List.nil_append, repeatedParameter?, if_pos]
      exact List.any_eq_true.2 ⟨n, by simpa using hn, hsame⟩
    | cons r front ih =>
      obtain ⟨hr, hfront⟩ := List.pairwise_cons.1 hfront
      rw [List.cons_append, repeatedParameter?, if_neg]
      · refine ih (fun m hm q hq => ?_) hfront (by simpa [or_left_comm] using hn)
        rcases List.mem_cons.1 hm with rfl | hm
        · exact hr q hq
        · exact hbefore m hm q (List.mem_cons_of_mem _ hq)
      · rw [List.any_eq_true]
        rintro ⟨m, hm, hsame⟩
        rw [hbefore m hm r List.mem_cons_self] at hsame
        cases hsame

/-- The first parameter whose name an earlier one has. -/
theorem repeatedParameter?_nil_eq_some_iff {ps : List Parameter} {p : Parameter} :
    repeatedParameter? [] ps = some p ↔
      ∃ front behind, ps = front ++ p :: behind ∧
        front.Pairwise (fun p q => Text.sameName p.name q.name = false) ∧
        ∃ q ∈ front, Text.sameName q.name p.name = true := by
  rw [repeatedParameter?_eq_some_iff]
  simp only [List.nil_append, List.not_mem_nil, false_implies, implies_true, true_and]
  refine exists_congr fun front => exists_congr fun behind =>
    and_congr_right fun _ => and_congr_right fun _ => ?_
  constructor
  · rintro ⟨n, hn, hsame⟩
    obtain ⟨q, hq, rfl⟩ := List.mem_map.1 hn
    exact ⟨q, hq, hsame⟩
  · rintro ⟨q, hq, hsame⟩
    exact ⟨q.name, List.mem_map.2 ⟨q, hq, rfl⟩, hsame⟩

theorem repeatedParameter?_nil_eq_none_iff {c : Command} :
    repeatedParameter? [] c.params = none ↔ c.NamesDistinct := by
  refine ⟨fun h => (repeatedParameter?_eq_none h).2, fun h => ?_⟩
  rw [Option.eq_none_iff_forall_ne_some]
  intro p hp
  obtain ⟨front, behind, hparams, -, q, hq, hsame⟩ := repeatedParameter?_nil_eq_some_iff.1 hp
  rw [h.of_append hparams hq] at hsame
  cases hsame

/-! ## Adding a command -/

/-- The table holds the commands of a consistent list, in the order of their lowercase names. -/
structure Lists (t : CommandTable) (cs : List Command) : Prop where
  keyed : t.Keyed
  commands : t.commands.Perm cs
  sorted : t.entries.Pairwise fun d e => d.1 < e.1
  /-- The noted key is that of the command that is marked as the default. -/
  default : ∀ key, t.defaultKey = some key ↔ ∃ c ∈ cs, c.isDefault = true ∧ Text.lowercase c.name = key
  consistent : Consistent cs

namespace Lists

variable {t t' : CommandTable} {cs : List Command} {c : Command} {e : TableError}

theorem empty : Lists {} [] :=
  ⟨keyed_empty, List.Perm.refl _, List.Pairwise.nil, by simp, Consistent.nil⟩

theorem get?_eq_some_iff (h : Lists t cs) {name : String} :
    t.get? name = some c ↔ c ∈ cs ∧ Text.lowercase c.name = Text.lowercase name := by
  rw [h.keyed.get?_eq_some_iff, h.commands.mem_iff, eq_comm]

theorem get?_eq_none_iff (h : Lists t cs) {name : String} :
    t.get? name = none ↔ ∀ d ∈ cs, Text.lowercase d.name ≠ Text.lowercase name := by
  rw [Option.eq_none_iff_forall_ne_some]
  constructor
  · exact fun hnone d hd hname => hnone d (h.get?_eq_some_iff.2 ⟨hd, hname⟩)
  · exact fun hfresh d hd => hfresh d (h.get?_eq_some_iff.1 hd).1 (h.get?_eq_some_iff.1 hd).2

/-- The entry under the noted key is the command that is marked. -/
theorem default?_eq_some_iff (h : Lists t cs) : t.default? = some c ↔ c ∈ cs ∧ c.isDefault = true := by
  have hfound : ∀ d ∈ cs, Assoc.find? (Text.lowercase d.name) t.entries = some d :=
    fun d hd => h.keyed.found d (h.commands.mem_iff.2 hd)
  constructor
  · intro hc
    obtain ⟨key, hkey, hentry⟩ := Option.bind_eq_some_iff.1 hc
    obtain ⟨d, hd, hdefault, rfl⟩ := (h.default key).1 hkey
    rw [hfound d hd] at hentry
    cases hentry
    exact ⟨hd, hdefault⟩
  · rintro ⟨hc, hdefault⟩
    rw [default?, (h.default _).2 ⟨c, hc, hdefault, rfl⟩]
    exact hfound c hc

theorem default?_eq_none_iff (h : Lists t cs) : t.default? = none ↔ cs.filter (·.isDefault) = [] := by
  rw [Option.eq_none_iff_forall_ne_some, List.filter_eq_nil_iff]
  exact forall_congr' fun d => by rw [Ne, h.default?_eq_some_iff, not_and]

theorem names_sorted (h : Lists t cs) :
    t.commands.Pairwise fun c d => Text.lowercase c.name < Text.lowercase d.name := by
  unfold CommandTable.commands
  rw [List.pairwise_map]
  refine h.sorted.imp_of_mem fun hd he hlt => ?_
  rwa [← h.keyed.key _ hd, ← h.keyed.key _ he]

/-- A command is refused for what it offends against. -/
theorem add_eq_error_iff (h : Lists t cs) : t.add c = .error e ↔ Offends cs c e := by
  unfold CommandTable.add
  constructor
  · -- the checks come in the order of the offences, and each one is reached if those before it pass
    intro ha
    split at ha
    · next hg =>
      obtain ⟨d, hd⟩ := Option.isSome_iff_exists.1 hg
      obtain ⟨hmem, hname⟩ := h.get?_eq_some_iff.1 hd
      cases ha
      exact .name hmem hname
    · next hg =>
      have hname : ∀ d ∈ cs, Text.lowercase d.name ≠ Text.lowercase c.name :=
        h.get?_eq_none_iff.1 (by simpa using hg)
      split at ha
      · next p hp =>
        obtain ⟨front, behind, hparams, hfront, q, hq, hsame⟩ := repeatedParameter?_nil_eq_some_iff.1 hp
        cases ha
        exact .parameter hname hparams hfront hq hsame
      · next hp =>
        split at ha
        · next hc =>
          split at ha
          · next first hfirst =>
            obtain ⟨hmem, hdefault⟩ := h.default?_eq_some_iff.1 hfirst
            cases ha
            exact .default hname (repeatedParameter?_nil_eq_none_iff.1 hp) hc hmem hdefault
          · cases ha
        · cases ha
  · intro hoffends
    cases hoffends with
    | name hd hname =>
      rw [h.get?_eq_some_iff.2 ⟨hd, hname⟩]
      rfl
    | parameter hname hparams hfront hq hsame =>
      rw [h.get?_eq_none_iff.2 hname,
        repeatedParameter?_nil_eq_some_iff.2 ⟨_, _, hparams, hfront, _, hq, hsame⟩]
      rfl
    | default hname hparams hc hd hdefault =>
      rw [h.get?_eq_none_iff.2 hname, repeatedParameter?_nil_eq_none_iff.2 hparams,
        h.default?_eq_some_iff.2 ⟨hd, hdefault⟩]
      dsimp only
      rw [if_pos hc]
      rfl

/-- What is noted as the default after one more command. -/
theorem default_add (h : Lists t cs) (hdefault : c.isDefault = true → t.default? = none) (key : String) :
    (if c.isDefault then some (Text.lowercase c.name) else t.defaultKey) = some key ↔
      ∃ d ∈ cs ++ [c], d.isDefault = true ∧ Text.lowercase d.name = key := by
  simp only [List.mem_append, List.mem_singleton]
  by_cases hc : c.isDefault = true
  · -- a default is added to a table without one only
    have hnone := List.filter_eq_nil_iff.1 (h.default?_eq_none_iff.1 (hdefault hc))
    rw [if_pos hc, Option.some.injEq]
    constructor
    · exact fun hkey => ⟨c, Or.inr rfl, hc, hkey⟩
    · rintro ⟨d, hd | rfl, hmarked, hkey⟩
      · exact absurd hmarked (hnone d hd)
      · exact hkey
  · rw [if_neg hc, h.default]
    constructor
    · exact fun ⟨d, hd, hmarked⟩ => ⟨d, Or.inl hd, hmarked⟩
    · rintro ⟨d, hd | rfl, hmarked, hkey⟩
      · exact ⟨d, hd, hmarked, hkey⟩
      · exact absurd hmarked hc

/-- A command that is added stands in the table with the others. -/
theorem add (h : Lists t cs) (ha : t.add c = .ok t') : Lists t' (cs ++ [c]) := by
  have hkeyed := h.keyed.add ha
  obtain ⟨hg, hp, hdefault, rfl⟩ := add_eq_ok ha
  refine ⟨hkeyed, ?_, Assoc.sorted_insert h.sorted c, h.default_add hdefault, ?_, ?_, ?_⟩
  · have hperm := (Assoc.insert_perm hg c).map (·.2)
    exact hperm.trans ((h.commands.cons c).trans (List.perm_append_singleton c cs).symm)
  · refine List.pairwise_append.2 ⟨h.consistent.names, List.pairwise_singleton _ _, ?_⟩
    intro d hd c' hc'
    rw [List.mem_singleton.1 hc']
    exact h.get?_eq_none_iff.1 hg d hd
  · rw [List.filter_append, List.length_append]
    by_cases hc : c.isDefault = true
    · -- a default is added to a table without one only
      rw [h.default?_eq_none_iff.1 (hdefault hc), List.filter_cons_of_pos hc]
      exact Nat.le_refl 1
    · rw [List.filter_cons_of_neg hc]
      exact h.consistent.default
  · intro d hd
    rcases List.mem_append.1 hd with hd | hd
    · exact h.consistent.params d hd
    · rw [List.mem_singleton.1 hd]
      exact (repeatedParameter?_eq_none hp).2

/-! ## Adding all commands -/

/-- The command that is refused stands behind commands that are added. -/
theorem exists_offends {rest : List Command} (h : Lists t cs)
    (ha : rest.foldlM CommandTable.add t = .error e) :
    ∃ before c after t', rest = before ++ c :: after ∧ before.foldlM CommandTable.add t = .ok t' ∧
      Offends (cs ++ before) c e := by
  -- on the commands that are still to be added; `cs` are those that the table holds already
  induction rest generalizing t cs with
  | nil => cases ha
  | cons c rest ih =>
    rw [List.foldlM_cons] at ha
    cases hc : t.add c with
    | error e' =>
      rw [hc] at ha
      cases ha
      refine ⟨[], c, rest, t, rfl, rfl, ?_⟩
      rw [List.append_nil]
      exact h.add_eq_error_iff.1 hc
    | ok t1 =>
      rw [hc] at ha
      obtain ⟨before, d, after, t', rfl, hbefore, hd⟩ := ih (h.add hc) ha
      refine ⟨c :: before, d, after, t', rfl, ?_, ?_⟩
      · rw [List.foldlM_cons, hc]
        exact hbefore
      · rwa [List.append_cons]

end Lists

/-! ## Built tables -/

theorem lists_of_build {cs : List Command} {t : CommandTable} (h : build cs = .ok t) : Lists t cs :=
  build_induction Lists.empty (fun ha h => h.add ha) h

theorem exists_offends_of_build {cs : List Command} {e : TableError} (h : build cs = .error e) :
    ∃ before c after, cs = before ++ c :: after ∧ Unoffending before ∧ Offends before c e := by
  obtain ⟨before, c, after, t, hcs, hbefore, hc⟩ := Lists.empty.exists_offends h
  exact ⟨before, c, after, hcs, (lists_of_build hbefore).consistent.unoffending, hc⟩

theorem exists_build_of_unoffending {cs : List Command} (h : Unoffending cs) : ∃ t, build cs = .ok t := by
  cases hb : build cs with
  | ok t => exact ⟨t, rfl⟩
  | error e =>
    obtain ⟨before, c, after, hcs, -, hc⟩ := exists_offends_of_build hb
    exact absurd hc (h before c after e hcs)

/-- **The first offence decides.** A list of commands is a table exactly if no two names are the same, one
command at most is the default and no command has two parameters of the same name. Otherwise the error is
that of the first command that offends against those before it, or in itself. A table that is built holds
each command once, in the order of the lowercase names; a name finds the command that has it in any case,
and the entry that is noted as the default is the command that is marked so. -/
theorem build_by_first_offence (cs : List Command) :
    ((∃ t, build cs = .ok t) ↔ Consistent cs) ∧
      (∀ e, build cs = .error e ↔
        ∃ before c after, cs = before ++ c :: after ∧ Unoffending before ∧ Offends before c e) ∧
      ∀ t, build cs = .ok t →
        (∀ name c, t.get? name = some c ↔ c ∈ cs ∧ Text.lowercase c.name = Text.lowercase name) ∧
        t.commands.Perm cs ∧
        (t.commands.Pairwise fun c d => Text.lowercase c.name < Text.lowercase d.name) ∧
        ∀ c, t.default? = some c ↔ c ∈ cs ∧ c.isDefault = true := by
  refine ⟨⟨?_, ?_⟩, fun e => ⟨exists_offends_of_build, ?_⟩, fun t ht => ?_⟩
  · rintro ⟨t, ht⟩
    exact (lists_of_build ht).consistent
  · exact fun h => exists_build_of_unoffending h.unoffending
  · rintro ⟨before, c, after, rfl, hbefore, hc⟩
    obtain ⟨t, ht⟩ := exists_build_of_unoffending hbefore
    have hadd : t.add c = .error e := (lists_of_build ht).add_eq_error_iff.2 hc
    -- what follows the offence is not looked at
    unfold build at ht ⊢
    rw [List.foldlM_append, ht]
    show List.foldlM CommandTable.add t (c :: after) = .error e
    rw [List.foldlM_cons, hadd]
    rfl
  · have h := lists_of_build ht
    exact ⟨fun _ _ => h.get?_eq_some_iff, h.commands, h.names_sorted, fun _ => h.default?_eq_some_iff⟩

/-- Names are found by their lowercase forms, beyond the letters A to Z; a name that is taken ends the list. -/
theorem build_by_first_offence_size :
    let list : Command := { name := "list", handler := fun _ => ⟨.ok .nothing, none, 0⟩ }
    let size : Command := { list with name := "Größe", isDefault := true }
    let again : Command := { size with name := "LIST", isDefault := true }
    build [size, list, again] = .error (.duplicateCommand "LIST") ∧
      ∃ t, build [size, list] = .ok t ∧ t.get? "GRÖßE" = some size ∧ t.get? "LIST" = some list ∧
        (∀ c, t.get? "GRÖSSE" ≠ some c) ∧ t.default? = some size := by
  intro list size again
  obtain ⟨hsize, hSIZE, hother, hlist, hLIST⟩ :
      Text.lowercase "Größe" = "größe" ∧ Text.lowercase "GRÖßE" = "größe" ∧
        Text.lowercase "GRÖSSE" = "grösse" ∧ Text.lowercase "list" = "list" ∧
        Text.lowercase "LIST" = "list" := by decide +kernel
  have hconsistent : Consistent [size, list] :=
    ⟨by simp [size, list, hsize, hlist], Nat.le_refl 1, by simp [Command.NamesDistinct, size, list]⟩
  obtain ⟨hok, -, hbuilt⟩ := build_by_first_offence [size, list]
  obtain ⟨t, ht⟩ := hok.2 hconsistent
  obtain ⟨hget, -, -, hdefault⟩ := hbuilt t ht
  refine ⟨?_, t, ht, (hget _ _).2 ⟨by simp, hsize.trans hSIZE.symm⟩,
    (hget _ _).2 ⟨by simp, hlist.trans hLIST.symm⟩, fun c hc => ?_, (hdefault _).2 ⟨by simp, rfl⟩⟩
  · refine ((build_by_first_offence [size, list, again]).2.1 _).2
      ⟨[size, list], again, [], rfl, hconsistent.unoffending, .name (d := list) (by simp) ?_⟩
    exact hlist.trans hLIST.symm
  · obtain ⟨hmem, hname⟩ := (hget _ _).1 hc
    rw [hother] at hname
    simp only [List.mem_cons, List.not_mem_nil, or_false] at hmem
    rcases hmem with rfl | rfl
    · exact absurd (hsize.symm.trans hname) (by decide)
    · exact absurd (hlist.symm.trans hname) (by decide)

end CommandTable
end CommandShell
