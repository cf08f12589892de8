import CommandShell.Builtin

/-!
# Tables that were built

A table is built by adding commands one by one. What a command has to have in order to be added,
every command of a built table has: the names of its parameters are distinct in lowercase, so a name
stands for one parameter at most. The names of the commands are distinct too, so a name finds one command.

    build cs = .ok t → c ∈ t.commands → c.NamesDistinct
    build cs = .ok t → (t.get? n = some c ↔ c ∈ t.commands ∧ n is its name in any case)
-/

namespace CommandShell

/-- No two parameters of the command have the same name. -/
def Command.NamesDistinct (c : Command) : Prop :=
  c.params.Pairwise fun p q => Text.sameName p.name q.name = false

/-- Distinct places hold distinct names. -/
theorem Command.NamesDistinct.place_unique {c : Command} (h : c.NamesDistinct) {i j : Nat}
    {p q : Parameter} (hi : c.params[i]? = some p) (hj : c.params[j]? = some q)
    (hn : Text.sameName p.name q.name = true) : i = j := by
  obtain ⟨hi', rfl⟩ := List.getElem?_eq_some_iff.1 hi
  obtain ⟨hj', rfl⟩ := List.getElem?_eq_some_iff.1 hj
  have hp := List.pairwise_iff_getElem.1 h
  rcases Nat.lt_trichotomy i j with hlt | heq | hlt
  · have := hp i j hi' hj' hlt
    rw [hn] at this
    cases this
  · exact heq
  · have := hp j i hj' hi' hlt
    rw [Text.sameName_comm, hn] at this
    cases this

theorem Assoc.mem_insert {α : Type} {key : String} {v : α} {es : List (String × α)} {e : String × α}
    (h : e ∈ Assoc.insert key v es) : e = (key, v) ∨ e ∈ es := by
  induction es with
  | nil => simpa [Assoc.insert] using h
  | cons d rest ih =>
    obtain ⟨k, w⟩ := d
    unfold Assoc.insert at h
    split at h
    · simpa using h
    · split at h
      · rcases List.mem_cons.1 h with h | h
        · exact Or.inl h
        · exact Or.inr (List.mem_cons_of_mem _ h)
      · rcases List.mem_cons.1 h with h | h
        · exact Or.inr (h ▸ List.mem_cons_self)
        · rcases ih h with h | h
          · exact Or.inl h
          · exact Or.inr (List.mem_cons_of_mem _ h)

namespace CommandTable

theorem repeatedParameter?_eq_none {before : List String} {ps : List Parameter}
    (h : repeatedParameter? before ps = none) :
    (∀ n ∈ before, ∀ p ∈ ps, Text.sameName n p.name = false) ∧
      ps.Pairwise fun p q => Text.sameName p.name q.name = false := by
  induction ps generalizing before with
  | nil => simp
  | cons p rest ih =>
    unfold repeatedParameter? at h
    split at h
    · cases h
    · next hb =>
      obtain ⟨h1, h2⟩ := ih h
      have hp : ∀ n ∈ before, Text.sameName n p.name = false := by
        intro n hn
        exact Bool.eq_false_iff.2 fun hc => hb (List.any_eq_true.2 ⟨n, hn, hc⟩)
      refine ⟨?_, List.pairwise_cons.2 ⟨fun q hq => h1 p.name List.mem_cons_self q hq, h2⟩⟩
      intro n hn q hq
      rcases List.mem_cons.1 hq with rfl | hq
      · exact hp n hn
      · exact h1 n (List.mem_cons_of_mem _ hn) q hq

/-- What a command has to have in order to be added, and the table then. -/
theorem add_eq_ok {t t' : CommandTable} {c : Command} (h : t.add c = .ok t') :
    t.get? c.name = none ∧ repeatedParameter? [] c.params = none ∧
      (c.isDefault = true → t.default? = none) ∧
      t' = ⟨Assoc.insert (Text.lowercase c.name) c t.entries,
        if c.isDefault then some (Text.lowercase c.name) else t.defaultKey⟩ := by
  unfold add at h
  split at h
  · cases h
  · next hg =>
    have hg' : t.get? c.name = none := by simpa using hg
    split at h
    · cases h
    · next hr =>
      by_cases hc : c.isDefault = true
      · rw [if_pos hc] at h ⊢
        split at h
        · cases h
        · next hd =>
          cases h
          exact ⟨hg', hr, fun _ => hd, rfl⟩
      · rw [if_neg hc] at h ⊢
        cases h
        exact ⟨hg', hr, fun hd => absurd hd hc, rfl⟩

theorem mem_commands_add {t t' : CommandTable} {c d : Command} (h : t.add c = .ok t')
    (hd : d ∈ t'.commands) : d = c ∨ d ∈ t.commands := by
  obtain ⟨-, -, -, rfl⟩ := add_eq_ok h
  obtain ⟨e, he, rfl⟩ := List.mem_map.1 hd
  rcases Assoc.mem_insert he with rfl | he
  · exact Or.inl rfl
  · exact Or.inr (List.mem_map.2 ⟨e, he, rfl⟩)

theorem namesDistinct_of_add {t t' : CommandTable} {c : Command} (h : t.add c = .ok t') :
    c.NamesDistinct :=
  (repeatedParameter?_eq_none (add_eq_ok h).2.1).2

/-- What holds of the empty table, and of the table and the commands added so far whenever one more is
added, holds of the built table and all commands. -/
theorem build_induction {I : CommandTable → List Command → Prop} (hempty : I {} [])
    (hadd : ∀ {t t' : CommandTable} {cs : List Command} {c : Command}, t.add c = .ok t' → I t cs →
      I t' (cs ++ [c])) {cs : List Command} {t : CommandTable} (h : build cs = .ok t) : I t cs := by
  suffices hrest : ∀ (rest added : List Command) (t' : CommandTable), rest.foldlM add t' = .ok t →
      I t' added → I t (added ++ rest) from hrest cs [] {} h hempty
  intro rest
  induction rest with
  | nil =>
    intro added t' h ht
    cases h
    rwa [List.append_nil]
  | cons c rest ih =>
    intro added t' h ht
    rw [List.foldlM_cons] at h
    cases ha : t'.add c with
    | error e =>
      rw [ha] at h
      cases h
    | ok t1 =>
      rw [ha] at h
      rw [List.append_cons]
      exact ih _ t1 h (hadd ha ht)

theorem namesDistinct_of_build {cs : List Command} {t : CommandTable} (h : build cs = .ok t)
    {c : Command} (hc : c ∈ t.commands) : c.NamesDistinct := by
  refine build_induction (I := fun t _ => ∀ c ∈ t.commands, c.NamesDistinct) (by simp [commands])
    (fun ha ht d hd => ?_) h c hc
  rcases mem_commands_add ha hd with rfl | hd
  · exact namesDistinct_of_add ha
  · exact ht d hd

/-! ## Looking up names -/

/-- Every command stands under its own name in lowercase, and is the one that is found there. -/
structure Keyed (t : CommandTable) : Prop where
  key : ∀ e ∈ t.entries, e.1 = Text.lowercase e.2.name
  found : ∀ c ∈ t.commands, t.get? c.name = some c

theorem keyed_empty : Keyed {} :=
  ⟨by simp, by simp [commands]⟩

theorem Keyed.add {t t' : CommandTable} {c : Command} (h : t.add c = .ok t') (ht : t.Keyed) : t'.Keyed := by
  have hmem := fun d => mem_commands_add (d := d) h
  obtain ⟨hnew, -, -, rfl⟩ := add_eq_ok h
  refine ⟨fun e he => ?_, fun d hd => ?_⟩
  · rcases Assoc.mem_insert he with rfl | he
    · rfl
    · exact ht.key e he
  · rcases hmem d hd with rfl | hd
    · exact Assoc.find?_insert_self _ _ _
    · -- the name of the new command found nothing, that of the old one finds it
      have hne : Text.lowercase d.name ≠ Text.lowercase c.name := by
        intro he
        have hold := ht.found d hd
        rw [get?, he] at hold
        rw [get?, hold] at hnew
        cases hnew
      exact (Assoc.find?_insert_of_ne hne c t.entries).trans (ht.found d hd)

theorem keyed_of_build {cs : List Command} {t : CommandTable} (h : build cs = .ok t) : t.Keyed :=
  build_induction (I := fun t _ => t.Keyed) keyed_empty Keyed.add h

/-- A name finds the command of that name, in any case. -/
theorem Keyed.get?_eq_some_iff {t : CommandTable} (ht : t.Keyed) {name : String} {c : Command} :
    t.get? name = some c ↔ c ∈ t.commands ∧ Text.lowercase name = Text.lowercase c.name := by
  constructor
  · intro h
    have hmem := Assoc.mem_of_find? h
    exact ⟨List.mem_map.2 ⟨_, hmem, rfl⟩, ht.key _ hmem⟩
  · rintro ⟨hc, hname⟩
    rw [← ht.found c hc, get?, get?, hname]

end CommandTable

/-! ## The built-in table -/

namespace Builtin

/-- The built-in commands by name, in the order of their names. -/
theorem build_commands_eq :
    CommandTable.build commands = .ok ⟨[("connect", connect), ("echo", echo), ("exit", exit), ("help", help),
      ("history", history), ("sleep", sleep), ("users", users)], none⟩ := rfl

theorem table_eq :
    table = ⟨[("connect", connect), ("echo", echo), ("exit", exit), ("help", help), ("history", history),
      ("sleep", sleep), ("users", users)], none⟩ := by
  unfold table
  rw [build_commands_eq]

theorem build_commands : CommandTable.build commands = .ok table := by
  rw [build_commands_eq, table_eq]

theorem commands_table : table.commands = [connect, echo, exit, help, history, sleep, users] := by
  rw [table_eq]
  rfl

theorem connect_mem : connect ∈ table.commands := by
  rw [commands_table]
  exact List.mem_cons_self

end Builtin

end CommandShell
