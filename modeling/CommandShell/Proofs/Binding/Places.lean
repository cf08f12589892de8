import CommandShell.Binding
import CommandShell.Proofs.BuiltTable

/-!
# Places of parameters

The two searches of binding, said without a search: which parameter a flag names, and which one a
token that is no flag goes to.

    c.flagTarget? name = some (p, i)  ↔  p stands at i, is visible and has the name
    s.firstOpen? c = some (p, i)      ↔  p stands at i, is visible and free, and no such place is before i

The second search starts from a cursor. All places in front of it are injected or taken, so it finds what a
search from the first place does.
-/

namespace CommandShell

namespace Command

/-- The flag names the visible parameter `p` at the place `i`. -/
structure FlagNames (c : Command) (flag : String) (i : Nat) (p : Parameter) : Prop where
  flag_isFlag : isFlag flag = true
  stands : c.params[i]? = some p
  visible : p.isInjected = false
  sameName : Text.sameName p.name (flagName flag) = true

/-- The parameter `p` at the place `i` is the first one that is visible and not among `taken`. -/
structure FirstOpen (c : Command) (taken : List Nat) (i : Nat) (p : Parameter) : Prop where
  stands : c.params[i]? = some p
  visible : p.isInjected = false
  free : i ∉ taken
  first : ∀ j q, j < i → c.params[j]? = some q → q.isInjected = false → j ∈ taken

theorem FlagNames.unique {c : Command} (hd : c.NamesDistinct) {flag : String} {i j : Nat}
    {p q : Parameter} (hp : c.FlagNames flag i p) (hq : c.FlagNames flag j q) : i = j ∧ p = q := by
  have hn : Text.sameName p.name q.name = true := by
    rw [Text.sameName_iff, Text.sameName_iff.1 hp.sameName, Text.sameName_iff.1 hq.sameName]
  have hij : i = j := hd.place_unique hp.stands hq.stands hn
  refine ⟨hij, ?_⟩
  have h := hp.stands
  rw [hij, hq.stands] at h
  exact (Option.some.inj h).symm

theorem FirstOpen.unique {c : Command} {taken : List Nat} {i j : Nat} {p q : Parameter}
    (hp : c.FirstOpen taken i p) (hq : c.FirstOpen taken j q) : i = j := by
  rcases Nat.lt_trichotomy i j with hlt | heq | hlt
  · exact absurd (hq.first i p hlt hp.stands hp.visible) hp.free
  · exact heq
  · exact absurd (hp.first j q hlt hq.stands hq.visible) hq.free

/-! ## Searches -/

theorem find?_places_eq_some_iff {c : Command} {f : Parameter × Nat → Bool} {p : Parameter} {i : Nat} :
    c.places.find? f = some (p, i) ↔
      c.params[i]? = some p ∧ f (p, i) = true ∧
        ∀ j q, j < i → c.params[j]? = some q → f (q, j) = false := by
  unfold places
  rw [List.find?_eq_some_iff_getElem]
  constructor
  · rintro ⟨hf, k, hk, he, hb⟩
    rw [List.getElem_zipIdx, Nat.zero_add] at he
    obtain ⟨rfl, rfl⟩ := Prod.mk.inj he
    rw [List.length_zipIdx] at hk
    refine ⟨List.getElem?_eq_getElem hk, hf, fun j q hj hq => ?_⟩
    obtain ⟨hj', rfl⟩ := List.getElem?_eq_some_iff.1 hq
    have := hb j hj
    rw [List.getElem_zipIdx, Nat.zero_add] at this
    simpa using this
  · rintro ⟨hp, hf, hb⟩
    obtain ⟨hi, rfl⟩ := List.getElem?_eq_some_iff.1 hp
    refine ⟨hf, i, by rwa [List.length_zipIdx], by rw [List.getElem_zipIdx, Nat.zero_add], ?_⟩
    intro j hj
    rw [List.getElem_zipIdx, Nat.zero_add, hb j _ hj (List.getElem?_eq_getElem (by omega))]
    rfl

/-- The name of a built command's parameter finds no other parameter first. -/
theorem flagTarget?_eq_some_iff {c : Command} (hd : c.NamesDistinct) {flag : String}
    (hf : isFlag flag = true) {p : Parameter} {i : Nat} :
    c.flagTarget? (flagName flag) = some (p, i) ↔ c.FlagNames flag i p := by
  unfold flagTarget?
  rw [Option.filter_eq_some_iff, find?_places_eq_some_iff]
  constructor
  · rintro ⟨⟨hp, hn, -⟩, hv⟩
    exact ⟨hf, hp, by simpa using hv, hn⟩
  · intro h
    refine ⟨⟨h.stands, h.sameName, fun j q hj hq => ?_⟩, by simp [h.visible]⟩
    refine Bool.eq_false_iff.2 fun hn => ?_
    have hs : Text.sameName q.name p.name = true := by
      rw [Text.sameName_iff, Text.sameName_iff.1 hn, Text.sameName_iff.1 h.sameName]
    have := hd.place_unique hq h.stands hs
    omega

theorem mem_places_of_flagTarget? {c : Command} {name : String} {p : Parameter} {i : Nat}
    (h : c.flagTarget? name = some (p, i)) : (p, i) ∈ c.places :=
  List.mem_of_find?_eq_some (Option.filter_eq_some_iff.1 h).1

theorem lt_length_of_mem_places {c : Command} {p : Parameter} {i : Nat} (h : (p, i) ∈ c.places) :
    i < c.params.length := by
  obtain ⟨-, hi, -⟩ := List.mem_zipIdx h
  omega

/-- A search for the first visible place that a test does not hold of. -/
theorem find?_open_eq_some_iff {c : Command} {used : Nat → Bool} {taken : List Nat}
    (hu : ∀ j, used j = true ↔ j ∈ taken) {p : Parameter} {i : Nat} :
    (c.places.find? fun t => !t.1.isInjected && !used t.2) = some (p, i) ↔ c.FirstOpen taken i p := by
  have hfree : ∀ j, used j = false ↔ j ∉ taken := fun j => by rw [← hu j, Bool.not_eq_true]
  rw [find?_places_eq_some_iff]
  constructor
  · rintro ⟨hp, hf, hb⟩
    simp only [Bool.and_eq_true, Bool.not_eq_true'] at hf
    refine ⟨hp, hf.1, (hfree i).1 hf.2, fun j q hj hq hv => (hu j).1 ?_⟩
    simpa [hv] using hb j q hj hq
  · intro h
    refine ⟨h.stands, by simp [h.visible, (hfree i).2 h.free], fun j q hj hq => ?_⟩
    cases hv : q.isInjected with
    | true => rfl
    | false => simp [(hu j).2 (h.first j q hj hq hv)]

/-! ## The cursor -/

section
variable {c : Command} {taken taken' : Nat → Bool} {cursor : Nat}

/-- All places in front of the cursor are injected or taken. -/
def Passed (c : Command) (taken : Nat → Bool) (cursor : Nat) : Prop :=
  ∀ i p, i < cursor → c.params[i]? = some p → p.isInjected = true ∨ taken i = true

theorem passed_zero : c.Passed taken 0 :=
  fun _ _ hi => absurd hi (Nat.not_lt_zero _)

theorem Passed.mono (h : c.Passed taken cursor) (hmore : ∀ i, taken i = true → taken' i = true) :
    c.Passed taken' cursor :=
  fun i p hi hp => (h i p hi hp).imp_right (hmore i)

/-- The search from the cursor on finds what the search from the first place does. -/
theorem Passed.openFrom?_eq (h : c.Passed taken cursor) :
    c.openFrom? taken cursor = c.places.find? fun t => !t.1.isInjected && !taken t.2 := by
  have hfront : (c.places.take cursor).find? (fun t => !t.1.isInjected && !taken t.2) = none := by
    rw [List.find?_eq_none]
    intro t ht
    obtain ⟨i, hi, rfl⟩ := List.getElem_of_mem ht
    rw [List.length_take, places, List.length_zipIdx] at hi
    simp only [places, List.getElem_take, List.getElem_zipIdx, Nat.zero_add]
    rcases h i _ (by omega) (List.getElem?_eq_getElem (by omega)) with hin | htaken
    · simp [hin]
    · simp [htaken]
  rw [← List.take_append_drop cursor c.places, List.find?_append, hfront, Option.none_or]
  rfl

/-- Behind the place that is found, all places in front are injected or taken once it is taken too. -/
theorem Passed.next (h : c.Passed taken cursor) {p : Parameter} {i : Nat}
    (hopen : c.openFrom? taken cursor = some (p, i)) (hmore : ∀ j, taken j = true → taken' j = true)
    (hi : taken' i = true) : c.Passed taken' (i + 1) := by
  rw [h.openFrom?_eq, find?_places_eq_some_iff] at hopen
  intro j q hj hq
  rcases Nat.lt_succ_iff_lt_or_eq.1 hj with hlt | rfl
  · cases hv : q.isInjected with
    | true => exact Or.inl rfl
    | false => exact Or.inr (hmore j (by simpa [hv] using hopen.2.2 j q hlt hq))
  · exact Or.inr hi

/-- Where nothing is found, no place at all is open. -/
theorem Passed.all (h : c.Passed taken cursor) (hnone : c.openFrom? taken cursor = none) :
    c.Passed taken c.params.length := by
  rw [h.openFrom?_eq, List.find?_eq_none] at hnone
  intro i p _ hp
  have hclosed := hnone (p, i) (List.mk_mem_zipIdx_iff_getElem?.2 hp)
  cases hv : p.isInjected with
  | true => exact Or.inl rfl
  | false => exact Or.inr (by simpa [hv] using hclosed)

end

end Command

/-! ## Slots -/

namespace Slots

/-- The first visible parameter that is not bound, with its place. -/
def firstOpen? (c : Command) (s : Slots) : Option (Parameter × Nat) :=
  c.places.find? fun t => !t.1.isInjected && !s.isBound t.2

/-- Exactly the parameters at the places in `taken` are bound. -/
def Taken (s : Slots) (taken : List Nat) : Prop :=
  ∀ i, s.isBound i = true ↔ i ∈ taken

theorem taken_start (c : Command) : (Slots.start c).Taken [] := by
  intro i
  unfold start isBound
  rw [List.getElem?_map]
  cases c.params[i]? <;> simp

theorem Taken.set {s : Slots} {taken : List Nat} (h : s.Taken taken) {i : Nat} (hi : i < s.length)
    (v : Value) : Slots.Taken (s.set i (some v)) (taken ++ [i]) := by
  intro j
  rw [List.mem_append, List.mem_singleton, ← h j]
  unfold isBound
  by_cases hj : j = i
  · subst hj
    simp [List.getElem?_set_self hi]
  · simp [List.getElem?_set_ne (Ne.symm hj), hj]

theorem isBound_set {s : Slots} {i : Nat} (v : Value) {j : Nat} (h : s.isBound j = true) :
    Slots.isBound (s.set i (some v)) j = true := by
  unfold isBound at h ⊢
  rw [List.getElem?_set]
  by_cases hj : i = j
  · subst hj
    cases hs : s[i]? with
    | none => simp [hs] at h
    | some w => simp [(List.getElem?_eq_some_iff.1 hs).1]
  · rwa [if_neg hj]

theorem isBound_set_self {s : Slots} {i : Nat} (v : Value) (h : i < s.length) :
    Slots.isBound (s.set i (some v)) i = true := by
  unfold isBound
  rw [List.getElem?_set_self h]
  rfl

theorem firstOpen?_eq_some_iff {c : Command} {s : Slots} {taken : List Nat} (h : s.Taken taken)
    {p : Parameter} {i : Nat} : s.firstOpen? c = some (p, i) ↔ c.FirstOpen taken i p :=
  Command.find?_open_eq_some_iff h

end Slots
end CommandShell
