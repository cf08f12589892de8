import CommandShell.Token

/-!
# Fields of a text

The grammar that a line is split by. A text is a front of closed fields, each with a space behind it,
and what stands behind that space: nothing, a field, or a field whose quote is still open.

    Front front fs   →  fields? (front ++ rest) = (fields? rest).map (fs ++ ·)
    IsField f        →  fields? f = some [f]
    OpenField f      →  fields? f = none, and f with a quote at its end is a field
-/

namespace CommandShell.Token

/-! ## Grammar -/

/-- The inside of a quoted field: no quotes but doubled ones. -/
inductive Inside : List Char → Prop
  | nil : Inside []
  | char {c : Char} {q : List Char} : c ≠ '"' → Inside q → Inside (c :: q)
  | doubled {q : List Char} : Inside q → Inside ('"' :: '"' :: q)

/-- A field: characters that are no spaces, the first no quote; or a quoted text, with such characters
glued to its closing quote. -/
inductive IsField : List Char → Prop
  | plain {c : Char} {s : List Char} : c ≠ '"' → ' ' ∉ c :: s → IsField (c :: s)
  | quoted {q s : List Char} : Inside q → ' ' ∉ s → s.head? ≠ some '"' →
    IsField ('"' :: (q ++ '"' :: s))

/-- A field whose quote is still open. -/
inductive OpenField : List Char → Prop
  | mk {q : List Char} : Inside q → OpenField ('"' :: q)

/-- A text of closed fields: behind each of them stands a space. -/
inductive Front : List Char → List (List Char) → Prop
  | nil : Front [] []
  | space {cs : List Char} {fs : List (List Char)} : Front cs fs → Front (' ' :: cs) fs
  | field {f cs : List Char} {fs : List (List Char)} : IsField f → Front cs fs →
    Front (f ++ ' ' :: cs) (f :: fs)

/-- A field may end in front of the text. -/
def Boundary (rest : List Char) : Prop :=
  ∀ c ∈ rest.head?, c = ' '

theorem isSpace_eq_false {c : Char} (h : c ≠ ' ') : isSpace c = false := by
  unfold isSpace
  simpa using h

theorem IsField.exists_cons {f : List Char} (h : IsField f) : ∃ c s, f = c :: s ∧ c ≠ ' ' := by
  cases h with
  | @plain c s hc hs => exact ⟨c, s, rfl, fun h => hs (by rw [h]; exact List.mem_cons_self)⟩
  | @quoted q s hq hs hh => exact ⟨'"', q ++ '"' :: s, rfl, by decide⟩

/-- The quote that closes an open field makes it a field. -/
theorem OpenField.closed {f : List Char} (h : OpenField f) : IsField (f ++ ['"']) := by
  obtain ⟨hq⟩ := h
  exact .quoted hq (by simp) (by simp)

/-! ## Quoted texts -/

theorem quoted?_append {q rest : List Char} (h : Inside q) (hrest : rest.head? ≠ some '"') :
    quoted? (q ++ '"' :: rest) = some (q ++ ['"'], rest) := by
  induction h with
  | nil =>
    rw [List.nil_append, quoted?]
    · rfl
    · rintro r rfl
      exact hrest rfl
  | @char c q hc hq ih =>
    rw [List.cons_append, quoted?, ih]
    · rfl
    · exact fun _ h => absurd h hc
    · exact hc
  | @doubled q hq ih =>
    rw [List.cons_append, List.cons_append, quoted?, ih]
    rfl

theorem quoted?_of_inside {q : List Char} (h : Inside q) : quoted? q = none := by
  induction h with
  | nil => rfl
  | @char c q hc hq ih =>
    rw [quoted?, ih]
    · rfl
    · exact fun _ h => absurd h hc
    · exact hc
  | @doubled q hq ih =>
    rw [quoted?, ih]
    rfl

/-- A text has no closing quote, or one that ends an inside. -/
theorem inside_or_exists_closing (cs : List Char) :
    Inside cs ∨ ∃ q rest, cs = q ++ '"' :: rest ∧ Inside q ∧ rest.head? ≠ some '"' := by
  fun_induction quoted? cs with
  | case1 => exact Or.inl .nil
  | case2 r ih =>
    rcases ih with h | ⟨q, rest, rfl, hq, hrest⟩
    · exact Or.inl (.doubled h)
    · exact Or.inr ⟨'"' :: '"' :: q, rest, rfl, .doubled hq, hrest⟩
  | case3 r hr =>
    refine Or.inr ⟨[], r, rfl, .nil, fun h => ?_⟩
    cases r with
    | nil => cases h
    | cons d r => exact hr r (by rw [Option.some.inj h])
  | case4 c r _ hc ih =>
    have hne : c ≠ '"' := fun h => hc h
    rcases ih with h | ⟨q, rest, rfl, hq, hrest⟩
    · exact Or.inl (.char hne h)
    · exact Or.inr ⟨c :: q, rest, rfl, .char hne hq, hrest⟩

/-- The inside up to a space is an inside: a space does not stand between two doubled quotes. -/
theorem Inside.of_append_space {pre post : List Char} (h : Inside (pre ++ ' ' :: post)) : Inside pre := by
  generalize he : pre ++ ' ' :: post = q at h
  induction h generalizing pre with
  | nil => simp at he
  | @char c q hc hq ih =>
    cases pre with
    | nil => exact .nil
    | cons d pre =>
      obtain ⟨rfl, hq'⟩ := List.cons.inj he
      exact .char hc (ih hq')
  | @doubled q hq ih =>
    match pre with
    | [] => exact absurd (List.cons.inj he).1 (by decide)
    | [d] => exact absurd (List.cons.inj (List.cons.inj he).2).1 (by decide)
    | d :: e :: pre =>
      obtain ⟨rfl, he'⟩ := List.cons.inj he
      obtain ⟨rfl, hq'⟩ := List.cons.inj he'
      exact .doubled (ih hq')

/-! ## One field -/

theorem word_append {s rest : List Char} (hs : ' ' ∉ s) (hrest : Boundary rest) :
    word (s ++ rest) = (s, rest) := by
  have hall : ∀ c ∈ s, (!isSpace c) = true := by
    intro c hc
    have hne : c ≠ ' ' := by
      rintro rfl
      exact hs hc
    rw [isSpace_eq_false hne]
    rfl
  unfold word
  rw [List.takeWhile_append_of_pos hall, List.dropWhile_append_of_pos hall]
  cases rest with
  | nil => simp
  | cons c rest =>
    obtain rfl : c = ' ' := hrest c rfl
    rw [List.takeWhile_cons_of_neg (by decide), List.dropWhile_cons_of_neg (by decide), List.append_nil]

theorem exists_word (cs : List Char) : ∃ s rest, cs = s ++ rest ∧ ' ' ∉ s ∧ Boundary rest := by
  induction cs with
  | nil => exact ⟨[], [], rfl, List.not_mem_nil, by intro c hc; cases hc⟩
  | cons c cs ih =>
    by_cases hc : c = ' '
    · refine ⟨[], c :: cs, rfl, List.not_mem_nil, fun d hd => ?_⟩
      rw [← hc]
      exact (Option.some.inj hd).symm
    · obtain ⟨s, rest, rfl, hs, hrest⟩ := ih
      exact ⟨c :: s, rest, rfl, by simp [hs, Ne.symm hc], hrest⟩

theorem field?_append {f rest : List Char} (h : IsField f) (hrest : Boundary rest) :
    field? (f ++ rest) = some (f, rest) := by
  cases h with
  | @plain c s hc hs =>
    rw [List.cons_append, field?, ← List.cons_append, word_append hs hrest]
    exact fun _ h => hc (List.cons.inj h).1
  | @quoted q s hq hs hh =>
    have hne : (s ++ rest).head? ≠ some '"' := by
      cases s with
      | nil =>
        intro he
        rw [List.nil_append] at he
        exact absurd (hrest '"' he) (by decide)
      | cons d s => exact hh
    rw [List.cons_append, List.append_assoc, List.cons_append, field?, quoted?_append hq hne]
    dsimp only [Option.map_some]
    rw [word_append hs hrest, List.append_assoc]
    rfl

theorem field?_of_openField {f : List Char} (h : OpenField f) : field? f = none := by
  obtain ⟨hq⟩ := h
  rw [field?, quoted?_of_inside hq]
  rfl

/-- A text that starts with no space starts with a field, or is an open one. -/
theorem openField_or_exists_field {c : Char} {cs : List Char} (hc : c ≠ ' ') :
    OpenField (c :: cs) ∨ ∃ f rest, c :: cs = f ++ rest ∧ IsField f ∧ Boundary rest := by
  by_cases hq : c = '"'
  · subst hq
    rcases inside_or_exists_closing cs with h | ⟨q, after, rfl, hq, hafter⟩
    · exact Or.inl ⟨h⟩
    · obtain ⟨s, rest, rfl, hs, hrest⟩ := exists_word after
      refine Or.inr ⟨'"' :: (q ++ '"' :: s), rest, by simp, .quoted hq hs fun he => ?_, hrest⟩
      rw [List.head?_append, he] at hafter
      exact hafter rfl
  · obtain ⟨s, rest, rfl, hs, hrest⟩ := exists_word cs
    exact Or.inr ⟨c :: s, rest, rfl, .plain hq (by simp [hs, Ne.symm hc]), hrest⟩

/-! ## All fields -/

theorem fields?_space (cs : List Char) : fields? (' ' :: cs) = fields? cs := by
  rw [fields?, dif_pos (by decide)]

theorem fields?_append {f rest : List Char} (h : IsField f) (hrest : Boundary rest) :
    fields? (f ++ rest) = (fields? rest).map (f :: ·) := by
  have hf := field?_append h hrest
  obtain ⟨c, s, rfl, hc⟩ := h.exists_cons
  rw [List.cons_append] at hf ⊢
  rw [fields?, dif_neg (by rw [isSpace_eq_false hc]; exact Bool.false_ne_true)]
  split
  · next he =>
    rw [hf] at he
    cases he
  · next f' rest' he =>
    rw [hf] at he
    cases he
    rfl

theorem fields?_of_isField {f : List Char} (h : IsField f) : fields? f = some [f] := by
  have hend : Boundary [] := by
    intro c hc
    cases hc
  have := fields?_append h hend
  rw [List.append_nil, fields?] at this
  exact this

theorem fields?_of_openField {f : List Char} (h : OpenField f) : fields? f = none := by
  have hf := field?_of_openField h
  obtain ⟨hq⟩ := h
  rw [fields?, dif_neg (by decide)]
  split
  · rfl
  · next he =>
    rw [hf] at he
    cases he

/-- The fields of a front are the first ones of the text. -/
theorem fields?_front_append {cs : List Char} {fs : List (List Char)} (h : Front cs fs)
    (rest : List Char) : fields? (cs ++ rest) = (fields? rest).map (fs ++ ·) := by
  induction h with
  | nil => simp
  | space _ ih => rw [List.cons_append, fields?_space, ih]
  | @field f cs fs hf _ ih =>
    rw [List.append_assoc, List.cons_append, fields?_append hf, fields?_space, ih, Option.map_map]
    · rfl
    · rintro c hc
      exact (Option.some.inj hc).symm

theorem fields?_of_front {cs : List Char} {fs : List (List Char)} (h : Front cs fs) :
    fields? cs = some fs := by
  have := fields?_front_append h []
  rwa [List.append_nil, fields?, Option.map_some, List.append_nil] at this

/-- A front behind a front. -/
theorem Front.append {cs ds : List Char} {fs gs : List (List Char)} (h : Front cs fs) (h' : Front ds gs) :
    Front (cs ++ ds) (fs ++ gs) := by
  induction h with
  | nil => exact h'
  | space _ ih => exact .space ih
  | @field f cs fs hf _ ih =>
    rw [List.append_assoc, List.cons_append, List.cons_append]
    exact .field hf ih

/-- **Every text is a front**, and behind it nothing, a field or an open field. -/
theorem exists_front (cs : List Char) :
    ∃ front fs tail, cs = front ++ tail ∧ Front front fs ∧
      (tail = [] ∨ IsField tail ∨ OpenField tail) := by
  -- a step takes a space, or a field and the space behind it
  induction hn : cs.length using Nat.strongRecOn generalizing cs with
  | ind n ih =>
    cases cs with
    | nil => exact ⟨[], [], [], rfl, .nil, Or.inl rfl⟩
    | cons c cs =>
      rw [List.length_cons] at hn
      by_cases hc : c = ' '
      · subst hc
        obtain ⟨front, fs, tail, rfl, hfront, htail⟩ := ih cs.length (by omega) cs rfl
        exact ⟨' ' :: front, fs, tail, rfl, .space hfront, htail⟩
      rcases openField_or_exists_field hc with hopen | ⟨f, rest, he, hf, hrest⟩
      · exact ⟨[], [], c :: cs, rfl, .nil, Or.inr (Or.inr hopen)⟩
      cases rest with
      | nil => exact ⟨[], [], c :: cs, rfl, .nil, Or.inr (Or.inl (by rwa [he, List.append_nil]))⟩
      | cons d rest =>
        obtain rfl : d = ' ' := hrest d rfl
        have hlen : rest.length < n := by
          have := congrArg List.length he
          rw [List.length_append, List.length_cons, List.length_cons] at this
          omega
        obtain ⟨front, fs, tail, rfl, hfront, htail⟩ := ih rest.length hlen rest rfl
        exact ⟨f ++ ' ' :: front, f :: fs, tail, by simp [he], .field hf hfront, htail⟩

/-- A front is empty or ends in a space. -/
theorem Front.eq_nil_or_concat {cs : List Char} {fs : List (List Char)} (h : Front cs fs) :
    cs = [] ∨ ∃ cs', cs = cs' ++ [' '] := by
  induction h with
  | nil => exact Or.inl rfl
  | @space cs fs _ ih =>
    rcases ih with rfl | ⟨cs', rfl⟩
    · exact Or.inr ⟨[], rfl⟩
    · exact Or.inr ⟨' ' :: cs', rfl⟩
  | @field f cs fs _ _ ih =>
    rcases ih with rfl | ⟨cs', rfl⟩
    · exact Or.inr ⟨f, rfl⟩
    · exact Or.inr ⟨f ++ ' ' :: cs', by simp⟩

/-- A field does not end in a space. -/
theorem IsField.getLast?_ne {f : List Char} (h : IsField f) : f.getLast? ≠ some ' ' := by
  intro he
  cases h with
  | @plain c s hc hs => exact hs (List.mem_of_getLast? he)
  | @quoted q s hq hs hh =>
    rw [← List.cons_append, List.getLast?_append, List.getLast?_cons] at he
    cases hlast : s.getLast? with
    | none => simp [hlast] at he
    | some d =>
      rw [hlast] at he
      have hd : d = ' ' := by simpa using he
      exact hs (List.mem_of_getLast? (hd ▸ hlast))

end CommandShell.Token
