import CommandShell.Proofs.Token.Partial

/-!
# Layouts of a line

A layout writes a text as fields with runs of spaces between them, and perhaps spaces at its end. A
text has at most one layout; a line is split exactly if its body has one, and its tokens are the
fields of the layout as they stand.

    Layout cs ps               →  fields? cs = some (ps.map Piece.field)
    tokenize line = .ok tokens  ↔  tokens are the fields of a layout of body line
-/

namespace CommandShell

namespace Token

/-! ## Layouts -/

/-- A field and the number of spaces behind it. -/
structure Piece where
  field : List Char
  gap : Nat

def Piece.text (p : Piece) : List Char :=
  p.field ++ List.replicate p.gap ' '

/-- The text is the fields in order, with spaces behind all of them but perhaps the last. -/
structure Layout (cs : List Char) (ps : List Piece) : Prop where
  cut : cs = ps.flatMap Piece.text
  fields : ∀ p ∈ ps, IsField p.field
  apart : ∀ p ∈ ps.dropLast, 0 < p.gap

theorem layout_nil_iff {cs : List Char} : Layout cs [] ↔ cs = [] := by
  constructor
  · intro h
    exact h.cut
  · rintro rfl
    exact ⟨rfl, by simp, by simp⟩

theorem layout_cons_iff {cs : List Char} {p : Piece} {ps : List Piece} :
    Layout cs (p :: ps) ↔
      ∃ rest, cs = p.text ++ rest ∧ IsField p.field ∧ (ps ≠ [] → 0 < p.gap) ∧ Layout rest ps := by
  constructor
  · rintro ⟨hcut, hfields, hapart⟩
    refine ⟨ps.flatMap Piece.text, by rw [hcut, List.flatMap_cons], hfields p List.mem_cons_self,
      fun hne => hapart p ?_, rfl, fun q hq => hfields q (List.mem_cons_of_mem _ hq),
      fun q hq => hapart q ?_⟩
    · rw [List.dropLast_cons_of_ne_nil hne]
      exact List.mem_cons_self
    · have hne : ps ≠ [] := by
        rintro rfl
        cases hq
      rw [List.dropLast_cons_of_ne_nil hne]
      exact List.mem_cons_of_mem _ hq
  · rintro ⟨rest, rfl, hp, hgap, hcut, hfields, hapart⟩
    refine ⟨by rw [List.flatMap_cons, hcut], fun q hq => ?_, fun q hq => ?_⟩
    · rcases List.mem_cons.1 hq with rfl | hq
      · exact hp
      · exact hfields q hq
    · have hne : ps ≠ [] := by
        rintro rfl
        cases hq
      rw [List.dropLast_cons_of_ne_nil hne] at hq
      rcases List.mem_cons.1 hq with rfl | hq
      · exact hgap hne
      · exact hapart q hq

/-- A layout starts with no space. -/
theorem Layout.head?_ne {cs : List Char} {ps : List Piece} (h : Layout cs ps) : cs.head? ≠ some ' ' := by
  cases ps with
  | nil =>
    rw [layout_nil_iff.1 h]
    exact fun he => by cases he
  | cons p ps =>
    obtain ⟨rest, rfl, hp, -, -⟩ := layout_cons_iff.1 h
    obtain ⟨c, s, hc, hne⟩ := hp.exists_cons
    unfold Piece.text
    rw [hc]
    exact fun he => hne (Option.some.inj he)

/-- A field of a layout may end where its spaces begin. -/
theorem Layout.boundary {rest : List Char} {ps : List Piece} {gap : Nat} (h : Layout rest ps)
    (hgap : ps ≠ [] → 0 < gap) : Boundary (List.replicate gap ' ' ++ rest) := by
  intro c hc
  cases gap with
  | succ n => exact (Option.some.inj hc).symm
  | zero =>
    cases ps with
    | nil =>
      rw [layout_nil_iff.1 h] at hc
      cases hc
    | cons p ps => exact absurd (hgap (List.cons_ne_nil p ps)) (Nat.lt_irrefl 0)

theorem replicate_append_inj {α : Type} {a : α} {m n : Nat} {xs ys : List α}
    (h : List.replicate m a ++ xs = List.replicate n a ++ ys) (hx : xs.head? ≠ some a)
    (hy : ys.head? ≠ some a) : m = n ∧ xs = ys := by
  induction m generalizing n with
  | zero =>
    cases n with
    | zero => exact ⟨rfl, h⟩
    | succ n => exact absurd (by rw [show xs = _ from h]; rfl) hx
  | succ m ih =>
    cases n with
    | zero => exact absurd (by rw [← show _ = ys from h]; rfl) hy
    | succ n =>
      obtain ⟨rfl, hxy⟩ := ih (List.cons.inj h).2
      exact ⟨rfl, hxy⟩

/-- **A text has at most one layout.** -/
theorem Layout.unique {cs : List Char} {ps ps' : List Piece} (h : Layout cs ps) (h' : Layout cs ps') :
    ps = ps' := by
  induction ps generalizing cs ps' with
  | nil =>
    cases ps' with
    | nil => rfl
    | cons p' ps' =>
      obtain ⟨rest, hcut, hp, -, -⟩ := layout_cons_iff.1 h'
      obtain ⟨c, s, hc, -⟩ := hp.exists_cons
      rw [layout_nil_iff.1 h, Piece.text, hc] at hcut
      cases hcut
  | cons p ps ih =>
    obtain ⟨rest, rfl, hp, hgap, hrest⟩ := layout_cons_iff.1 h
    cases ps' with
    | nil =>
      obtain ⟨c, s, hc, -⟩ := hp.exists_cons
      have hcut := layout_nil_iff.1 h'
      rw [Piece.text, hc] at hcut
      cases hcut
    | cons p' ps' =>
      obtain ⟨rest', hcut, hp', hgap', hrest'⟩ := layout_cons_iff.1 h'
      unfold Piece.text at hcut
      rw [List.append_assoc, List.append_assoc] at hcut
      -- both layouts begin with the one field that stands in front
      have hfront := field?_append hp (hrest.boundary hgap)
      rw [hcut, field?_append hp' (hrest'.boundary hgap')] at hfront
      obtain ⟨hfield, hafter⟩ := Prod.mk.inj (Option.some.inj hfront)
      obtain ⟨hgaps, rfl⟩ := replicate_append_inj hafter hrest'.head?_ne hrest.head?_ne
      have hpp : p = p' := by
        cases p
        cases p'
        cases hfield
        cases hgaps
        rfl
      rw [hpp, ih hrest hrest']

/-! ## The fields of a layout -/

theorem fields?_replicate_append (n : Nat) (cs : List Char) :
    fields? (List.replicate n ' ' ++ cs) = fields? cs := by
  induction n with
  | zero => rfl
  | succ n ih => rw [List.replicate_succ, List.cons_append, fields?_space, ih]

theorem Layout.fields?_eq {cs : List Char} {ps : List Piece} (h : Layout cs ps) :
    fields? cs = some (ps.map Piece.field) := by
  induction ps generalizing cs with
  | nil =>
    rw [layout_nil_iff.1 h, fields?]
    rfl
  | cons p ps ih =>
    obtain ⟨rest, rfl, hp, hgap, hrest⟩ := layout_cons_iff.1 h
    rw [Piece.text, List.append_assoc, fields?_append hp (hrest.boundary hgap),
      fields?_replicate_append, ih hrest]
    rfl

/-- A front is spaces, and then a layout with a space behind each of its fields. -/
theorem Front.exists_layout {cs : List Char} {fs : List (List Char)} (h : Front cs fs) :
    ∃ (n : Nat) (ps : List Piece), cs = List.replicate n ' ' ++ ps.flatMap Piece.text ∧
      (∀ p ∈ ps, IsField p.field) ∧ ∀ p ∈ ps, 0 < p.gap := by
  induction h with
  | nil => exact ⟨0, [], rfl, by simp, by simp⟩
  | space _ ih =>
    obtain ⟨n, ps, rfl, hfields, hgaps⟩ := ih
    exact ⟨n + 1, ps, rfl, hfields, hgaps⟩
  | @field f cs fs hf _ ih =>
    obtain ⟨n, ps, rfl, hfields, hgaps⟩ := ih
    refine ⟨0, ⟨f, n + 1⟩ :: ps, ?_, ?_, ?_⟩
    · rw [List.flatMap_cons, Piece.text, List.append_assoc]
      rfl
    · rw [List.forall_mem_cons]
      exact ⟨hf, hfields⟩
    · rw [List.forall_mem_cons]
      exact ⟨Nat.succ_pos n, hgaps⟩

/-- Fields that are found in a text lay it out. -/
theorem exists_layout_of_fields? {cs : List Char} {fs : List (List Char)} (hcs : cs.head? ≠ some ' ')
    (h : fields? cs = some fs) : ∃ ps, Layout cs ps := by
  obtain ⟨front, gs, tail, rfl, hfront, htail⟩ := exists_front cs
  obtain ⟨n, ps, rfl, hfields, hgaps⟩ := hfront.exists_layout
  cases n with
  | succ n => exact absurd rfl hcs
  | zero =>
    rcases htail with rfl | htail | htail
    · refine ⟨ps, by simp, hfields, fun p hp => hgaps p (List.dropLast_subset _ hp)⟩
    · refine ⟨ps ++ [⟨tail, 0⟩], by simp [Piece.text], ?_, ?_⟩
      · rw [List.forall_mem_append]
        exact ⟨hfields, by simpa using htail⟩
      · rw [List.dropLast_concat]
        exact hgaps
    · rw [fields?_front_append hfront, fields?_of_openField htail] at h
      cases h

/-- A text is laid out and gives the fields of its layout, or it has no layout and no fields. -/
theorem layout_or_fields?_eq_none {cs : List Char} (hcs : cs.head? ≠ some ' ') :
    (∃ ps, Layout cs ps ∧ fields? cs = some (ps.map Piece.field)) ∨
      ((¬∃ ps, Layout cs ps) ∧ fields? cs = none) := by
  cases hf : fields? cs with
  | none =>
    refine Or.inr ⟨fun ⟨ps, hps⟩ => ?_, rfl⟩
    rw [hps.fields?_eq] at hf
    cases hf
  | some fs =>
    obtain ⟨ps, hps⟩ := exists_layout_of_fields? hcs hf
    exact Or.inl ⟨ps, hps, hf.symm.trans hps.fields?_eq⟩

/-! ## The body of a line -/

/-- The text is the line without the line ends at its end and the blanks at its start. -/
structure BodyOf (line cs : List Char) : Prop where
  cut : ∃ blanks ends, line = blanks ++ cs ++ ends ∧ (∀ c ∈ blanks, Text.isBlank c = true) ∧
    (∀ c ∈ ends, c = '\r' ∨ c = '\n') ∧ ∀ c ∈ (blanks ++ cs).getLast?, c ≠ '\r' ∧ c ≠ '\n'
  begins : ∀ c ∈ cs.head?, Text.isBlank c = false

theorem exists_dropTrailing (p : Char → Bool) (cs : List Char) :
    ∃ ends, cs = Text.dropTrailing p cs ++ ends ∧ (∀ c ∈ ends, p c = true) ∧
      ∀ c ∈ (Text.dropTrailing p cs).getLast?, p c = false := by
  refine ⟨(cs.reverse.takeWhile p).reverse, ?_, fun c hc => ?_, fun c hc => ?_⟩
  · unfold Text.dropTrailing
    rw [← List.reverse_append, List.takeWhile_append_dropWhile, List.reverse_reverse]
  · exact List.all_eq_true.1 List.all_takeWhile c (List.mem_reverse.1 hc)
  · unfold Text.dropTrailing at hc
    rw [List.getLast?_reverse] at hc
    have := List.head?_dropWhile_not p cs.reverse
    rw [hc] at this
    simpa using this

theorem dropTrailing_append {p : Char → Bool} {cs ends : List Char} (hends : ∀ c ∈ ends, p c = true)
    (hcs : ∀ c ∈ cs.getLast?, p c = false) : Text.dropTrailing p (cs ++ ends) = cs := by
  have h := dropTrailing_eq_self hcs
  unfold Text.dropTrailing at h ⊢
  rw [List.reverse_append, List.dropWhile_append_of_pos, h]
  intro c hc
  exact hends c (List.mem_reverse.1 hc)

theorem bodyOf_body (line : String) : BodyOf line.toList (body line) := by
  obtain ⟨ends, hcut, hends, hlast⟩ :=
    exists_dropTrailing (fun c => c == '\r' || c == '\n') line.toList
  unfold body Text.dropBlanks
  generalize Text.dropTrailing (fun c => c == '\r' || c == '\n') line.toList = kept at hcut hlast
  refine ⟨⟨kept.takeWhile Text.isBlank, ends, ?_, List.all_eq_true.1 List.all_takeWhile, ?_, ?_⟩, ?_⟩
  · rw [List.takeWhile_append_dropWhile, hcut]
  · intro c hc
    simpa using hends c hc
  · rw [List.takeWhile_append_dropWhile]
    intro c hc
    simpa using hlast c hc
  · intro c hc
    have := List.head?_dropWhile_not Text.isBlank kept
    rw [hc] at this
    simpa using this

/-- A line has one body. -/
theorem BodyOf.eq_body {line : String} {cs : List Char} (h : BodyOf line.toList cs) : cs = body line := by
  obtain ⟨⟨blanks, ends, hline, hblanks, hends, hlast⟩, hbegins⟩ := h
  have hkept : Text.dropTrailing (fun c => c == '\r' || c == '\n') line.toList = blanks ++ cs := by
    rw [hline]
    refine dropTrailing_append (fun c hc => ?_) fun c hc => ?_
    · simpa using hends c hc
    · simpa using hlast c hc
  unfold body Text.dropBlanks
  rw [hkept, List.dropWhile_append_of_pos hblanks]
  cases cs with
  | nil => rfl
  | cons c cs =>
    rw [List.dropWhile_cons_of_neg]
    rw [hbegins c rfl]
    exact Bool.false_ne_true

/-- A body is ignored if it is blank or a comment. -/
theorem BodyOf.isIgnored_iff {line cs : List Char} (h : BodyOf line cs) :
    isIgnored cs = true ↔ (∀ c ∈ cs, Text.isBlank c = true) ∨ cs.head? = some '#' := by
  cases cs with
  | nil => simp [isIgnored]
  | cons c cs =>
    have hc : Text.isBlank c = false := h.begins c rfl
    simp [isIgnored, hc]

end Token

open Token

/-! ## Tokens of a line -/

/-- **A line is split by the layout of its body.** The body of a line that is blank or a comment has no
tokens. Any other one has at most one layout; its tokens are the fields of that, and without one a quote
stays open. -/
theorem tokenize_by_layout (line : String) :
    (∃ cs, BodyOf line.toList cs) ∧ ∀ cs, BodyOf line.toList cs →
      ((∀ c ∈ cs, Text.isBlank c = true) ∨ cs.head? = some '#' → tokenize line = .ok []) ∧
      (¬((∀ c ∈ cs, Text.isBlank c = true) ∨ cs.head? = some '#') →
        (∀ tokens, tokenize line = .ok tokens ↔
          ∃ ps, Layout cs ps ∧ tokens = ps.map fun p => String.ofList p.field) ∧
        (∀ ps ps', Layout cs ps → Layout cs ps' → ps = ps') ∧
        (∀ f, tokenize line = .error f ↔ f = .malformed "unclosed quotes" ∧ ¬∃ ps, Layout cs ps)) := by
  refine ⟨⟨body line, bodyOf_body line⟩, fun cs hbody => ?_⟩
  rw [← hbody.isIgnored_iff]
  obtain rfl := hbody.eq_body
  unfold tokenize
  refine ⟨fun hi => if_pos hi, fun hi => ?_⟩
  rw [if_neg hi]
  have hspace : (body line).head? ≠ some ' ' := by
    intro he
    have := hbody.begins ' ' he
    rw [Text.isBlank_space] at this
    cases this
  rcases layout_or_fields?_eq_none hspace with ⟨ps, hps, hf⟩ | ⟨hno, hf⟩
  · rw [hf]
    refine ⟨fun tokens => ⟨fun h => ?_, ?_⟩, fun ps ps' => Layout.unique, fun f => ⟨fun h => ?_, ?_⟩⟩
    · cases h
      exact ⟨ps, hps, List.map_map⟩
    · rintro ⟨ps', hps', rfl⟩
      rw [hps'.unique hps]
      exact congrArg Except.ok List.map_map
    · cases h
    · rintro ⟨-, hno⟩
      exact absurd ⟨ps, hps⟩ hno
  · rw [hf]
    refine ⟨fun tokens => ⟨fun h => ?_, ?_⟩, fun ps ps' => Layout.unique, fun f => ⟨fun h => ?_, ?_⟩⟩
    · cases h
    · rintro ⟨ps, hps, -⟩
      exact absurd ⟨ps, hps⟩ hno
    · cases h
      exact ⟨rfl, hno⟩
    · rintro ⟨rfl, -⟩
      rfl

end CommandShell
