import CommandShell.Proofs.Token.Layout

/-!
# Where a token begins

A text awaits a token if a new one begins at its end. A field that is written there is the next token,
unless it comes first in its line: behind a comment sign nothing is a token, and what opens with such a
sign or a blank is none as it stands. The text in front of the last token of any line awaits it.

    Awaits front tokens → tokenize (front ++ token ++ " ") = .ok (tokens ++ [token])   if tokens ≠ []
-/

namespace CommandShell

open Token

/-! ## Lines by their bodies -/

section
variable {line : String} {tokens : List String}

theorem tokenize_of_bodyOf {cs : List Char} {fs : List (List Char)} (h : BodyOf line.toList cs)
    (hi : isIgnored cs = false) (hf : fields? cs = some fs) :
    tokenize line = .ok (fs.map String.ofList) := by
  unfold tokenize
  rw [← h.eq_body, if_neg (by rw [hi]; exact Bool.false_ne_true), hf]

theorem tokenize_of_isIgnored {cs : List Char} (h : BodyOf line.toList cs) (hi : isIgnored cs = true) :
    tokenize line = .ok [] := by
  unfold tokenize
  rw [← h.eq_body, if_pos hi]

/-- A line is split because its body is ignored, or into the fields of its body. -/
theorem tokenize_eq_ok (h : tokenize line = .ok tokens) :
    (isIgnored (body line) = true ∧ tokens = []) ∨
      (isIgnored (body line) = false ∧
        ∃ fs, fields? (body line) = some fs ∧ tokens = fs.map String.ofList) := by
  unfold tokenize at h
  split at h
  · next hi =>
    cases h
    exact Or.inl ⟨hi, rfl⟩
  · next hi =>
    split at h
    · next fs hf =>
      cases h
      exact Or.inr ⟨by simpa using hi, fs, hf, rfl⟩
    · cases h

/-- The first token of a line starts as the body of the line does. -/
theorem head?_body_of_tokenize {token : String} (h : tokenize line = .ok (token :: tokens)) :
    (body line).head? = token.toList.head? ∧
      ∀ c ∈ token.toList.head?, c ≠ '#' ∧ Text.isBlank c = false := by
  have hbegins := (bodyOf_body line).begins
  rcases tokenize_eq_ok h with ⟨-, hnil⟩ | ⟨hi, fs, hf, hfs⟩
  · cases hnil
  have hspace : (body line).head? ≠ some ' ' := by
    intro he
    have := hbegins ' ' he
    rw [Text.isBlank_space] at this
    cases this
  obtain ⟨ps, hps⟩ := exists_layout_of_fields? hspace hf
  rw [hps.fields?_eq] at hf
  cases hf
  cases ps with
  | nil => cases hfs
  | cons p ps =>
    obtain ⟨rest, hcut, hp, -, -⟩ := layout_cons_iff.1 hps
    obtain ⟨rfl, -⟩ := List.cons.inj hfs
    have hhead : (body line).head? = p.field.head? := by
      obtain ⟨c, s, hc, -⟩ := hp.exists_cons
      rw [hcut, Piece.text, hc]
      rfl
    rw [String.toList_ofList, ← hhead]
    refine ⟨rfl, fun c hc => ⟨?_, hbegins c hc⟩⟩
    cases hb : body line with
    | nil =>
      rw [hb] at hc
      cases hc
    | cons d rest =>
      rw [hb] at hi hc
      cases hc
      simpa [isIgnored] using hi

end

/-- Fields that are found in a text with a space at its end are closed. -/
theorem Token.front_of_fields? {cs : List Char} {fs : List (List Char)} (hf : fields? cs = some fs)
    (hspace : ∀ c ∈ cs.getLast?, c = ' ') : Front cs fs := by
  obtain ⟨front, gs, tail, rfl, hfront, htail⟩ := exists_front cs
  rw [fields?_front_append hfront] at hf
  rcases htail with rfl | htail | htail
  · rw [fields?, Option.map_some, List.append_nil] at hf
    cases hf
    rwa [List.append_nil]
  · obtain ⟨c, s, hc, -⟩ := htail.exists_cons
    have hlast : tail.getLast? = some (tail.getLast (by rw [hc]; exact List.cons_ne_nil c s)) :=
      List.getLast?_eq_some_getLast _
    have hend := hspace _ (by rw [List.getLast?_append, hlast]; rfl)
    rw [hend] at hlast
    exact absurd hlast htail.getLast?_ne
  · rw [fields?_of_openField htail] at hf
    cases hf

/-! ## Texts that await a token -/

/-- A new token begins at the end of the text, behind the tokens that it holds. -/
def Awaits (front : String) (tokens : List String) : Prop :=
  tokenizePartial front = (tokens, true)

section
variable {front : String} {tokens : List String}

theorem endsInSpace_iff {line : String} :
    endsInSpace line = true ↔ ∀ c ∈ line.toList.getLast?, c = ' ' := by
  unfold endsInSpace
  cases line.toList.getLast? with
  | none => simp
  | some c => simp [isSpace]

theorem awaits_iff : Awaits front tokens ↔ tokenize front = .ok tokens ∧ endsInSpace front = true := by
  unfold Awaits tokenizePartial
  cases tokenize front with
  | ok ts => simp
  | error f =>
    dsimp only
    split <;> simp

theorem awaits_nil : Awaits "" [] :=
  awaits_iff.2 ⟨rfl, rfl⟩

/-- A text that awaits a token is blank, or a comment, or a front of fields behind blanks. -/
theorem Awaits.exists_body (h : Awaits front tokens) :
    ∃ blanks cs, front.toList = blanks ++ cs ∧ (∀ c ∈ blanks, Text.isBlank c = true) ∧
      (∀ c ∈ cs.head?, Text.isBlank c = false) ∧
      ((cs = [] ∧ tokens = []) ∨ (cs.head? = some '#' ∧ tokens = []) ∨
        (isIgnored cs = false ∧ ∃ fs, Front cs fs ∧ tokens = fs.map String.ofList)) := by
  obtain ⟨htokens, hspace⟩ := awaits_iff.1 h
  rw [endsInSpace_iff] at hspace
  obtain ⟨⟨blanks, ends, hcut, hblanks, hends, -⟩, hbegins⟩ := bodyOf_body front
  have hnil : ends = [] := by
    rcases List.eq_nil_or_concat ends with hnil | ⟨ends', c, rfl⟩
    · exact hnil
    · have hc : c = ' ' := hspace c (by rw [hcut, List.concat_eq_append, ← List.append_assoc]; simp)
      rw [hc] at hends
      exact absurd (hends ' ' (by simp)) (by decide)
  rw [hnil, List.append_nil] at hcut
  refine ⟨blanks, body front, hcut, hblanks, hbegins, ?_⟩
  rcases tokenize_eq_ok htokens with ⟨hi, rfl⟩ | ⟨hi, fs, hf, rfl⟩
  · cases hb : body front with
    | nil => exact Or.inl ⟨rfl, rfl⟩
    | cons c rest =>
      rw [hb] at hi
      have hc : c = '#' := by simpa [isIgnored] using hi
      exact Or.inr (Or.inl ⟨by rw [hc]; rfl, rfl⟩)
  · refine Or.inr (Or.inr ⟨hi, fs, front_of_fields? hf fun c hc => hspace c ?_, rfl⟩)
    rw [hcut, List.getLast?_append, hc]
    rfl

/-- The body of a text that does not end in a line end. -/
theorem bodyOf_concat {line : String} {blanks cs : List Char} {d e : Char}
    (hline : line.toList = blanks ++ cs ++ [e]) (hblanks : ∀ c ∈ blanks, Text.isBlank c = true)
    (hd : cs.head? = some d) (hblank : Text.isBlank d = false) (he : e ≠ '\r' ∧ e ≠ '\n') :
    BodyOf line.toList (cs ++ [e]) := by
  rw [hline, List.append_assoc]
  refine ⟨⟨blanks, [], by rw [List.append_nil], hblanks, by simp, fun c hc => ?_⟩, fun c hc => ?_⟩
  · rw [← List.append_assoc, List.getLast?_concat] at hc
    cases hc
    exact he
  · rw [List.head?_append, hd] at hc
    cases hc
    exact hblank

theorem Token.Front.text_ne_nil {cs : List Char} {fs : List (List Char)} (h : Front cs fs) (hfs : fs ≠ []) :
    cs ≠ [] := by
  cases h with
  | nil => exact absurd rfl hfs
  | space _ => exact List.cons_ne_nil _ _
  | field _ _ => simp

theorem front_ne_nil {cs : List Char} {fs : List (List Char)} {d : Char} (h : Front cs fs)
    (hd : cs.head? = some d) (hblank : Text.isBlank d = false) : fs ≠ [] := by
  cases h with
  | nil => cases hd
  | space _ =>
    cases hd
    rw [Text.isBlank_space] at hblank
    cases hblank
  | field _ _ => exact List.cons_ne_nil _ _

/-! ## A token behind a text -/

section
variable {token : String} {blanks cs : List Char}

theorem toList_concat_space (front token : String) :
    (front ++ token ++ " ").toList = front.toList ++ token.toList ++ [' '] := by
  simp

/-- On a blank line a field becomes the first token. -/
theorem tokenize_concat_of_blank (hblanks : ∀ c ∈ front.toList, Text.isBlank c = true)
    (ht : IsField token.toList) (hbegins : ∀ c ∈ token.toList.head?, c ≠ '#' ∧ Text.isBlank c = false) :
    tokenize (front ++ token ++ " ") = .ok [token] := by
  obtain ⟨d, s, hd, -⟩ := ht.exists_cons
  have hhead : token.toList.head? = some d := by rw [hd]; rfl
  obtain ⟨hne, hblank⟩ := hbegins d hhead
  have hbody := bodyOf_concat (toList_concat_space front token) hblanks hhead hblank (by decide)
  have hi : isIgnored (token.toList ++ [' ']) = false := by
    rw [hd]
    simpa [isIgnored] using hne
  rw [tokenize_of_bodyOf hbody hi (fields?_of_front (.field ht .nil))]
  simp

/-- A comment stays one. -/
theorem tokenize_concat_of_comment (hcut : front.toList = blanks ++ cs)
    (hblanks : ∀ c ∈ blanks, Text.isBlank c = true) (hcomment : cs.head? = some '#') :
    tokenize (front ++ token ++ " ") = .ok [] := by
  have hline : (front ++ token ++ " ").toList = blanks ++ (cs ++ token.toList) ++ [' '] := by
    rw [toList_concat_space, hcut, List.append_assoc blanks]
  have hbody := bodyOf_concat hline hblanks (by rw [List.head?_append, hcomment]; rfl) (by decide) (by decide)
  refine tokenize_of_isIgnored hbody ?_
  obtain ⟨rest, rfl⟩ := List.head?_eq_some_iff.1 hcomment
  rfl

/-- Behind closed fields, a field is one more. -/
theorem tokenize_concat_of_front {fs : List (List Char)} {d : Char} (hcut : front.toList = blanks ++ cs)
    (hblanks : ∀ c ∈ blanks, Text.isBlank c = true) (hd : cs.head? = some d)
    (hblank : Text.isBlank d = false) (hi : isIgnored cs = false) (hfront : Front cs fs)
    (ht : IsField token.toList) :
    tokenize (front ++ token ++ " ") = .ok (fs.map String.ofList ++ [token]) := by
  have hline : (front ++ token ++ " ").toList = blanks ++ (cs ++ token.toList) ++ [' '] := by
    rw [toList_concat_space, hcut, List.append_assoc blanks]
  have hbody := bodyOf_concat hline hblanks (by rw [List.head?_append, hd]; rfl) hblank (by decide)
  have hi' : isIgnored (cs ++ token.toList ++ [' ']) = false := by
    obtain ⟨rest, rfl⟩ := List.head?_eq_some_iff.1 hd
    exact hi
  rw [List.append_assoc] at hbody hi'
  rw [tokenize_of_bodyOf hbody hi' (fields?_of_front (hfront.append (.field ht .nil)))]
  simp

end

/-- **A field behind a text that awaits a token is the next token**, unless it comes first and the line is
a comment, or the field opens with a comment sign or a blank. -/
theorem Awaits.tokenize_concat_iff (h : Awaits front tokens) {token : String} (ht : IsField token.toList) :
    tokenize (front ++ token ++ " ") = .ok (tokens ++ [token]) ↔
      (tokens = [] → (∀ c ∈ front.toList, Text.isBlank c = true) ∧
        ∀ c ∈ token.toList.head?, c ≠ '#' ∧ Text.isBlank c = false) := by
  obtain ⟨blanks, cs, hcut, hblanks, hbegins, ⟨rfl, rfl⟩ | ⟨hcomment, rfl⟩ | ⟨hi, fs, hfront, rfl⟩⟩ :=
    h.exists_body
  · -- the line is blank so far: the token begins its body
    rw [List.append_nil] at hcut
    rw [← hcut] at hblanks
    exact ⟨fun hok _ => ⟨hblanks, (head?_body_of_tokenize hok).2⟩,
      fun hboth => tokenize_concat_of_blank hblanks ht (hboth rfl).2⟩
  · rw [tokenize_concat_of_comment hcut hblanks hcomment]
    refine iff_of_false (by simp) fun hboth => ?_
    have := (hboth rfl).1 '#' (by rw [hcut]; exact List.mem_append_right _ (List.mem_of_mem_head? hcomment))
    exact absurd this (by decide)
  · cases hd : cs.head? with
    | none =>
      rw [List.head?_eq_none_iff] at hd
      rw [hd] at hi
      cases hi
    | some d =>
      have hblank := hbegins d hd
      exact iff_of_true (tokenize_concat_of_front hcut hblanks hd hblank hi hfront ht) fun hnil =>
        absurd (List.map_eq_nil_iff.1 hnil) (front_ne_nil hfront hd hblank)

/-! ## The text in front of the last token -/

theorem Token.Front.exists_dropLast {cs : List Char} {fs : List (List Char)} (h : Front cs fs) :
    ∃ cs', cs' <+: cs ∧ Front cs' fs.dropLast := by
  induction h with
  | nil => exact ⟨[], List.nil_prefix, .nil⟩
  | space _ ih =>
    obtain ⟨cs', hpre, hfront⟩ := ih
    exact ⟨' ' :: cs', List.prefix_cons_inj .. |>.2 hpre, .space hfront⟩
  | @field f cs fs hf _ ih =>
    obtain ⟨cs', hpre, hfront⟩ := ih
    by_cases hfs : fs = []
    · rw [hfs]
      exact ⟨[], List.nil_prefix, .nil⟩
    · rw [List.dropLast_cons_of_ne_nil hfs]
      exact ⟨f ++ ' ' :: cs', (List.prefix_append_right_inj f).2 ((List.prefix_cons_inj ' ').2 hpre),
        .field hf hfront⟩

theorem Token.exists_front_dropLast {cs : List Char} {fs : List (List Char)} (h : fields? cs = some fs) :
    ∃ cs', cs' <+: cs ∧ Front cs' fs.dropLast := by
  obtain ⟨front, gs, tail, rfl, hfront, htail⟩ := exists_front cs
  rw [fields?_front_append hfront] at h
  rcases htail with rfl | htail | htail
  · obtain ⟨cs', hpre, hfront'⟩ := hfront.exists_dropLast
    rw [fields?, Option.map_some, List.append_nil] at h
    cases h
    exact ⟨cs', hpre.trans (List.prefix_append _ _), hfront'⟩
  · rw [fields?_of_isField htail, Option.map_some] at h
    cases h
    rw [List.dropLast_concat]
    exact ⟨front, List.prefix_append _ _, hfront⟩
  · rw [fields?_of_openField htail] at h
    cases h

/-- Closed fields behind blanks await a token. -/
theorem awaits_of_front {blanks cs : List Char} {fs : List (List Char)} {d : Char}
    (hblanks : ∀ c ∈ blanks, Text.isBlank c = true) (hd : cs.head? = some d) (hcomment : d ≠ '#')
    (hblank : Text.isBlank d = false) (hf : Front cs fs) :
    Awaits (String.ofList (blanks ++ cs)) (fs.map String.ofList) := by
  rcases hf.eq_nil_or_concat with rfl | ⟨cs', rfl⟩
  · cases hd
  have hd' : cs'.head? = some d := by
    cases cs' with
    | nil =>
      cases hd
      rw [Text.isBlank_space] at hblank
      cases hblank
    | cons e rest => exact hd
  have hline : (String.ofList (blanks ++ (cs' ++ [' ']))).toList = blanks ++ cs' ++ [' '] := by
    rw [String.toList_ofList, List.append_assoc]
  have hi : isIgnored (cs' ++ [' ']) = false := by
    obtain ⟨rest, rfl⟩ := List.head?_eq_some_iff.1 hd'
    simpa [isIgnored] using hcomment
  refine awaits_iff.2
    ⟨tokenize_of_bodyOf (bodyOf_concat hline hblanks hd' hblank (by decide)) hi (fields?_of_front hf), ?_⟩
  rw [endsInSpace_iff, hline, List.getLast?_concat]
  exact fun c hc => (Option.some.inj hc).symm

theorem exists_awaits_of_tokenize {line : String} (h : tokenize line = .ok tokens) :
    ∃ front, front.toList <+: line.toList ∧ Awaits front tokens.dropLast := by
  by_cases hnil : tokens.dropLast = []
  · rw [hnil]
    exact ⟨"", List.nil_prefix, awaits_nil⟩
  rcases tokenize_eq_ok h with ⟨-, rfl⟩ | ⟨hi, fs, hf, rfl⟩
  · exact absurd rfl hnil
  rw [← List.map_dropLast] at hnil ⊢
  obtain ⟨cs', hpre, hfront⟩ := exists_front_dropLast hf
  obtain ⟨⟨blanks, ends, hcut, hblanks, -, -⟩, hbegins⟩ := bodyOf_body line
  have hline : blanks ++ cs' <+: line.toList := by
    rw [hcut, List.append_assoc]
    exact (List.prefix_append_right_inj blanks).2 (hpre.trans (List.prefix_append _ _))
  cases cs' with
  | nil => exact absurd rfl (hfront.text_ne_nil fun he => hnil (List.map_eq_nil_iff.2 he))
  | cons d rest =>
    obtain ⟨after, hbody⟩ := hpre
    rw [← hbody] at hi hbegins
    refine ⟨String.ofList (blanks ++ d :: rest), by rwa [String.toList_ofList],
      awaits_of_front hblanks rfl ?_ (hbegins d rfl) hfront⟩
    simpa [isIgnored] using hi

/-- The text in front of the token that is still typed awaits it. -/
theorem exists_awaits_of_tokenizePartial {line : String} (h : tokenizePartial line = (tokens, false)) :
    ∃ front, front.toList <+: line.toList ∧ Awaits front tokens.dropLast := by
  unfold tokenizePartial at h
  split at h
  · next ts hline =>
    obtain ⟨rfl, -⟩ := Prod.mk.inj h
    exact exists_awaits_of_tokenize hline
  · split at h
    · next ts hclosed =>
      cases h
      -- the quote that closes the line is not part of the front, which ends in a space
      obtain ⟨front, hpre, hfront⟩ := exists_awaits_of_tokenize hclosed
      refine ⟨front, ?_, hfront⟩
      rw [String.toList_append, show "\"".toList = ['"'] from rfl, List.prefix_concat_iff] at hpre
      rcases hpre with hall | hpre
      · have hspace := endsInSpace_iff.1 (awaits_iff.1 hfront).2 '"' (by rw [hall, List.getLast?_concat]; rfl)
        exact absurd hspace (by decide)
      · exact hpre
    · cases h
      exact ⟨"", List.nil_prefix, awaits_nil⟩

end

end CommandShell
