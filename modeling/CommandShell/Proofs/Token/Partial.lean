import CommandShell.Proofs.Token.Fields

/-!
# Tokens of a text that is still typed

A text that starts with no comment and no blank but spaces, and that ends in no line end, is split
as it stands. What stands behind its front decides how its tokens end.

    front           →  the fields of the front; a new token begins
    front, field    →  the fields of the front, then the field
    front, open     →  the fields of the front, then the open field with a quote at its end
-/

namespace CommandShell

open Token

/-- A text that is split as it stands. -/
structure Verbatim (cs : List Char) : Prop where
  begins : ∀ c ∈ (cs.dropWhile isSpace).head?, c ≠ '#' ∧ Text.isBlank c = false
  ends : ∀ c ∈ cs.getLast?, c ≠ '\r' ∧ c ≠ '\n'

/-! ## Lemmas -/

theorem verbatim_of_ends {cs : List Char} {c d : Char} (hc : (cs.dropWhile isSpace).head? = some c)
    (hd : cs.getLast? = some d) (hbegin : c ≠ '#' ∧ Text.isBlank c = false)
    (hend : d ≠ '\r' ∧ d ≠ '\n') : Verbatim cs := by
  refine ⟨fun x hx => ?_, fun x hx => ?_⟩
  · obtain rfl : x = c := Option.some.inj (hx.symm.trans hc)
    exact hbegin
  · obtain rfl : x = d := Option.some.inj (hx.symm.trans hd)
    exact hend

theorem dropBlanks_eq_dropWhile_isSpace {cs : List Char}
    (h : ∀ c ∈ (cs.dropWhile isSpace).head?, c ≠ '#' ∧ Text.isBlank c = false) :
    Text.dropBlanks cs = cs.dropWhile isSpace := by
  unfold Text.dropBlanks
  induction cs with
  | nil => rfl
  | cons c cs ih =>
    by_cases hc : c = ' '
    · subst hc
      rw [List.dropWhile_cons_of_pos (by rfl)] at h
      rw [List.dropWhile_cons_of_pos Text.isBlank_space, List.dropWhile_cons_of_pos (by rfl), ih h]
    · have hs : ¬isSpace c = true := by rw [isSpace_eq_false hc]; exact Bool.false_ne_true
      rw [List.dropWhile_cons_of_neg hs] at h ⊢
      rw [List.dropWhile_cons_of_neg]
      rw [(h c rfl).2]
      exact Bool.false_ne_true

theorem dropTrailing_eq_self {p : Char → Bool} {cs : List Char} (h : ∀ c ∈ cs.getLast?, p c = false) :
    Text.dropTrailing p cs = cs := by
  unfold Text.dropTrailing
  rcases List.eq_nil_or_concat cs with rfl | ⟨cs', c, rfl⟩
  · rfl
  · have hc : p c = false := h c (by simp)
    rw [List.concat_eq_append, List.reverse_append, List.reverse_singleton, List.singleton_append,
      List.dropWhile_cons_of_neg (by rw [hc]; exact Bool.false_ne_true)]
    simp

theorem fields?_dropWhile_isSpace (cs : List Char) : fields? (cs.dropWhile isSpace) = fields? cs := by
  induction cs with
  | nil => rfl
  | cons c cs ih =>
    by_cases hc : c = ' '
    · subst hc
      rw [List.dropWhile_cons_of_pos (by rfl), ih, fields?_space]
    · rw [List.dropWhile_cons_of_neg]
      rw [isSpace_eq_false hc]
      exact Bool.false_ne_true

theorem Verbatim.body_eq {cs : List Char} (h : Verbatim cs) :
    body (String.ofList cs) = cs.dropWhile isSpace := by
  unfold body
  rw [String.toList_ofList, dropTrailing_eq_self, dropBlanks_eq_dropWhile_isSpace h.begins]
  intro c hc
  obtain ⟨hr, hn⟩ := h.ends c hc
  simp [hr, hn]

theorem Verbatim.tokenize_eq {cs : List Char} (h : Verbatim cs) :
    tokenize (String.ofList cs) =
      match fields? cs with
      | some fs => .ok (fs.map String.ofList)
      | none => .error (.malformed "unclosed quotes") := by
  unfold tokenize
  rw [h.body_eq, fields?_dropWhile_isSpace]
  cases hd : cs.dropWhile isSpace with
  | nil =>
    have hf : fields? cs = some [] := by rw [← fields?_dropWhile_isSpace, hd, fields?]
    rw [hf]
    rfl
  | cons c rest =>
    obtain ⟨hc, -⟩ := h.begins c (by rw [hd]; rfl)
    have hi : ¬isIgnored (c :: rest) = true := by
      unfold isIgnored
      simpa using hc
    cases fields? cs with
    | none => exact if_neg hi
    | some fs => exact if_neg hi

/-- The quote that closes a text is no line end. -/
theorem Verbatim.quote {cs : List Char} (h : Verbatim cs) : Verbatim (cs ++ ['"']) := by
  refine ⟨fun c hc => ?_, fun c hc => ?_⟩
  · rw [List.dropWhile_append] at hc
    split at hc
    · obtain rfl : c = '"' := (Option.some.inj hc).symm
      exact ⟨by decide, Text.isBlank_quote⟩
    · next hne =>
      refine h.begins c ?_
      cases hd : cs.dropWhile isSpace with
      | nil => rw [hd] at hne; exact absurd rfl hne
      | cons d rest => rwa [hd] at hc
  · rw [List.getLast?_concat] at hc
    obtain rfl : c = '"' := (Option.some.inj hc).symm
    decide

/-- A front of the text is split as it stands. -/
theorem Verbatim.front {cs tail : List Char} {fs : List (List Char)} (h : Verbatim (cs ++ tail))
    (hf : Front cs fs) : Verbatim cs := by
  refine ⟨fun c hc => ?_, fun c hc => ?_⟩
  · refine h.begins c ?_
    rw [List.dropWhile_append]
    cases hd : cs.dropWhile isSpace with
    | nil => rw [hd] at hc; cases hc
    | cons d rest =>
      rw [hd] at hc
      exact hc
  · rcases hf.eq_nil_or_concat with rfl | ⟨cs', rfl⟩
    · cases hc
    · rw [List.getLast?_concat] at hc
      obtain rfl : c = ' ' := (Option.some.inj hc).symm
      decide

/-! ## The three ends of a text -/

section
variable {front tail : List Char} {fs : List (List Char)}

theorem tokenizePartial_of_ok {line : String} {tokens : List String} (h : tokenize line = .ok tokens) :
    tokenizePartial line = (tokens, endsInSpace line) := by
  unfold tokenizePartial
  rw [h]

theorem tokenize_front (hv : Verbatim front) (hf : Front front fs) :
    tokenize (String.ofList front) = .ok (fs.map String.ofList) := by
  rw [hv.tokenize_eq, fields?_of_front hf]

theorem tokenizePartial_front (hv : Verbatim front) (hf : Front front fs) :
    tokenizePartial (String.ofList front) = (fs.map String.ofList, true) := by
  rw [tokenizePartial_of_ok (tokenize_front hv hf)]
  unfold endsInSpace
  rw [String.toList_ofList]
  rcases hf.eq_nil_or_concat with rfl | ⟨cs', rfl⟩
  · rfl
  · rw [List.getLast?_concat]
    rfl

theorem tokenize_field (hv : Verbatim (front ++ tail)) (hf : Front front fs) (ht : IsField tail) :
    tokenize (String.ofList (front ++ tail)) = .ok ((fs ++ [tail]).map String.ofList) := by
  rw [hv.tokenize_eq, fields?_front_append hf, fields?_of_isField ht]
  rfl

theorem tokenizePartial_field (hv : Verbatim (front ++ tail)) (hf : Front front fs) (ht : IsField tail) :
    tokenizePartial (String.ofList (front ++ tail)) = ((fs ++ [tail]).map String.ofList, false) := by
  rw [tokenizePartial_of_ok (tokenize_field hv hf ht)]
  unfold endsInSpace
  rw [String.toList_ofList, List.getLast?_append]
  obtain ⟨c, s, rfl, -⟩ := ht.exists_cons
  have hlast := ht.getLast?_ne
  rw [List.getLast?_cons] at hlast ⊢
  have hne : s.getLast?.getD c ≠ ' ' := fun h => hlast (by rw [h])
  simp [isSpace_eq_false hne]

theorem tokenize_openField (hv : Verbatim (front ++ tail)) (hf : Front front fs) (ht : OpenField tail) :
    tokenize (String.ofList (front ++ tail)) = .error (.malformed "unclosed quotes") := by
  rw [hv.tokenize_eq, fields?_front_append hf, fields?_of_openField ht]
  rfl

theorem tokenizePartial_openField (hv : Verbatim (front ++ tail)) (hf : Front front fs)
    (ht : OpenField tail) :
    tokenizePartial (String.ofList (front ++ tail)) =
      ((fs ++ [tail ++ ['"']]).map String.ofList, false) := by
  have hline : String.ofList (front ++ tail) ++ "\"" = String.ofList (front ++ (tail ++ ['"'])) := by
    have hquote : "\"" = String.ofList ['"'] := rfl
    rw [hquote, ← String.ofList_append, List.append_assoc]
  have hclosed : Verbatim (front ++ (tail ++ ['"'])) := by
    rw [← List.append_assoc]
    exact hv.quote
  unfold tokenizePartial
  rw [tokenize_openField hv hf ht]
  dsimp only
  rw [hline, tokenize_field hclosed hf ht.closed]

end
end CommandShell
