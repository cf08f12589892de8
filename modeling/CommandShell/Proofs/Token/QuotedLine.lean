import CommandShell.Proofs.Token.Partial

/-!
# Lines of quoted values

A value that is not empty is quoted to one field, and the token of that field is read back as the
value. So a line of quoted values with single spaces between them has one token for each value.

    unquote (quoteIfNeeded v) = v
    tokenize ("x " ++ the quoted values ++ " ") = "x" and the quoted values
-/

namespace CommandShell

open Token

/-! ## One value -/

theorem inside_doubleQuotes (cs : List Char) : Inside (doubleQuotes cs) := by
  induction cs with
  | nil => exact .nil
  | cons c cs ih =>
    rw [doubleQuotes]
    by_cases hc : c = '"'
    · rw [if_pos hc]
      exact .doubled ih
    · rw [if_neg hc]
      exact .char hc ih

/-- A value is put between quotes, or stands as it is where it has no space and no quote in front. -/
theorem quoteIfNeeded_cases (v : String) :
    quoteIfNeeded v = String.ofList ('"' :: (doubleQuotes v.toList ++ ['"'])) ∨
      (quoteIfNeeded v = v ∧ ' ' ∉ v.toList ∧ v.toList.head? ≠ some '"') := by
  unfold quoteIfNeeded
  split
  · exact Or.inl rfl
  · next h =>
    rw [Bool.or_eq_true, not_or] at h
    exact Or.inr ⟨rfl, by simpa using h.1, by simpa using h.2⟩

/-- A quoted value is one field. -/
theorem isField_quoteIfNeeded {v : String} (hv : v ≠ "") : IsField (quoteIfNeeded v).toList := by
  rcases quoteIfNeeded_cases v with h | ⟨h, hspace, hquote⟩
  · rw [h, String.toList_ofList]
    exact .quoted (inside_doubleQuotes v.toList) (by simp) (by simp)
  · rw [h]
    cases hcs : v.toList with
    | nil => exact absurd (String.toList_eq_nil_iff.1 hcs) hv
    | cons c cs =>
      rw [hcs] at hspace hquote
      exact .plain (fun hc => hquote (by rw [hc]; rfl)) hspace

theorem unquote_of_head?_ne {v : String} (h : v.toList.head? ≠ some '"') : unquote v = v := by
  unfold unquote
  split
  · next r hr =>
    rw [hr] at h
    exact absurd rfl h
  · rfl

/-- A text between quotes is read without them. -/
theorem unquote_quoted (cs : List Char) :
    unquote (String.ofList ('"' :: (cs ++ ['"']))) = String.ofList (collapseQuotes cs) := by
  unfold unquote
  rw [String.toList_ofList]
  simp only [List.getLast?_concat, if_true, List.dropLast_concat]

/-- A value is read back from its quoted form. -/
theorem unquote_quoteIfNeeded (v : String) : unquote (quoteIfNeeded v) = v := by
  rcases quoteIfNeeded_cases v with h | ⟨h, -, hquote⟩
  · rw [h, unquote_quoted, collapseQuotes_doubleQuotes, String.ofList_toList]
  · rw [h, unquote_of_head?_ne hquote]

/-! ## A line of values -/

/-- Fields with single spaces between them and one at the end are a front. -/
theorem front_intercalate {fs : List (List Char)} (h : ∀ f ∈ fs, IsField f) :
    Front ([' '].intercalate fs ++ [' ']) fs := by
  induction fs with
  | nil => exact .space .nil
  | cons f fs ih =>
    obtain ⟨hf, hfs⟩ := List.forall_mem_cons.1 h
    cases fs with
    | nil =>
      rw [List.intercalate_singleton]
      exact .field hf .nil
    | cons g gs =>
      rw [List.intercalate_cons_cons, List.append_assoc, List.append_assoc]
      exact .field hf (ih hfs)

/-- **Quoting round-trips over whole lines**: the tokens of a line of quoted values are the quoted
values, and each is read back as its value. -/
theorem tokenize_quoted_values (vs : List String) (hvs : ∀ v ∈ vs, v ≠ "") :
    tokenize ("x " ++ String.intercalate " " (vs.map quoteIfNeeded) ++ " ") =
        .ok ("x" :: vs.map quoteIfNeeded) ∧
      (vs.map quoteIfNeeded).map unquote = vs := by
  constructor
  · have hx : IsField ['x'] := .plain (by decide) (by decide)
    have hfields : ∀ f ∈ (vs.map quoteIfNeeded).map String.toList, IsField f := by
      simp only [List.mem_map, forall_exists_index, and_imp, forall_apply_eq_imp_iff₂]
      exact fun v hv => isField_quoteIfNeeded (hvs v hv)
    have hfront : Front (['x'] ++ ' ' :: _) _ := .field hx (front_intercalate hfields)
    have hline : "x " ++ String.intercalate " " (vs.map quoteIfNeeded) ++ " " = String.ofList
        (['x'] ++ ' ' :: ([' '].intercalate ((vs.map quoteIfNeeded).map String.toList) ++ [' '])) := by
      rw [← String.toList_inj]
      simp
    have hv : Verbatim
        (['x'] ++ ' ' :: ([' '].intercalate ((vs.map quoteIfNeeded).map String.toList) ++ [' '])) := by
      refine verbatim_of_ends (c := 'x') (d := ' ') rfl ?_ (by decide) (by decide)
      rw [← List.cons_append, ← List.append_assoc, List.getLast?_concat]
    rw [hline, tokenize_front hv hfront, List.map_cons, List.map_map]
    have hid : String.ofList ∘ String.toList = id := funext fun s => String.ofList_toList
    rw [hid, List.map_id]
  · rw [List.map_map]
    have hid : unquote ∘ quoteIfNeeded = id := funext unquote_quoteIfNeeded
    rw [hid, List.map_id]

/-- Quotes at every place, dashes, tabs and line ends. -/
theorem tokenize_quoted_values_mixed :
    (∀ v ∈ ["say \"hi\" now", "\"\"", "-p", "a\t\"\n", "\" \"\""], v ≠ "") ∧
      tokenize "x \"say \"\"hi\"\" now\" \"\"\"\"\"\" -p a\t\"\n \"\"\" \"\"\"\"\" " =
        .ok ["x", "\"say \"\"hi\"\" now\"", "\"\"\"\"\"\"", "-p", "a\t\"\n", "\"\"\" \"\"\"\"\""] ∧
      ["\"say \"\"hi\"\" now\"", "\"\"\"\"\"\"", "-p", "a\t\"\n", "\"\"\" \"\"\"\"\""].map unquote =
        ["say \"hi\" now", "\"\"", "-p", "a\t\"\n", "\" \"\""] := by
  have hvs : ∀ v ∈ ["say \"hi\" now", "\"\"", "-p", "a\t\"\n", "\" \"\""], v ≠ "" := by decide
  have hquoted : ["say \"hi\" now", "\"\"", "-p", "a\t\"\n", "\" \"\""].map quoteIfNeeded =
      ["\"say \"\"hi\"\" now\"", "\"\"\"\"\"\"", "-p", "a\t\"\n", "\"\"\" \"\"\"\"\""] := by
    decide +kernel
  have h := tokenize_quoted_values _ hvs
  rw [hquoted] at h
  exact ⟨hvs, h⟩

end CommandShell
