import CommandShell.Proofs.Token.Awaits

/-!
# Lines that go on

What is typed behind a line does not touch the tokens that are complete: all of them where a new one
begins, and all but the last otherwise. The last one may still grow, or its quote may still be open; then a
quote at the end of the line closes it, and the line is split with it.

    Awaits front tokens → tokenize (front ++ more) = .ok ts → tokens <+: ts
    tokenize line = .error f  →  line ends in an open field, which a quote behind it closes
-/

namespace CommandShell

open Token

/-! ## Texts behind a line -/

/-- The first character alone makes a comment. -/
theorem Token.isIgnored_append {cs more : List Char} {d : Char} (hd : cs.head? = some d) :
    isIgnored (cs ++ more) = isIgnored cs := by
  obtain ⟨rest, rfl⟩ := List.head?_eq_some_iff.1 hd
  rfl

/-- Behind a body that ends in no line end, a text belongs to the body up to the line ends at its end. -/
theorem exists_bodyOf_append {line : String} {blanks cs more : List Char} {d : Char}
    (hline : line.toList = blanks ++ cs ++ more) (hblanks : ∀ c ∈ blanks, Text.isBlank c = true)
    (hd : cs.head? = some d) (hblank : Text.isBlank d = false)
    (hlast : ∀ c ∈ cs.getLast?, c ≠ '\r' ∧ c ≠ '\n') :
    ∃ kept ends, more = kept ++ ends ∧ BodyOf line.toList (cs ++ kept) := by
  obtain ⟨ends, hmore, hends, hkept⟩ := exists_dropTrailing (fun c => c == '\r' || c == '\n') more
  generalize Text.dropTrailing (fun c => c == '\r' || c == '\n') more = kept at hmore hkept
  refine ⟨kept, ends, hmore, ⟨blanks, ends, ?_, hblanks, ?_, ?_⟩, ?_⟩
  · rw [hline, hmore]
    simp
  · intro c hc
    simpa using hends c hc
  · intro c hc
    rw [← List.append_assoc, List.getLast?_append] at hc
    cases hk : kept.getLast? with
    | some e =>
      rw [hk] at hc hkept
      obtain rfl : e = c := Option.some.inj hc
      simpa using hkept e rfl
    | none =>
      -- nothing is kept behind the body, so its own last character is the last one
      rw [hk, Option.none_or, List.getLast?_append] at hc
      cases hcs : cs.getLast? with
      | some e =>
        rw [hcs] at hc hlast
        obtain rfl : e = c := Option.some.inj hc
        exact hlast e rfl
      | none =>
        rw [List.getLast?_eq_none_iff] at hcs
        rw [hcs] at hd
        cases hd
  · intro c hc
    rw [List.head?_append, hd] at hc
    cases hc
    exact hblank

/-- **The tokens in front stay.** Whatever follows a text that awaits a token, its tokens come first. -/
theorem Awaits.prefix_of_tokenize {front more : String} {tokens ts : List String} (h : Awaits front tokens)
    (hts : tokenize (front ++ more) = .ok ts) : tokens <+: ts := by
  obtain ⟨blanks, cs, hcut, hblanks, hbegins, ⟨-, rfl⟩ | ⟨-, rfl⟩ | ⟨hi, fs, hfront, rfl⟩⟩ := h.exists_body
  · exact List.nil_prefix
  · exact List.nil_prefix
  · cases hd : cs.head? with
    | none =>
      rw [List.head?_eq_none_iff] at hd
      rw [hd] at hi
      cases hi
    | some d =>
      have hline : (front ++ more).toList = blanks ++ cs ++ more.toList := by
        rw [String.toList_append, hcut]
      have hspace : ∀ c ∈ cs.getLast?, c ≠ '\r' ∧ c ≠ '\n' := by
        intro c hc
        rcases hfront.eq_nil_or_concat with rfl | ⟨cs', rfl⟩
        · cases hc
        · rw [List.getLast?_concat] at hc
          cases hc
          decide
      obtain ⟨kept, ends, -, hbody⟩ := exists_bodyOf_append hline hblanks hd (hbegins d hd) hspace
      rcases tokenize_eq_ok hts with ⟨hignored, -⟩ | ⟨-, gs, hgs, rfl⟩
      · rw [← hbody.eq_body, isIgnored_append hd, hi] at hignored
        cases hignored
      · rw [← hbody.eq_body, fields?_front_append hfront] at hgs
        obtain ⟨rest, -, rfl⟩ := Option.map_eq_some_iff.1 hgs
        rw [List.map_append]
        exact List.prefix_append _ _

/-! ## Open quotes -/

theorem Token.Inside.append {q s : List Char} (h : Inside q) (hs : '"' ∉ s) : Inside (q ++ s) := by
  induction h with
  | nil =>
    induction s with
    | nil => exact .nil
    | cons c s ih =>
      rw [List.mem_cons, not_or] at hs
      exact .char (Ne.symm hs.1) (ih hs.2)
  | char hc _ ih => exact .char hc ih
  | doubled _ ih => exact .doubled ih

theorem Token.exists_openField {cs : List Char} (h : fields? cs = none) :
    ∃ front fs tail, cs = front ++ tail ∧ Front front fs ∧ OpenField tail := by
  obtain ⟨front, fs, tail, rfl, hfront, htail⟩ := exists_front cs
  rw [fields?_front_append hfront, Option.map_eq_none_iff] at h
  refine ⟨front, fs, tail, rfl, hfront, ?_⟩
  rcases htail with rfl | htail | htail
  · rw [fields?] at h
    cases h
  · rw [fields?_of_isField htail] at h
    cases h
  · exact htail

theorem tokenize_of_blank {line : String} (h : ∀ c ∈ line.toList, Text.isBlank c = true) :
    tokenize line = .ok [] := by
  have hbody := bodyOf_body line
  refine tokenize_of_isIgnored hbody ?_
  cases hb : body line with
  | nil => rfl
  | cons c rest =>
    obtain ⟨⟨blanks, ends, hcut, -⟩, hbegins⟩ := hbody
    rw [hb] at hcut hbegins
    have hblank := h c (by rw [hcut]; simp)
    rw [hbegins c rfl] at hblank
    cases hblank

theorem Token.Front.eq_nil_of_nil {fs : List (List Char)} (h : Front [] fs) : fs = [] := by
  have hfields := fields?_of_front h
  rw [fields?] at hfields
  exact (Option.some.inj hfields).symm

/-- **A line that is not split ends in an open field.** What is in front of the field is split, and so is
the line with a quote at its end: into the same tokens and the field with that quote. -/
theorem exists_openField_of_tokenize_error {line : String} {f : Failure} (h : tokenize line = .error f) :
    ∃ front field before, line.toList = front ++ field ∧ OpenField field ∧
      tokenize (String.ofList front) = .ok before ∧
      tokenize (line ++ "\"") = .ok (before ++ [String.ofList (field ++ ['"'])]) := by
  obtain ⟨-, hi, hf⟩ := tokenize_eq_error h
  obtain ⟨⟨blanks, ends, hcut, hblanks, hends, -⟩, hbegins⟩ := bodyOf_body line
  obtain ⟨front, fs, tail, hbody, hfront, htail⟩ := exists_openField hf
  rw [hbody] at hcut hbegins hi
  -- the line ends behind the body are inside the open quote
  have hopen : OpenField (tail ++ ends) := by
    have hquote : '"' ∉ ends := by
      intro hmem
      rcases hends '"' hmem with he | he <;> cases he
    obtain ⟨hq⟩ := htail
    exact .mk (hq.append hquote)
  refine ⟨blanks ++ front, tail ++ ends, fs.map String.ofList, by rw [hcut]; simp, hopen, ?_, ?_⟩
  · cases hd : front.head? with
    | none =>
      rw [List.head?_eq_none_iff] at hd
      rw [hd] at hfront ⊢
      rw [hfront.eq_nil_of_nil, List.append_nil]
      exact tokenize_of_blank (by rwa [String.toList_ofList])
    | some d =>
      obtain ⟨rest, rfl⟩ := List.head?_eq_some_iff.1 hd
      have hcomment : d ≠ '#' := by simpa [isIgnored] using hi
      exact (awaits_iff.1 (awaits_of_front hblanks hd hcomment (hbegins d rfl) hfront)).1
  · obtain ⟨d, hd⟩ : ∃ d, (front ++ tail).head? = some d := by
      obtain ⟨hq⟩ := htail
      exact Option.ne_none_iff_exists'.1 (by simp)
    have hline : (line ++ "\"").toList = blanks ++ (front ++ tail ++ ends) ++ ['"'] := by
      rw [String.toList_append, hcut]
      simp
    have hd' : (front ++ tail ++ ends).head? = some d := by
      rw [List.head?_append, hd]
      rfl
    have hbody' := bodyOf_concat hline hblanks hd' (hbegins d hd) (by decide)
    have hi' : isIgnored (front ++ tail ++ ends ++ ['"']) = false := by
      rw [List.append_assoc, isIgnored_append hd, hi]
    have hfields : fields? (front ++ tail ++ ends ++ ['"']) = some (fs ++ [tail ++ ends ++ ['"']]) := by
      rw [List.append_assoc, List.append_assoc, ← List.append_assoc tail, fields?_front_append hfront,
        fields?_of_isField hopen.closed]
      rfl
    rw [tokenize_of_bodyOf hbody' hi' hfields]
    simp

/-! ## Lines that are still typed -/

/-- **Complete tokens stay.** Of a line that is still typed the tokens are those that it is split into; if
it is not split, a quote is open, and they are those in front of the open field and the field with a quote at
its end. However the line goes on: if it is split then, all tokens come first if a new one begins, and all
but the last otherwise. -/
theorem complete_tokens_stay {line : String} {tokens : List String} {fresh : Bool}
    (h : tokenizePartial line = (tokens, fresh)) :
    (∀ ts, tokenize line = .ok ts → tokens = ts) ∧
      (∀ f, tokenize line = .error f → fresh = false ∧ tokenize (line ++ "\"") = .ok tokens ∧
        ∃ front field before, line.toList = front ++ field ∧ OpenField field ∧
          tokenize (String.ofList front) = .ok before ∧
          tokens = before ++ [String.ofList (field ++ ['"'])]) ∧
      ∀ more ts, tokenize (line ++ more) = .ok ts →
        (if fresh then tokens else tokens.dropLast) <+: ts := by
  refine ⟨?_, ?_, ?_⟩
  · intro ts hts
    rw [tokenizePartial_of_ok hts] at h
    exact (Prod.mk.inj h).1.symm
  · intro f hf
    obtain ⟨front, field, before, hcut, hfield, hbefore, hclosed⟩ := exists_openField_of_tokenize_error hf
    unfold tokenizePartial at h
    rw [hf] at h
    dsimp only at h
    rw [hclosed] at h
    obtain ⟨rfl, rfl⟩ := Prod.mk.inj h
    exact ⟨rfl, hclosed, front, field, before, hcut, hfield, hbefore, rfl⟩
  · intro more ts hts
    cases fresh with
    | true => exact Awaits.prefix_of_tokenize h hts
    | false =>
      -- the text in front of the last token awaits it, and the rest of the line goes on behind that
      obtain ⟨front, ⟨rest, hrest⟩, hfront⟩ := exists_awaits_of_tokenizePartial h
      have hline : line ++ more = front ++ (String.ofList rest ++ more) := by
        rw [← String.toList_inj]
        simp [← hrest]
      rw [hline] at hts
      exact hfront.prefix_of_tokenize hts

/-- A doubled quote and a line end inside an open quote, which is closed behind them; and a quoted token with
a space behind it. -/
theorem complete_tokens_stay_quoted :
    (tokenizePartial "say \"a\"\" b\n" = (["say", "\"a\"\" b\n\""], false) ∧
      tokenize "say \"a\"\" b\n" = .error (.malformed "unclosed quotes") ∧
      tokenize ("say \"a\"\" b\n" ++ "\"") = .ok ["say", "\"a\"\" b\n\""] ∧
      tokenize ("say \"a\"\" b\n" ++ "\"c d") = .ok ["say", "\"a\"\" b\n\"c", "d"] ∧
      ["say"] <+: ["say", "\"a\"\" b\n\"c", "d"]) ∧
    tokenizePartial "say \"a b\" " = (["say", "\"a b\""], true) ∧
      tokenize ("say \"a b\" " ++ "# \r\n") = .ok ["say", "\"a b\"", "#"] ∧
      ["say", "\"a b\""] <+: ["say", "\"a b\"", "#"] := by
  have hopen : tokenizePartial "say \"a\"\" b\n" = (["say", "\"a\"\" b\n\""], false) := by
    with_unfolding_all rfl
  have herror : tokenize "say \"a\"\" b\n" = .error (.malformed "unclosed quotes") := by
    with_unfolding_all rfl
  have hclosed : tokenize ("say \"a\"\" b\n" ++ "\"c d") = .ok ["say", "\"a\"\" b\n\"c", "d"] := by
    with_unfolding_all rfl
  have hfresh : tokenizePartial "say \"a b\" " = (["say", "\"a b\""], true) := by with_unfolding_all rfl
  have hmore : tokenize ("say \"a b\" " ++ "# \r\n") = .ok ["say", "\"a b\"", "#"] := by
    with_unfolding_all rfl
  obtain ⟨-, hfail, hstay⟩ := complete_tokens_stay hopen
  obtain ⟨-, -, hstay'⟩ := complete_tokens_stay hfresh
  exact ⟨⟨hopen, herror, (hfail _ herror).2.1, hclosed, hstay _ _ hclosed⟩, hfresh, hmore, hstay' _ _ hmore⟩

end CommandShell
