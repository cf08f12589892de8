import CommandShell.Proofs.Completion.Offers
import CommandShell.Proofs.Token.Awaits

/-!
# Offered values, read back

A value is offered as one token, quoted where a space or a quote in front asks for it. That token is read
back as the value, whatever the value is; but what opens with a dash is a flag to the binding, quoted or
not once the quotes are gone, and only a space in the value brings them back.

    offer = quoteIfNeeded v, unquote offer = v
    offer is the next token and no flag   ↔   v has a space or no dash in front     (behind other tokens)
-/

namespace CommandShell

open Token

/-! ## The first character of a quoted value -/

theorem head?_quoteIfNeeded (v : String) :
    (quoteIfNeeded v).toList.head? = if ' ' ∈ v.toList then some '"' else v.toList.head? := by
  rcases quoteIfNeeded_cases v with h | ⟨h, hspace, -⟩
  · by_cases hspace : ' ' ∈ v.toList
    · rw [h, if_pos hspace, String.toList_ofList]
      rfl
    · -- quoted for the quote in front
      have hquote : v.toList.head? = some '"' := by
        unfold quoteIfNeeded at h
        split at h
        · next hneed => simpa [hspace] using hneed
        · rw [h, String.toList_ofList]
          rfl
      rw [h, if_neg hspace, hquote, String.toList_ofList]
      rfl
  · rw [h, if_neg hspace]

/-- Only the quotes that a space brings keep a value from being a flag. -/
theorem isFlag_quoteIfNeeded_eq_false_iff (v : String) :
    isFlag (quoteIfNeeded v) = false ↔ ' ' ∈ v.toList ∨ isFlag v = false := by
  unfold isFlag
  rw [head?_quoteIfNeeded]
  by_cases hspace : ' ' ∈ v.toList
  · rw [if_pos hspace]
    exact iff_of_true (by decide) (Or.inl hspace)
  · rw [if_neg hspace, or_iff_right hspace]

theorem ne_empty_of_isClose {hint v : String} (h : isClose hint v = true) : v ≠ "" := by
  rintro rfl
  unfold isClose at h
  simp at h

/-! ## Values of past lines -/

theorem mem_historyCandidates {history : List String} {c : Command} {slot : Nat} {v : String} :
    v ∈ historyCandidates history c slot ↔ v ≠ "" ∧ ∃ line ∈ history, pastValue? c slot line = some v := by
  simp [historyCandidates, mem_firstOccurrences, and_comm]

/-- A text parameter without a provider takes its candidates from past lines. -/
theorem valueCandidates_of_text {x : CompletionContext} {c : Command} {slot : Nat} {p : Parameter}
    (hp : c.params[slot]? = some p) (hprovider : p.provider = none) (htype : p.type = .text)
    (hint : String) : valueCandidates x c slot hint = historyCandidates x.history c slot := by
  unfold valueCandidates
  rw [hp]
  dsimp only
  rw [hprovider, htype]
  rfl

/-! ## The place of an offered value -/

/-- In front of the cursor's token stands a text that awaits it. -/
theorem StandsBehind.exists_awaits {text : String} {cursor : Nat} {tokens : List String} {hint : String}
    (h : StandsBehind text cursor tokens hint) :
    ∃ front, front.toList <+: text.toList.take cursor ∧ Awaits front tokens := by
  unfold StandsBehind splitHint at h
  split at h
  · next ts hpartial =>
    cases h
    exact ⟨_, by simp, hpartial⟩
  · next ts hpartial =>
    cases h
    obtain ⟨front, hpre, hfront⟩ := exists_awaits_of_tokenizePartial hpartial
    exact ⟨front, by rwa [String.toList_ofList] at hpre, hfront⟩

/-- **An offered value is read back as it was**: the token of the offer stands for its candidate. It is the
next token of the line and no flag exactly if the candidate opens with no dash or is quoted for a space;
first in a line, the line must be blank so far, and the token open with no comment sign and no blank. -/
theorem value_offer_read_back_iff {x : CompletionContext} {text : String} {cursor : Nat}
    {tokens : List String} {hint : String} (hcur : StandsBehind text cursor tokens hint) {c : Command}
    {args : List String} (hc : x.table.resolve? (x.stack ++ tokens) = some (c, args))
    (hhint : isFlag hint = false) {slot : Nat} (hslot : (walk c args).next = .positional slot)
    {offer : String} (ho : offer ∈ x.suggestions text cursor) :
    (∃ front, front.toList <+: text.toList.take cursor ∧ Awaits front tokens) ∧
      ∃ v ∈ valueCandidates x c slot hint, offer = quoteIfNeeded v ∧ unquote offer = v ∧
        ∀ front, Awaits front tokens →
          ((tokenize (front ++ offer ++ " ") = .ok (tokens ++ [offer]) ∧ isFlag offer = false) ↔
            (' ' ∈ v.toList ∨ isFlag v = false) ∧
              (tokens = [] → (∀ ch ∈ front.toList, Text.isBlank ch = true) ∧
                (' ' ∈ v.toList ∨ ∀ ch ∈ v.toList.head?, ch ≠ '#' ∧ Text.isBlank ch = false))) := by
  refine ⟨hcur.exists_awaits, ?_⟩
  rw [CompletionContext.suggestions_of_not_isFlag hcur hc hhint] at ho
  unfold valueSuggestions at ho
  rw [hslot] at ho
  obtain ⟨v, hv, rfl⟩ := List.mem_map.1 ho
  obtain ⟨hv, hclose⟩ := mem_rankAll.1 hv
  refine ⟨v, hv, rfl, unquote_quoteIfNeeded v, fun front hfront => ?_⟩
  have hbegins : (∀ ch ∈ (quoteIfNeeded v).toList.head?, ch ≠ '#' ∧ Text.isBlank ch = false) ↔
      ' ' ∈ v.toList ∨ ∀ ch ∈ v.toList.head?, ch ≠ '#' ∧ Text.isBlank ch = false := by
    rw [head?_quoteIfNeeded]
    by_cases hspace : ' ' ∈ v.toList
    · rw [if_pos hspace]
      refine iff_of_true (fun ch hch => ?_) (Or.inl hspace)
      obtain rfl : '"' = ch := Option.some.inj hch
      exact ⟨by decide, Text.isBlank_quote⟩
    · rw [if_neg hspace, or_iff_right hspace]
  rw [hfront.tokenize_concat_iff (isField_quoteIfNeeded (ne_empty_of_isClose hclose)), hbegins,
    isFlag_quoteIfNeeded_eq_false_iff, and_comm]

/-- A past value with a space, offered in its quotes. -/
theorem value_offer_read_back_iff_host :
    let x : CompletionContext := ⟨Builtin.table, .empty, [], ["connect \"my host\""]⟩
    let offer := "\"my host\""
    StandsBehind "connect m" 9 ["connect"] "m" ∧
      x.table.resolve? (x.stack ++ ["connect"]) = some (Builtin.connect, []) ∧ isFlag "m" = false ∧
      (walk Builtin.connect []).next = .positional 0 ∧ offer ∈ x.suggestions "connect m" 9 ∧
      Awaits "connect " ["connect"] ∧ unquote offer = "my host" ∧
      tokenize ("connect " ++ offer ++ " ") = .ok ["connect", offer] ∧ isFlag offer = false := by
  intro x offer
  have hcur : StandsBehind "connect m" 9 ["connect"] "m" := by with_unfolding_all rfl
  have hc : x.table.resolve? (x.stack ++ ["connect"]) = some (Builtin.connect, []) :=
    Builtin.resolve?_connect []
  have hslot : (walk Builtin.connect []).next = .positional 0 := by with_unfolding_all rfl
  have hfront : Awaits "connect " ["connect"] := by with_unfolding_all rfl
  have ho : offer ∈ x.suggestions "connect m" 9 := by
    rw [CompletionContext.suggestions_of_not_isFlag hcur hc (by decide)]
    unfold valueSuggestions
    rw [hslot]
    have hpast : pastValue? Builtin.connect 0 "connect \"my host\"" = some "my host" := by
      have ht : tokenize "connect \"my host\"" = .ok ["connect", offer] := by with_unfolding_all rfl
      unfold pastValue?
      rw [ht]
      with_unfolding_all decide
    have hv : "my host" ∈ valueCandidates x Builtin.connect 0 "m" := by
      rw [valueCandidates_of_text rfl rfl rfl, mem_historyCandidates]
      exact ⟨by decide, _, List.mem_singleton_self _, hpast⟩
    exact List.mem_map.2 ⟨"my host", mem_rankAll.2 ⟨hv, by with_unfolding_all decide⟩,
      by with_unfolding_all decide⟩
  obtain ⟨-, v, -, hoffer, hv, hall⟩ := value_offer_read_back_iff hcur hc (by decide) hslot ho
  have hvalue : v = "my host" := hv.symm.trans (by with_unfolding_all decide)
  obtain ⟨htoken, hflag⟩ := (hall "connect " hfront).2
    ⟨Or.inl (by rw [hvalue]; decide), fun hnil => absurd hnil (List.cons_ne_nil _ _)⟩
  exact ⟨hcur, hc, by decide, hslot, ho, hfront, hvalue ▸ hv, htoken, hflag⟩

/-- A past value that was typed in quotes for its dash is offered without them, and is a flag. -/
theorem value_offer_is_flag_db :
    let x : CompletionContext := ⟨Builtin.table, .empty, [], ["connect \"-db\""]⟩
    StandsBehind "connect " 8 ["connect"] "" ∧
      x.table.resolve? (x.stack ++ ["connect"]) = some (Builtin.connect, []) ∧ isFlag "" = false ∧
      (walk Builtin.connect []).next = .positional 0 ∧ "-db" ∈ x.suggestions "connect " 8 ∧
      isFlag "-db" = true := by
  intro x
  have hcur : StandsBehind "connect " 8 ["connect"] "" := by with_unfolding_all rfl
  have hc : x.table.resolve? (x.stack ++ ["connect"]) = some (Builtin.connect, []) :=
    Builtin.resolve?_connect []
  have hslot : (walk Builtin.connect []).next = .positional 0 := by with_unfolding_all rfl
  refine ⟨hcur, hc, by decide, hslot, ?_, by decide⟩
  rw [CompletionContext.suggestions_of_not_isFlag hcur hc (by decide)]
  unfold valueSuggestions
  rw [hslot]
  have hpast : pastValue? Builtin.connect 0 "connect \"-db\"" = some "-db" := by
    have ht : tokenize "connect \"-db\"" = .ok ["connect", "\"-db\""] := by with_unfolding_all rfl
    unfold pastValue?
    rw [ht]
    with_unfolding_all decide
  have hv : "-db" ∈ valueCandidates x Builtin.connect 0 "" := by
    rw [valueCandidates_of_text rfl rfl rfl, mem_historyCandidates]
    exact ⟨by decide, _, List.mem_singleton_self _, hpast⟩
  exact List.mem_map.2 ⟨"-db", mem_rankAll.2 ⟨hv, by with_unfolding_all decide⟩,
    by with_unfolding_all decide⟩

end CommandShell
