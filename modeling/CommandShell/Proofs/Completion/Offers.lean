import CommandShell.Completion
import CommandShell.Proofs.BuiltTable
import CommandShell.Proofs.Text.Lowercase
import CommandShell.Proofs.Token.QuotedLine

/-!
# Offers at the cursor

What completion offers depends on what stands in front of the cursor's token: nothing, then it offers
the names of commands; else it offers flags behind a dash, and values behind anything else. A name is
offered as it is, without quotes. So it runs its command exactly if it has no space.

    x.suggestions text cursor = rankAll x.table.names hint      (suggestions_of_nothing)
                              = flagSuggestions c args ..       (suggestions_of_isFlag)
                              = valueSuggestions x c args hint  (suggestions_of_not_isFlag)
-/

namespace CommandShell

open Token

/-! ## The place of the cursor -/

/-- The cursor stands behind `tokens`, in a token whose text so far is `hint`. -/
def StandsBehind (text : String) (cursor : Nat) (tokens : List String) (hint : String) : Prop :=
  splitHint (String.ofList (text.toList.take cursor)) = (tokens, hint)

namespace CompletionContext

variable {x : CompletionContext} {text : String} {cursor : Nat} {tokens args : List String}
  {hint : String} {c : Command}

theorem suggestions_of_nothing (hcur : StandsBehind text cursor [] hint) (hstack : x.stack = []) :
    x.suggestions text cursor = rankAll x.table.names hint := by
  unfold suggestions
  rw [show splitHint _ = _ from hcur, hstack]
  rfl

theorem suggestions_of_resolve? (hcur : StandsBehind text cursor tokens hint)
    (hc : x.table.resolve? (x.stack ++ tokens) = some (c, args)) :
    x.suggestions text cursor =
      if isFlag hint then flagSuggestions c args (flagName hint) else valueSuggestions x c args hint := by
  have hne : (x.stack ++ tokens).isEmpty = false := by
    cases hl : x.stack ++ tokens with
    | nil =>
      rw [hl] at hc
      cases hc
    | cons name rest => rfl
  unfold suggestions
  rw [show splitHint _ = _ from hcur]
  dsimp only
  rw [hne, hc]
  rfl

theorem suggestions_of_isFlag (hcur : StandsBehind text cursor tokens hint)
    (hc : x.table.resolve? (x.stack ++ tokens) = some (c, args)) (hhint : isFlag hint = true) :
    x.suggestions text cursor = flagSuggestions c args (flagName hint) := by
  rw [suggestions_of_resolve? hcur hc, if_pos hhint]

theorem suggestions_of_not_isFlag (hcur : StandsBehind text cursor tokens hint)
    (hc : x.table.resolve? (x.stack ++ tokens) = some (c, args)) (hhint : isFlag hint = false) :
    x.suggestions text cursor = valueSuggestions x c args hint := by
  rw [suggestions_of_resolve? hcur hc, if_neg (by rw [hhint]; exact Bool.false_ne_true)]

end CompletionContext

theorem Builtin.resolve?_connect (args : List String) :
    table.resolve? ("connect" :: args) = some (connect, args) := by
  rw [table_eq]
  rfl

/-! ## Names at the start of a line -/

/-- The text may stand first in a line: it is not empty, and it starts with no comment sign, no quote and
no blank. -/
def BeginsLine (name : String) : Prop :=
  ∃ c ∈ name.toList.head?, c ≠ '#' ∧ c ≠ '"' ∧ Text.isBlank c = false

theorem BeginsLine.unquote_eq {name : String} (h : BeginsLine name) : unquote name = name := by
  obtain ⟨c, hc, -, hquote, -⟩ := h
  refine unquote_of_head?_ne fun he => hquote ?_
  exact Option.some.inj (hc.symm.trans he)

/-- The first field of a line is what stands in front of its first space. -/
theorem BeginsLine.exists_word {name : String} (h : BeginsLine name) :
    ∃ word after, name.toList ++ [' '] = word ++ ' ' :: after ∧ BeginsLine (String.ofList word) ∧
      ' ' ∉ word ∧ IsField word ∧ (' ' ∉ name.toList → word = name.toList ∧ after = []) := by
  obtain ⟨c, hc, hcomment, hquote, hblank⟩ := h
  obtain ⟨word, rest, hcut, hword, hrest⟩ := Token.exists_word name.toList
  have hne : c ≠ ' ' := by
    rintro rfl
    rw [Text.isBlank_space] at hblank
    cases hblank
  cases word with
  | nil =>
    rw [hcut] at hc
    exact absurd (hrest c hc) hne
  | cons d word =>
    rw [hcut] at hc
    obtain rfl : d = c := Option.some.inj hc
    have hbegins : BeginsLine (String.ofList (d :: word)) :=
      ⟨d, by rw [String.toList_ofList]; rfl, hcomment, hquote, hblank⟩
    have hfield : IsField (d :: word) := .plain hquote hword
    cases rest with
    | nil => exact ⟨d :: word, [], by rw [hcut, List.append_nil], hbegins, hword, hfield, by simp [hcut]⟩
    | cons e rest =>
      obtain rfl : e = ' ' := hrest e rfl
      refine ⟨d :: word, rest ++ [' '], by simp [hcut], hbegins, hword, hfield, fun hno => absurd ?_ hno⟩
      rw [hcut]
      simp

/-- What may begin a line is split as it stands. -/
theorem BeginsLine.verbatim {name : String} (h : BeginsLine name) : Verbatim (name.toList ++ [' ']) := by
  obtain ⟨c, hc, hcomment, -, hblank⟩ := h
  have hne : c ≠ ' ' := by
    rintro rfl
    rw [Text.isBlank_space] at hblank
    cases hblank
  cases hl : name.toList with
  | nil =>
    rw [hl] at hc
    cases hc
  | cons d rest =>
    rw [hl] at hc
    obtain rfl : d = c := Option.some.inj hc
    refine verbatim_of_ends (c := d) (d := ' ') ?_ List.getLast?_concat ⟨hcomment, hblank⟩ (by decide)
    rw [List.cons_append, List.dropWhile_cons_of_neg (by rw [isSpace_eq_false hne]; exact Bool.false_ne_true)]
    rfl

theorem append_space (name : String) : name ++ " " = String.ofList (name.toList ++ [' ']) := by
  rw [← String.toList_inj]
  simp

/-- A name without a space is one token. -/
theorem BeginsLine.tokenize_eq {name : String} (h : BeginsLine name) (hspace : ' ' ∉ name.toList) :
    tokenize (name ++ " ") = .ok [name] := by
  obtain ⟨word, after, hcut, -, -, hfield, hall⟩ := h.exists_word
  obtain ⟨rfl, rfl⟩ := hall hspace
  rw [append_space, tokenize_front h.verbatim (.field hfield .nil)]
  simp

/-- The only token of a line that begins so has no space. -/
theorem BeginsLine.space_notMem_of_tokenize {name token : String} (h : BeginsLine name)
    (ht : tokenize (name ++ " ") = .ok [token]) : BeginsLine token ∧ ' ' ∉ token.toList := by
  obtain ⟨word, after, hcut, hbegins, hword, hfield, -⟩ := h.exists_word
  have hboundary : Boundary (' ' :: after) := fun c hc => (Option.some.inj hc).symm
  rw [append_space, h.verbatim.tokenize_eq, hcut, fields?_append hfield hboundary] at ht
  cases hafter : fields? (' ' :: after) with
  | none =>
    rw [hafter] at ht
    cases ht
  | some fs =>
    rw [hafter] at ht
    obtain ⟨rfl, -⟩ := List.cons.inj (Except.ok.inj ht)
    exact ⟨hbegins, by rwa [String.toList_ofList]⟩

/-- **A name that is offered runs its command exactly if it has no space.** Entered as the first word of a
line, it is then one token, and the table finds the command by it. -/
theorem name_offer_runs_iff {ds : List Command} {t : CommandTable} (ht : CommandTable.build ds = .ok t)
    (hnames : ∀ c ∈ t.commands, BeginsLine c.name) {x : CompletionContext} (hx : x.table = t)
    (hstack : x.stack = []) {text : String} {cursor : Nat} {hint : String}
    (hcur : StandsBehind text cursor [] hint) {offer : String} (ho : offer ∈ x.suggestions text cursor) :
    ∃ c ∈ t.commands, offer = c.name ∧
      ((∃ token, tokenize (offer ++ " ") = .ok [token] ∧ t.get? (unquote token) = some c) ↔
        ' ' ∉ offer.toList) := by
  rw [CompletionContext.suggestions_of_nothing hcur hstack, hx] at ho
  obtain ⟨c, hc, rfl⟩ := List.mem_map.1 (mem_rankAll.1 ho).1
  have hkeyed := CommandTable.keyed_of_build ht
  have hbegins := hnames c hc
  refine ⟨c, hc, rfl, ?_, fun hspace => ⟨c.name, hbegins.tokenize_eq hspace, ?_⟩⟩
  · rintro ⟨token, htoken, hget⟩
    obtain ⟨htoken, hspace⟩ := hbegins.space_notMem_of_tokenize htoken
    rw [htoken.unquote_eq] at hget
    rw [← Text.space_mem_lowercase_iff, ← (hkeyed.get?_eq_some_iff.1 hget).2, Text.space_mem_lowercase_iff]
    exact hspace
  · rw [hbegins.unquote_eq]
    exact hkeyed.found c hc

/-- A name without a space, offered for its first letters. -/
theorem name_offer_runs_iff_help :
    let x : CompletionContext := ⟨Builtin.table, .empty, [], []⟩
    CommandTable.build Builtin.commands = .ok Builtin.table ∧
      (∀ c ∈ Builtin.table.commands, BeginsLine c.name) ∧ StandsBehind "he" 2 [] "he" ∧
      "help" ∈ x.suggestions "he" 2 ∧
      ∃ c ∈ Builtin.table.commands, "help" = c.name ∧
        ∃ token, tokenize ("help" ++ " ") = .ok [token] ∧ Builtin.table.get? (unquote token) = some c := by
  intro x
  have hnames : ∀ c ∈ Builtin.table.commands, BeginsLine c.name := by
    rw [Builtin.commands_table]
    simp only [List.forall_mem_cons, List.not_mem_nil, false_implies, implies_true, and_true]
    refine ⟨?_, ?_, ?_, ?_, ?_, ?_, ?_⟩ <;> exact ⟨_, rfl, by decide, by decide, by decide⟩
  have hcur : StandsBehind "he" 2 [] "he" := by with_unfolding_all rfl
  have ho : "help" ∈ x.suggestions "he" 2 := by
    rw [CompletionContext.suggestions_of_nothing hcur rfl, mem_rankAll]
    with_unfolding_all decide
  obtain ⟨c, hc, hname, hiff⟩ := name_offer_runs_iff Builtin.build_commands hnames rfl rfl hcur ho
  exact ⟨Builtin.build_commands, hnames, hcur, ho, c, hc, hname, hiff.2 (by decide)⟩

/-- A name with a space is offered without quotes, and is two tokens, of which the first names nothing. -/
theorem name_offer_splits_list_all :
    ∃ (c : Command) (t : CommandTable), CommandTable.build [c] = .ok t ∧ c.name = "list all" ∧
      BeginsLine c.name ∧ StandsBehind "li" 2 [] "li" ∧
      "list all" ∈ (CompletionContext.mk t .empty [] []).suggestions "li" 2 ∧
      tokenize ("list all" ++ " ") = .ok ["list", "all"] ∧ t.get? (unquote "list") = none := by
  have hcur : StandsBehind "li" 2 [] "li" := by with_unfolding_all rfl
  refine ⟨{ name := "list all", handler := fun _ => { result := .ok .nothing } }, _, rfl, rfl,
    ⟨'l', rfl, by decide, by decide, by decide⟩, hcur, ?_, by with_unfolding_all rfl, rfl⟩
  rw [CompletionContext.suggestions_of_nothing hcur rfl, mem_rankAll]
  with_unfolding_all decide

end CommandShell
