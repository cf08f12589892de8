import CommandShell.Proofs.Editor.FieldPlaces
import CommandShell.Proofs.Token.Partial

/-!
# The token at the cursor

The editor and the tokenizer look at the same text in front of the cursor. The start that the editor
finds is the start of the last token as it is typed, or the cursor if a new token begins there; and
then a candidate is put in the place of exactly that token. They part at one kind of token: the editor
splits it at a space behind an escaped quote, and may stay lost behind it.

    tokenStart (front ++ raw) = front.length
      ↔  the tokens of front do not mislead, and no space stands behind an escaped quote of raw
-/

namespace CommandShell.Editor

open Token TokenPlace

/-- A candidate takes the place of what stands between the text `front` and the cursor. -/
def Line.CompletesBehind (l : Line) (front : List Char) : Prop :=
  ∀ candidate only,
    (l.complete candidate only).text = front ++ l.completionText candidate only ++ l.behind

/-! ## Lemmas -/

theorem tokenStart_le (cs : List Char) : tokenStart cs ≤ cs.length := by
  have := tokenStartFrom_le (p := .fieldStart) (Nat.le_refl 0) cs
  unfold tokenStart
  omega

/-- What a completion keeps stands in front of the cursor. -/
theorem Line.take_tokenStart (l : Line) :
    l.text.take (tokenStart l.before) = l.before.take (tokenStart l.before) := by
  conv => lhs; rw [← l.before_append_behind]
  exact List.take_append_of_le_length (tokenStart_le l.before)

/-- A front leaves the start behind its last space, unless that one is read inside quotes. -/
theorem tokenStart_of_front {cs : List Char} {fs : List (List Char)} (h : Front cs fs) :
    (Misleads fs → TokenPlace.fieldStart.after cs = .quoted ∧ tokenStart cs < cs.length) ∧
      (¬Misleads fs → TokenPlace.fieldStart.after cs = .fieldStart ∧ tokenStart cs = cs.length) := by
  have hquoted : TokenPlace.fieldStart.after cs = .quoted ↔ Misleads fs := by
    rw [after_front_eq_quoted_iff h (by decide)]
    exact or_iff_left fun he => absurd he.1 (by decide)
  rcases h.eq_nil_or_concat with rfl | ⟨cs', rfl⟩
  · exact ⟨fun hm => absurd (hquoted.2 hm) (by decide), fun _ => ⟨rfl, rfl⟩⟩
  · have hlen : (cs' ++ [' ']).length = cs'.length + 1 := by simp
    have hle : tokenStartFrom .fieldStart 0 0 cs' ≤ cs'.length := tokenStart_le cs'
    have hplace : TokenPlace.fieldStart.after (cs' ++ [' ']) =
        if TokenPlace.fieldStart.after cs' = .quoted then .quoted else .fieldStart := by
      rw [after_append, after_cons, step_space]
      rfl
    have hstart : tokenStart (cs' ++ [' ']) =
        if TokenPlace.fieldStart.after cs' = .quoted then tokenStart cs' else cs'.length + 1 := by
      unfold tokenStart
      rw [tokenStartFrom_append, tokenStartFrom_cons, Nat.zero_add]
      by_cases hq : TokenPlace.fieldStart.after cs' = .quoted
      · rw [if_neg (fun he => he.2 hq), if_pos hq, tokenStartFrom]
      · rw [if_pos ⟨rfl, hq⟩, if_neg hq, tokenStartFrom]
    rw [← hquoted, hlen, hstart, hplace]
    by_cases hq : TokenPlace.fieldStart.after cs' = .quoted
    · rw [if_pos hq, if_pos hq]
      exact ⟨fun _ => ⟨rfl, Nat.lt_succ_of_le hle⟩, fun hno => absurd rfl hno⟩
    · rw [if_neg hq, if_neg hq]
      exact ⟨fun he => absurd he (by decide), fun _ => ⟨rfl, rfl⟩⟩

theorem tokenStart_front_iff {cs : List Char} {fs : List (List Char)} (h : Front cs fs) :
    tokenStart cs = cs.length ↔ ¬Misleads fs := by
  obtain ⟨hlost, hsound⟩ := tokenStart_of_front h
  refine ⟨fun he hm => ?_, fun hm => (hsound hm).2⟩
  have := (hlost hm).2
  omega

/-- The editor finds the start of the token behind a front. -/
theorem tokenStart_append_iff {cs raw : List Char} {fs : List (List Char)} (h : Front cs fs)
    (hraw : IsField raw ∨ OpenField raw) :
    tokenStart (cs ++ raw) = cs.length ↔ ¬Misleads fs ∧ ¬EscapeThenSpace raw := by
  obtain ⟨hlost, hsound⟩ := tokenStart_of_front h
  have happ : tokenStart (cs ++ raw) =
      tokenStartFrom (TokenPlace.fieldStart.after cs) (tokenStart cs) cs.length raw := by
    unfold tokenStart
    rw [tokenStartFrom_append, Nat.zero_add]
  rw [happ]
  by_cases hm : Misleads fs
  · obtain ⟨hplace, hlt⟩ := hlost hm
    refine ⟨fun he => ?_, fun hno => absurd hm hno.1⟩
    by_cases hk : (TokenPlace.fieldStart.after cs).Keeps raw
    · rw [tokenStartFrom_of_keeps hk] at he
      omega
    · have := lt_tokenStartFrom hk (tokenStart cs) cs.length
      omega
  · obtain ⟨hplace, heq⟩ := hsound hm
    rw [and_iff_right hm, ← keeps_field_iff hraw, hplace, heq]
    refine ⟨fun he => ?_, fun hk => tokenStartFrom_of_keeps hk _ _⟩
    by_cases hk : TokenPlace.fieldStart.Keeps raw
    · exact hk
    · have := lt_tokenStartFrom hk cs.length cs.length
      omega

theorem drop_append_eq_iff {front raw : List Char} {n : Nat} (hn : n ≤ (front ++ raw).length) :
    (front ++ raw).drop n = raw ↔ n = front.length := by
  constructor
  · intro h
    have hl := congrArg List.length h
    rw [List.length_drop, List.length_append] at hl
    rw [List.length_append] at hn
    omega
  · rintro rfl
    exact List.drop_left

theorem completesBehind_of_start {l : Line} {front raw : List Char} (hcut : l.before = front ++ raw)
    (hstart : tokenStart l.before = front.length) : l.CompletesBehind front := by
  intro candidate only
  have htake : l.text.take front.length = front := by
    rw [← l.before_append_behind, hcut, List.append_assoc, List.take_left]
  unfold Line.complete
  dsimp only
  rw [hstart, htake]

theorem map_toList_map_ofList (fs : List (List Char)) :
    (fs.map String.ofList).map String.toList = fs := by
  rw [List.map_map]
  have : String.toList ∘ String.ofList = id := funext fun cs => String.toList_ofList
  rw [this, List.map_id]

/-! ## Agreement with the tokenizer -/

/-- The last token of a text as it is typed, behind what stands in front of it. A quote that the
tokenizer adds to an open token is not typed. -/
structure LastTyped (before : List Char) (tokens : List String) (front raw : List Char) : Prop where
  cut : before = front ++ raw
  earlier : tokenizePartial (String.ofList front) = (tokens.dropLast, true)
  last : (tokenize (String.ofList before) = .ok tokens ∧ tokens.getLast? = some (String.ofList raw)) ∨
    ((∃ e, tokenize (String.ofList before) = .error e) ∧
      tokens.getLast? = some (String.ofList (raw ++ ['"'])))

/-- Behind a front stands the last token as it is typed. -/
theorem lastTyped_of_tail {front tail : List Char} {fs : List (List Char)} {tokens : List String}
    {fresh : Bool} (hv : Verbatim (front ++ tail)) (hf : Front front fs)
    (htail : IsField tail ∨ OpenField tail)
    (ht : tokenizePartial (String.ofList (front ++ tail)) = (tokens, fresh)) :
    fresh = false ∧ tokens ≠ [] ∧ tokens.dropLast.map String.toList = fs ∧
      LastTyped (front ++ tail) tokens front tail := by
  have hfront := tokenizePartial_front (hv.front hf) hf
  rcases htail with htail | htail
  · rw [tokenizePartial_field hv hf htail] at ht
    obtain ⟨rfl, rfl⟩ := Prod.mk.inj ht
    have hdrop : ((fs ++ [tail]).map String.ofList).dropLast = fs.map String.ofList := by simp
    refine ⟨rfl, by simp, by rw [hdrop, map_toList_map_ofList], rfl, by rw [hdrop, hfront], Or.inl ?_⟩
    exact ⟨tokenize_field hv hf htail, by simp⟩
  · rw [tokenizePartial_openField hv hf htail] at ht
    obtain ⟨rfl, rfl⟩ := Prod.mk.inj ht
    have hdrop : ((fs ++ [tail ++ ['"']]).map String.ofList).dropLast = fs.map String.ofList := by simp
    refine ⟨rfl, by simp, by rw [hdrop, map_toList_map_ofList], rfl, by rw [hdrop, hfront], Or.inr ?_⟩
    exact ⟨⟨_, tokenize_openField hv hf htail⟩, by simp⟩

/-- **The editor agrees with the tokenizer** on the token at the cursor, unless the tokens mislead it or
a space stands behind an escaped quote of the last one. Where they agree, a candidate is put in the
place of that token alone. -/
theorem tokenStart_agrees_iff (l : Line) (hv : Verbatim l.before) {tokens : List String} {fresh : Bool}
    (ht : tokenizePartial (String.ofList l.before) = (tokens, fresh)) :
    (fresh = true ∨ tokens = [] →
      (tokenStart l.before = min l.cursor l.text.length ↔ ¬Misleads (tokens.map String.toList)) ∧
      (¬Misleads (tokens.map String.toList) → l.CompletesBehind l.before)) ∧
    (fresh = false → tokens ≠ [] → ∃ front raw, LastTyped l.before tokens front raw ∧
      (l.before.drop (tokenStart l.before) = raw ↔
        ¬Misleads (tokens.dropLast.map String.toList) ∧ ¬EscapeThenSpace raw) ∧
      (¬Misleads (tokens.dropLast.map String.toList) → ¬EscapeThenSpace raw →
        l.CompletesBehind front)) := by
  have hlen : l.before.length = min l.cursor l.text.length := List.length_take
  obtain ⟨front, fs, tail, hcut, hfront, htail⟩ := exists_front l.before
  have hv' : Verbatim (front ++ tail) := hcut ▸ hv
  rcases htail with rfl | htail
  · rw [List.append_nil] at hcut
    rw [hcut, tokenizePartial_front (hv'.front hfront) hfront] at ht
    obtain ⟨rfl, rfl⟩ := Prod.mk.inj ht
    rw [map_toList_map_ofList, ← hlen, hcut]
    refine ⟨fun _ => ⟨tokenStart_front_iff hfront, fun hm => ?_⟩, fun hno => by cases hno⟩
    have hstart : tokenStart l.before = l.before.length := by
      rw [hcut]
      exact (tokenStart_front_iff hfront).2 hm
    rw [← hcut]
    exact completesBehind_of_start (List.append_nil _).symm hstart
  · rw [hcut] at ht
    obtain ⟨rfl, hne, hfs, htyped⟩ := lastTyped_of_tail hv' hfront htail ht
    refine ⟨fun h => ?_, fun _ _ => ⟨front, tail, hcut ▸ htyped, ?_, fun hm hesc => ?_⟩⟩
    · rcases h with h | h
      · cases h
      · exact absurd h hne
    · rw [hfs, hcut, drop_append_eq_iff (tokenStart_le _), tokenStart_append_iff hfront htail]
    · rw [hfs] at hm
      have hstart : tokenStart l.before = front.length := by
        rw [hcut]
        exact (tokenStart_append_iff hfront htail).2 ⟨hm, hesc⟩
      exact completesBehind_of_start hcut hstart

/-- A token that is open, and the same one closed. -/
theorem tokenStart_agrees_iff_quoted :
    Verbatim (Line.ofText "get \"a b").before ∧
      tokenizePartial (String.ofList (Line.ofText "get \"a b").before) = (["get", "\"a b\""], false) ∧
      (∃ front, LastTyped (Line.ofText "get \"a b").before ["get", "\"a b\""] front "\"a b".toList ∧
        (Line.ofText "get \"a b").before.drop (tokenStart (Line.ofText "get \"a b").before) =
          "\"a b".toList) ∧
      Verbatim (Line.ofText "get \"a b\" ").before ∧
      tokenizePartial (String.ofList (Line.ofText "get \"a b\" ").before) = (["get", "\"a b\""], true) ∧
      tokenStart (Line.ofText "get \"a b\" ").before = 10 := by
  have hv : Verbatim (Line.ofText "get \"a b").before :=
    verbatim_of_ends (c := 'g') (d := 'b') rfl rfl (by decide) (by decide)
  have ht : tokenizePartial (String.ofList (Line.ofText "get \"a b").before) =
      (["get", "\"a b\""], false) := by decide +kernel
  have hv' : Verbatim (Line.ofText "get \"a b\" ").before :=
    verbatim_of_ends (c := 'g') (d := ' ') rfl rfl (by decide) (by decide)
  have ht' : tokenizePartial (String.ofList (Line.ofText "get \"a b\" ").before) =
      (["get", "\"a b\""], true) := by decide +kernel
  have hget : ¬EscapeThenSpace ['g', 'e', 't'] := not_escapeThenSpace_of_notMem (by decide)
  have hopen : ¬EscapeThenSpace ['"', 'a', ' ', 'b'] := not_escapeThenSpace_of_quote_notMem (by decide)
  have hclosed : ¬EscapeThenSpace ['"', 'a', ' ', 'b', '"'] := fun h =>
    hopen ((escapeThenSpace_append (f := ['"', 'a', ' ', 'b']) (s := ['"']) (by decide)).1 h)
  refine ⟨hv, ht, ?_, hv', ht', ?_⟩
  · obtain ⟨front, raw, htyped, hiff, -⟩ := (tokenStart_agrees_iff _ hv ht).2 rfl (by decide)
    have hraw : raw = ['"', 'a', ' ', 'b'] := by
      rcases htyped.last with ⟨hok, -⟩ | ⟨-, hlast⟩
      · have herr : (tokenize (String.ofList (Line.ofText "get \"a b").before)).toOption = none := by
          decide +kernel
        rw [hok] at herr
        cases herr
      · have he := congrArg (Option.map String.toList) hlast
        rw [Option.map_some, String.toList_ofList] at he
        have he' : raw ++ ['"'] = ['"', 'a', ' ', 'b'] ++ ['"'] := (Option.some.inj he).symm
        exact List.append_cancel_right he'
    subst hraw
    refine ⟨front, htyped, hiff.2 ⟨not_misleads_of_forall ?_, hopen⟩⟩
    intro f hf
    rw [List.mem_singleton.1 hf]
    exact hget
  · refine ((tokenStart_agrees_iff _ hv' ht').1 (Or.inl rfl)).1.2 (not_misleads_of_forall ?_)
    intro f hf
    have hf' : f = ['g', 'e', 't'] ∨ f = ['"', 'a', ' ', 'b', '"'] := by simpa using hf
    rcases hf' with rfl | rfl
    · exact hget
    · exact hclosed

/-- The editor ends the token at the space behind the doubled quote, and a candidate goes behind what
it should replace. -/
theorem tokenStart_splits_escaped :
    Verbatim (Line.ofText "x \"a\"\"b c").before ∧
      tokenizePartial (String.ofList (Line.ofText "x \"a\"\"b c").before) =
        (["x", "\"a\"\"b c\""], false) ∧
      LastTyped (Line.ofText "x \"a\"\"b c").before ["x", "\"a\"\"b c\""] ['x', ' ']
        "\"a\"\"b c".toList ∧
      (Line.ofText "x \"a\"\"b c").before.drop (tokenStart (Line.ofText "x \"a\"\"b c").before) = ['c'] ∧
      ((Line.ofText "x \"a\"\"b c").complete "\"a\"\"b cd\"" true).string =
        "x \"a\"\"b \"a\"\"b cd\" " := by
  have hv : Verbatim (['x', ' '] ++ "\"a\"\"b c".toList) :=
    verbatim_of_ends (c := 'x') (d := 'c') rfl rfl (by decide) (by decide)
  have ht : tokenizePartial (String.ofList (['x', ' '] ++ "\"a\"\"b c".toList)) =
      (["x", "\"a\"\"b c\""], false) := by decide +kernel
  have hx : IsField ['x'] := .plain (by decide) (by decide)
  have hfront : Front ['x', ' '] [['x']] := .field hx .nil
  have hopen : OpenField "\"a\"\"b c".toList :=
    .mk (.char (by decide) (.doubled (.char (by decide) (.char (by decide) (.char (by decide) .nil)))))
  obtain ⟨-, -, -, htyped⟩ := lastTyped_of_tail hv hfront (Or.inr hopen) ht
  exact ⟨hv, ht, htyped, by decide, by decide +kernel⟩

end CommandShell.Editor
