import CommandShell.Proofs.Completion.Offers
import CommandShell.Proofs.Editor.GapBuffer
import CommandShell.Proofs.Rank.Selection

/-!
# Words closed by Tab

Tab puts the first suggestion in the place of the token at the cursor, with a space behind it if no other
suggestion is shown. Shown is only the start of what completion gives: with room for one suggestion Tab
closes every word, also one that might still go on.

    press (candidates.take room) tab = kept ++ first candidate ++ gap ++ what is behind the cursor
    kept is what stands in front of the token       ↔  no token up to the cursor misleads the editor
    gap tells whether there is one candidate only   ↔  room ≠ 1, or there is one, or a space is behind already
-/

namespace CommandShell.Editor

open Token

/-! ## The token at the cursor -/

/-- A text ends in a token: in front of it stand closed fields, and the token is empty, a field, or a field
whose quote is still open. -/
structure EndsInToken (before : List Char) (fs : List (List Char)) (front token : List Char) : Prop where
  cut : before = front ++ token
  closed : Front front fs
  last : token = [] ∨ IsField token ∨ OpenField token

theorem exists_endsInToken (before : List Char) : ∃ fs front token, EndsInToken before fs front token := by
  obtain ⟨front, fs, token, hcut, hfront, htoken⟩ := exists_front before
  exact ⟨fs, front, token, hcut, hfront, htoken⟩

namespace EndsInToken

variable {before front token : List Char} {fs : List (List Char)}

/-- The editor finds the start of the token unless a token up to the cursor misleads it. -/
theorem tokenStart_eq_iff (h : EndsInToken before fs front token) :
    tokenStart before = front.length ↔ ¬Misleads fs ∧ ¬EscapeThenSpace token := by
  obtain ⟨rfl, hfront, rfl | htoken⟩ := h
  · rw [List.append_nil, tokenStart_front_iff hfront]
    exact (and_iff_left (not_escapeThenSpace_of_notMem List.not_mem_nil)).symm
  · exact tokenStart_append_iff hfront htoken

theorem take_tokenStart_eq_iff (h : EndsInToken before fs front token) :
    before.take (tokenStart before) = front ↔ ¬Misleads fs ∧ ¬EscapeThenSpace token := by
  rw [← h.tokenStart_eq_iff]
  constructor
  · intro he
    rw [← he, List.length_take, Nat.min_eq_left (tokenStart_le before)]
  · intro he
    rw [he, h.cut, List.take_left]

/-- Completion looks for what may stand behind the same fields. -/
theorem splitHint_fst (h : EndsInToken before fs front token) (hv : Verbatim before) :
    (splitHint (String.ofList before)).1 = fs.map String.ofList := by
  obtain ⟨rfl, hfront, rfl | htoken⟩ := h
  · rw [List.append_nil] at hv ⊢
    unfold splitHint
    rw [tokenizePartial_front hv hfront]
  · rcases ht : tokenizePartial (String.ofList (front ++ token)) with ⟨tokens, fresh⟩
    obtain ⟨rfl, -, hfs, -⟩ := lastTyped_of_tail hv hfront htoken ht
    have hback : String.ofList ∘ String.toList = id := funext fun s => String.ofList_toList
    unfold splitHint
    rw [ht, ← hfs, List.map_map, hback, List.map_id]

end EndsInToken

/-! ## A candidate on the line -/

namespace Line

/-- A candidate with a text kept in front of it and a gap behind it, then the cursor and what was behind the
cursor. -/
def filled (l : Line) (kept : List Char) (candidate : String) (gap : List Char) : Line :=
  (GapBuffer.mk (kept ++ candidate.toList ++ gap) l.behind).line

/-- What closes a word behind a candidate: a space, unless one stands behind the cursor. -/
def gapBehind (l : Line) (closes : Bool) : List Char :=
  if closes = true ∧ l.behind.head? ≠ some ' ' then [' '] else []

theorem gapBehind_cases (l : Line) (closes : Bool) : l.gapBehind closes = [] ∨ l.gapBehind closes = [' '] := by
  unfold gapBehind
  split
  · exact Or.inr rfl
  · exact Or.inl rfl

theorem gapBehind_eq_space_iff (l : Line) (closes : Bool) :
    l.gapBehind closes = [' '] ↔ closes = true ∧ l.behind.head? ≠ some ' ' := by
  unfold gapBehind
  rw [ite_eq_left_iff]
  simp

theorem complete_eq_filled (l : Line) (candidate : String) (only : Bool) :
    l.complete candidate only =
      l.filled (l.before.take (tokenStart l.before)) candidate (l.gapBehind only) := by
  unfold complete completionText
  rw [l.take_tokenStart]
  simp [filled, gapBehind, GapBuffer.line, GapBuffer.text]

end Line

/-- The first candidate is shown, and alone if there is room for one only or no other. -/
theorem exists_take_candidates {room : Nat} (hroom : 0 < room) (first : String) (others : List String) :
    ∃ rest, (first :: others).take room = first :: rest ∧ (rest.isEmpty = true ↔ room = 1 ∨ others = []) := by
  obtain ⟨n, rfl⟩ : ∃ n, room = n + 1 := ⟨room - 1, by omega⟩
  refine ⟨others.take n, rfl, ?_⟩
  rw [List.isEmpty_iff, List.take_eq_nil_iff, Nat.add_eq_right]

/-- **Tab closes a word if one suggestion is shown.** The first candidate takes the place of the token as the
editor finds it, and what is behind the cursor stays. A space is put as it should be, for the only candidate
and where none is behind the cursor, exactly if there is room for a second suggestion, no other candidate, or
that space. So it is for the press of the key, and for the line that is read from there on. -/
theorem tab_closes_word_iff (s : State) (first : String) (others : List String) {room : Nat} (hroom : 0 < room) :
    let before := s.line.before
    let kept := before.take (tokenStart before)
    let spaced := s.line.behind.head? = some ' '
    ∃ fs front token gap s',
      EndsInToken before fs front token ∧
      (Verbatim before → (splitHint (String.ofList before)).1 = fs.map String.ofList) ∧
      s' = { s with line := s.line.filled kept first gap } ∧
      s.press ((first :: others).take room) .tab = .edited s' ∧
      (kept = front ↔ ¬Misleads fs ∧ ¬EscapeThenSpace token) ∧
      (gap = [] ∨ gap = [' ']) ∧
      ((gap = [' '] ↔ others = [] ∧ ¬spaced) ↔ room ≠ 1 ∨ others = [] ∨ spaced) ∧
      ∀ (v : View) keys, v.maxSuggestions = room →
        v.completion.suggestions s.line.string s.line.cursor = first :: others →
        (readKeys v s (.tab :: keys)).line = (readKeys v s' keys).line := by
  intro before kept spaced
  obtain ⟨fs, front, token, hends⟩ := exists_endsInToken before
  obtain ⟨rest, hshown, hrest⟩ := exists_take_candidates hroom first others
  have hpress : s.press ((first :: others).take room) .tab =
      .edited { s with line := s.line.complete first rest.isEmpty } := by
    rw [hshown]
    rfl
  rw [Line.complete_eq_filled] at hpress
  refine ⟨fs, front, token, _, _, hends, hends.splitHint_fst, rfl, hpress, hends.take_tokenStart_eq_iff,
    s.line.gapBehind_cases _, ?_, fun v keys hv hcands => ?_⟩
  · rw [Line.gapBehind_eq_space_iff, hrest]
    show ((room = 1 ∨ others = []) ∧ ¬spaced ↔ others = [] ∧ ¬spaced) ↔ _
    by_cases hspaced : spaced
    · simp [hspaced]
    · by_cases hothers : others = []
      · simp [hothers]
      · simp [hothers, hspaced]
  · have hall : v.shown s = (first :: others).take room := by
      unfold View.shown
      rw [hcands, hv]
    rw [readKeys, hall, hpress]

/-- Behind a dash stand the flags of the command, the shorter ones in front. -/
theorem suggestions_connect_dash :
    (CompletionContext.mk Builtin.table .empty [] []).suggestions "connect -" 9 = ["-host", "-port", "-secure"] := by
  have hcur : StandsBehind "connect -" 9 ["connect"] "-" := by with_unfolding_all rfl
  have hranked : Ranked "" ["host", "port", "secure"] := by
    unfold Ranked
    decide +kernel
  rw [CompletionContext.suggestions_of_isFlag hcur (Builtin.resolve?_connect []) (by decide)]
  show (rankAll ["host", "port", "secure"] "").map ("-" ++ ·) = _
  rw [hranked.rankAll_eq (by decide +kernel)]
  rfl

/-- With room for two of the three flags, the word stays open. -/
theorem tab_closes_word_iff_connect :
    let v : View := ⟨"> ", 80, 2, ⟨Builtin.table, .empty, [], []⟩, .terminal⟩
    let s := State.start "connect -" []
    0 < v.maxSuggestions ∧
      v.completion.suggestions s.line.string s.line.cursor = ["-host", "-port", "-secure"] ∧
      s.press (["-host", "-port", "-secure"].take v.maxSuggestions) .tab =
        .edited (State.start "connect -host" []) ∧
      (readLine v "connect -" [.tab, .enter]).line = some "connect -host" := by
  intro v s
  have hroom : 0 < v.maxSuggestions := by decide
  obtain ⟨fs, front, token, gap, s', -, -, hline, hpress, -, hgap, hiff, hread⟩ :=
    tab_closes_word_iff s "-host" ["-port", "-secure"] hroom
  have hopen : gap = [] := by
    refine hgap.resolve_right fun hspace => ?_
    exact List.cons_ne_nil _ _ ((hiff.2 (Or.inl (by decide))).1 hspace).1
  have hstart : s' = State.start "connect -host" [] := by
    rw [hline, hopen]
    decide +kernel
  refine ⟨hroom, suggestions_connect_dash, by rw [hpress, hstart], ?_⟩
  rw [show readLine v "connect -" [.tab, .enter] = readKeys v s [.tab, .enter] from rfl,
    hread v [.enter] rfl suggestions_connect_dash, hstart]
  rfl

/-- With room for one of them, Tab closes the word behind the first. -/
theorem tab_closes_open_word_connect :
    let v : View := ⟨"> ", 80, 1, ⟨Builtin.table, .empty, [], []⟩, .terminal⟩
    let s := State.start "connect -" []
    v.completion.suggestions s.line.string s.line.cursor = ["-host", "-port", "-secure"] ∧
      s.line.behind = [] ∧
      s.press (v.shown s) .tab = .edited (State.start "connect -host " []) ∧
      (readLine v "connect -" [.tab, .enter]).line = some "connect -host " := by
  intro v s
  have hcands : v.completion.suggestions s.line.string s.line.cursor = ["-host", "-port", "-secure"] :=
    suggestions_connect_dash
  have hpress : s.press (v.shown s) .tab = .edited (State.start "connect -host " []) := by
    unfold View.shown
    rw [hcands]
    decide +kernel
  refine ⟨hcands, rfl, hpress, ?_⟩
  rw [show readLine v "connect -" [.tab, .enter] = readKeys v s [.tab, .enter] from rfl, readKeys, hpress]
  rfl

end CommandShell.Editor
