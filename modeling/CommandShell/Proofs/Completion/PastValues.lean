import CommandShell.Proofs.Completion.NotedTokens
import CommandShell.Proofs.Completion.OfferedValues
import Mathlib.Data.List.Induction

/-!
# Values of past lines, newest first

Every line that was entered may give the parameter one value more. It stands first among the candidates
from then on, and is taken away further behind:

    historyCandidates (history ++ [line]) = v :: (historyCandidates history without v)    (line gave v)
                                          = historyCandidates history                     (it gave none)

So each value stands where the newest line that gave it puts it.
-/

namespace CommandShell

/-! ## A walk stays within the parameters -/

section
variable (c : Command) (m : Marks) (args : List String)

theorem length_marks_walkFrom : (walkFrom c m args).marks.length = m.length := by
  fun_induction walkFrom c m args with
  | case1 | case2 => rfl
  | case3 _ _ _ _ ih | case4 _ _ _ _ _ _ ih | case11 _ _ _ _ _ ih => exact ih
  | case6 => exact Marks.length_touch ..
  | case5 _ _ _ _ _ _ _ ih | case7 _ _ _ _ _ _ _ _ _ _ ih =>
    rw [ih, Marks.length_touch]
  | case8 _ _ _ _ _ _ _ _ _ _ ih | case9 _ _ _ _ _ _ _ _ _ ih | case10 _ _ _ _ _ _ _ ih =>
    rw [ih, Marks.length_put]

/-- Wherever a walk ends, the next token fills a parameter of the command. -/
theorem next_walkFrom_lt {i : Nat} (h : (walkFrom c m args).next.index? = some i) : i < c.params.length := by
  fun_induction walkFrom c m args with
  | case1 m p j hopen =>
    cases h
    exact Command.lt_length_of_mem_places (List.mem_of_find?_eq_some hopen)
  | case2 => cases h
  | case6 m token hflag p j ht hno =>
    cases h
    exact Command.lt_length_of_mem_places (Command.mem_places_of_flagTarget? ht)
  -- what a token marks has no part in where the walk ends
  | case3 _ _ _ _ ih | case4 _ _ _ _ _ _ ih | case11 _ _ _ _ _ ih | case5 _ _ _ _ _ _ _ ih
  | case7 _ _ _ _ _ _ _ _ _ _ ih | case8 _ _ _ _ _ _ _ _ _ _ ih | case9 _ _ _ _ _ _ _ _ _ ih
  | case10 _ _ _ _ _ _ _ ih => exact ih h

end

/-! ## What a line gives -/

/-- The line ran the command, and the walk over its arguments gave the parameter at the place a token that
stands for the value. -/
def GaveValue (c : Command) (slot : Nat) (line v : String) : Prop :=
  ∃ first args token, tokenize line = .ok (first :: args) ∧ Text.sameName (unquote first) c.name = true ∧
    (walk c args).marks.token? slot = some token ∧ unquote token = v

section
variable {c : Command} {slot : Nat} {line v w : String} {history : List String}

theorem pastValue?_eq_some_iff : pastValue? c slot line = some v ↔ GaveValue c slot line v := by
  unfold pastValue? GaveValue
  constructor
  · intro h
    split at h
    · next first args ht =>
      split at h
      · next hname =>
        obtain ⟨token, htoken, hv⟩ := Option.map_eq_some_iff.1 h
        exact ⟨first, args, token, ht, hname, htoken, hv⟩
      · cases h
    · cases h
  · rintro ⟨first, args, token, ht, hname, htoken, hv⟩
    rw [ht]
    dsimp only
    rw [if_pos hname, htoken, Option.map_some, hv]

theorem GaveValue.unique (h : GaveValue c slot line v) (h' : GaveValue c slot line w) : v = w :=
  Option.some.inj ((pastValue?_eq_some_iff.2 h).symm.trans (pastValue?_eq_some_iff.2 h'))

/-! ## One line more -/

theorem historyCandidates_concat (history : List String) (c : Command) (slot : Nat) (line : String) :
    historyCandidates (history ++ [line]) c slot =
      match pastValue? c slot line with
      | none => historyCandidates history c slot
      | some v => if v = "" then historyCandidates history c slot
          else v :: (historyCandidates history c slot).filter (· != v) := by
  unfold historyCandidates
  rw [List.reverse_concat, List.filterMap_cons]
  cases pastValue? c slot line with
  | none => rfl
  | some v =>
    rw [List.filter_cons]
    by_cases hempty : v = ""
    · simp [hempty]
    · simp [hempty, firstOccurrences]

theorem historyCandidates_of_gives_none (hline : ∀ v, ¬GaveValue c slot line v) (front behind : List String) :
    historyCandidates (front ++ line :: behind) c slot = historyCandidates (front ++ behind) c slot := by
  have hnone : pastValue? c slot line = none := by
    rw [Option.eq_none_iff_forall_ne_some]
    exact fun v hv => hline v (pastValue?_eq_some_iff.1 hv)
  unfold historyCandidates
  simp [hnone]

/-- The newest line that gave `v` is newer than all that gave `w`: some line gave `v`, and neither it nor a
newer one gave `w`. -/
def GaveLater (c : Command) (slot : Nat) (history : List String) (v w : String) : Prop :=
  ∃ older line newer, history = older ++ line :: newer ∧ GaveValue c slot line v ∧
    ∀ l ∈ line :: newer, ¬GaveValue c slot l w

theorem gaveLater_of_last (h : GaveValue c slot line v) (hne : w ≠ v) :
    GaveLater c slot (history ++ [line]) v w := by
  refine ⟨history, line, [], rfl, h, fun l hl hw => ?_⟩
  rw [List.mem_singleton.1 hl] at hw
  exact hne (hw.unique h)

theorem GaveLater.concat (h : GaveLater c slot history v w) (hline : ¬GaveValue c slot line w) :
    GaveLater c slot (history ++ [line]) v w := by
  obtain ⟨older, l, newer, rfl, hv, hw⟩ := h
  refine ⟨older, l, newer ++ [line], by simp, hv, fun l' hl' => ?_⟩
  rw [← List.cons_append, List.mem_append, List.mem_singleton] at hl'
  rcases hl' with hl' | rfl
  · exact hw l' hl'
  · exact hline

/-- **The candidates stand by the newest lines that gave them.** -/
theorem pairwise_historyCandidates (history : List String) (c : Command) (slot : Nat) :
    (historyCandidates history c slot).Pairwise (GaveLater c slot history) := by
  induction history using List.reverseRecOn with
  | nil => exact .nil
  | append_singleton history line ih =>
    rw [historyCandidates_concat]
    split
    · next hnone =>
      refine ih.imp fun h => h.concat fun hw => ?_
      rw [pastValue?_eq_some_iff.2 hw] at hnone
      cases hnone
    · next v hv =>
      have hgave := pastValue?_eq_some_iff.1 hv
      -- a value other than the one that the line gave keeps its place
      have hkeep : ∀ {u w}, w ≠ v → GaveLater c slot history u w →
          GaveLater c slot (history ++ [line]) u w :=
        fun hne h => h.concat fun hw => hne (hw.unique hgave)
      split
      · next hempty =>
        refine ih.imp_of_mem fun _ hw h => hkeep ?_ h
        rw [hempty]
        exact (mem_historyCandidates.1 hw).1
      · rw [List.pairwise_cons]
        refine ⟨fun w hw => gaveLater_of_last hgave ?_, ?_⟩
        · simpa using (List.mem_filter.1 hw).2
        · refine (ih.filter _).imp_of_mem fun _ hw h => hkeep ?_ h
          simpa using (List.mem_filter.1 hw).2

end

/-- **The values of past lines are offered newest first.** They are the values, none of them empty, that some
line gave the parameter, each once, by the newest lines that gave them. A line that is malformed, has no tokens
or runs another command may be left out. A walk looks only at parameters that the command has, and the place
that the next token fills is one of them. -/
theorem past_values_newest_first (history : List String) (c : Command) (slot : Nat) :
    (∀ v, v ∈ historyCandidates history c slot ↔ v ≠ "" ∧ ∃ line ∈ history, GaveValue c slot line v) ∧
      (historyCandidates history c slot).Nodup ∧
      (historyCandidates history c slot).Pairwise (GaveLater c slot history) ∧
      (∀ front line behind, history = front ++ line :: behind →
        (∀ first args, tokenize line = .ok (first :: args) →
          Text.sameName (unquote first) c.name = false) →
        historyCandidates history c slot = historyCandidates (front ++ behind) c slot) ∧
      ∀ args, (walk c args).marks.length = c.params.length ∧
        ∀ i, (walk c args).next.index? = some i → i < c.params.length := by
  refine ⟨fun v => ?_, ?_, pairwise_historyCandidates history c slot, ?_, fun args => ⟨?_, ?_⟩⟩
  · rw [mem_historyCandidates]
    simp only [pastValue?_eq_some_iff]
  · exact nodup_firstOccurrences _
  · rintro front line behind rfl hother
    refine historyCandidates_of_gives_none (fun v hv => ?_) front behind
    obtain ⟨first, args, token, ht, hname, -, -⟩ := hv
    rw [hother first args ht] at hname
    cases hname
  · rw [walk_eq_walkFrom, length_marks_walkFrom, Marks.length_start]
  · intro i hi
    rw [walk_eq_walkFrom] at hi
    exact next_walkFrom_lt c _ args hi

/-- A value that was given twice, once in quotes, stands where the newer line puts it; a comment and a line of
another command are no lines of the command. -/
theorem past_values_newest_first_connect :
    let newer := ["connect alpha", "connect \"beta\" 22"]
    let history := "connect beta" :: "# connect gamma" :: newer
    historyCandidates history Builtin.connect 0 = ["beta", "alpha"] ∧
      GaveLater Builtin.connect 0 history "beta" "alpha" ∧
      (∀ first args, tokenize "# connect gamma" = .ok (first :: args) →
        Text.sameName (unquote first) "connect" = false) ∧
      historyCandidates history Builtin.connect 0 =
        historyCandidates ("connect beta" :: newer) Builtin.connect 0 ∧
      (walk Builtin.connect ["-port"]).next.index? = some 1 ∧ 1 < Builtin.connect.params.length := by
  intro newer history
  obtain ⟨-, -, hlater, hother, hwithin⟩ := past_values_newest_first history Builtin.connect 0
  have hcomment : tokenize "# connect gamma" = .ok [] := by with_unfolding_all rfl
  have hcandidates : historyCandidates history Builtin.connect 0 = ["beta", "alpha"] := by
    have hfirst : tokenize "connect beta" = .ok ["connect", "beta"] := by with_unfolding_all rfl
    have hthird : tokenize "connect alpha" = .ok ["connect", "alpha"] := by with_unfolding_all rfl
    have hlast : tokenize "connect \"beta\" 22" = .ok ["connect", "\"beta\"", "22"] := by
      with_unfolding_all rfl
    have hvalues : history.reverse.filterMap (pastValue? Builtin.connect 0) = ["beta", "alpha", "beta"] := by
      simp only [history, newer, List.reverse_cons, List.reverse_nil, List.nil_append, List.cons_append,
        List.filterMap_cons, List.filterMap_nil, pastValue?, hfirst, hcomment, hthird, hlast]
      with_unfolding_all decide
    unfold historyCandidates
    rw [hvalues]
    decide
  have hno : ∀ first args, tokenize "# connect gamma" = .ok (first :: args) →
      Text.sameName (unquote first) "connect" = false := by
    intro first args h
    rw [hcomment] at h
    cases h
  have hnext : (walk Builtin.connect ["-port"]).next.index? = some 1 := by with_unfolding_all rfl
  refine ⟨hcandidates, ?_, hno, hother ["connect beta"] "# connect gamma" newer rfl hno, hnext,
    (hwithin ["-port"]).2 1 hnext⟩
  rw [hcandidates] at hlater
  exact List.rel_of_pairwise_cons hlater List.mem_cons_self

end CommandShell
