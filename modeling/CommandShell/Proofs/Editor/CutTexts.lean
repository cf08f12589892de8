import CommandShell.Builtin
import CommandShell.Editor.Keys
import CommandShell.Proofs.Text.Width

/-!
# Cut texts and frames

A text that is too wide is cut to what fits beside three dots. Whether it is too wide is measured on the text,
and what fits on its characters one by one; so a cut text fits exactly if what is kept of it does. The measures
are any two for which dots stand apart:

    ws.text (clip ws s w) ≤ w  ↔  w ≤ 3, or s fits, or its longest start of w - 3 columns does   (tail alike)
    ws.text (clip ws s w) ≤ w + n                         if no part of s is wider by more than n
    ws.text (promptLine ws prompt line w) ≤ w - 1 + 2 * n    (the prompt and the line alike)

Where no part of a text is wider than its characters, no line of a frame reaches the end of a row.
-/

namespace CommandShell.Editor

open Text

variable {ws : Widths}

/-! ## Texts and their characters -/

/-- The columns of the characters one by one. -/
def charsWidth (ws : Widths) : List Char → Nat
  | [] => 0
  | c :: cs => ws.char c + charsWidth ws cs

theorem charsWidth_append (as bs : List Char) :
    charsWidth ws (as ++ bs) = charsWidth ws as + charsWidth ws bs := by
  induction as with
  | nil => exact (Nat.zero_add _).symm
  | cons a as ih => rw [List.cons_append, charsWidth, charsWidth, ih, Nat.add_assoc]

theorem charsWidth_reverse (cs : List Char) : charsWidth ws cs.reverse = charsWidth ws cs := by
  induction cs with
  | nil => rfl
  | cons c cs ih =>
    rw [List.reverse_cons, charsWidth_append, ih, charsWidth, charsWidth, charsWidth, Nat.add_zero, Nat.add_comm]

/-- No part of the text takes more than `n` columns more than its characters one by one. -/
def WiderBy (ws : Widths) (n : Nat) (s : String) : Prop :=
  ∀ part, part <:+: s.toList → ws.text (String.ofList part) ≤ charsWidth ws part + n

theorem WiderBy.of_infix {n : Nat} {s t : String} (h : WiderBy ws n t) (hs : s.toList <:+: t.toList) :
    WiderBy ws n s :=
  fun part hpart => h part (hpart.trans hs)

/-! ## What is kept -/

/-- The longest start of a text whose characters, one by one, take no more than `room` columns. -/
structure LongestStart (ws : Widths) (room : Nat) (cs start : List Char) : Prop where
  within : start <+: cs
  fits : charsWidth ws start ≤ room
  longest : ∀ front, front <+: cs → charsWidth ws front ≤ room → front <+: start

theorem longestStart_fitting (ws : Widths) (room : Nat) (cs : List Char) :
    LongestStart ws room cs (fitting ws room cs) := by
  induction cs generalizing room with
  | nil => exact ⟨List.prefix_refl _, Nat.zero_le _, fun _ hfront _ => hfront⟩
  | cons c cs ih =>
    unfold fitting
    by_cases hc : ws.char c ≤ room
    · obtain ⟨hwithin, hfits, hlongest⟩ := ih (room - ws.char c)
      rw [if_pos hc]
      refine ⟨List.cons_prefix_cons.2 ⟨rfl, hwithin⟩, ?_, fun front hfront hroom => ?_⟩
      · rw [charsWidth]
        omega
      · cases front with
        | nil => exact List.nil_prefix
        | cons d front =>
          obtain ⟨rfl, hbehind⟩ := List.cons_prefix_cons.1 hfront
          rw [charsWidth] at hroom
          exact List.cons_prefix_cons.2 ⟨rfl, hlongest front hbehind (by omega)⟩
    · rw [if_neg hc]
      refine ⟨List.nil_prefix, Nat.zero_le _, fun front hfront hroom => ?_⟩
      cases front with
      | nil => exact List.nil_prefix
      | cons d front =>
        obtain ⟨rfl, -⟩ := List.cons_prefix_cons.1 hfront
        rw [charsWidth] at hroom
        omega

theorem LongestStart.eq_fitting {room : Nat} {cs start : List Char} (h : LongestStart ws room cs start) :
    start = fitting ws room cs := by
  obtain ⟨hwithin, hfits, hlongest⟩ := longestStart_fitting ws room cs
  have hle := hlongest start h.within h.fits
  exact hle.eq_of_length_le (h.longest _ hwithin hfits).length_le

/-! ## Dots beside a text -/

theorem toList_dots (n : Nat) : (dots n).toList = List.replicate n '.' :=
  String.toList_ofList

theorem dots_zero : dots 0 = "" := rfl

theorem dots_succ (n : Nat) : dots (n + 1) = "." ++ dots n := by
  apply String.toList_inj.1
  rw [String.toList_append, toList_dots, toList_dots, List.replicate_succ]
  rfl

theorem text_dots_append (h : ws.DotsApart) (n : Nat) (s : String) : ws.text (dots n ++ s) = n + ws.text s := by
  induction n with
  | zero => rw [dots_zero, String.empty_append, Nat.zero_add]
  | succ n ih =>
    have hdot := h.text_dot "" (dots n ++ s)
    rw [String.empty_append, h.empty, ih] at hdot
    rw [dots_succ, String.append_assoc, hdot]
    omega

theorem text_dots (h : ws.DotsApart) (n : Nat) : ws.text (dots n) = n := by
  have hdots := text_dots_append h n ""
  rwa [String.append_empty, h.empty, Nat.add_zero] at hdots

theorem text_append_dots_append (h : ws.DotsApart) {n : Nat} (hn : 0 < n) (s t : String) :
    ws.text (s ++ dots n ++ t) = ws.text s + n + ws.text t := by
  obtain ⟨k, rfl⟩ := Nat.exists_eq_add_of_lt hn
  have hdot := h.text_dot s (dots k ++ t)
  rw [text_dots_append h] at hdot
  rw [Nat.zero_add, dots_succ, String.append_assoc, String.append_assoc, ← String.append_assoc, hdot]
  omega

theorem text_append_dots (h : ws.DotsApart) (s : String) (n : Nat) : ws.text (s ++ dots n) = ws.text s + n := by
  cases n with
  | zero => rw [dots_zero, String.append_empty, Nat.add_zero]
  | succ n =>
    have hdots := text_append_dots_append h n.succ_pos s ""
    rwa [String.append_empty, h.empty, Nat.add_zero] at hdots

theorem charsWidth_dots (h : ws.DotsApart) (n : Nat) : charsWidth ws (List.replicate n '.') = n := by
  induction n with
  | zero => rfl
  | succ n ih => rw [List.replicate_succ, charsWidth, ih, h.char_dot, Nat.add_comm]

/-! ## Columns of a cut text -/

/-- A text cut to a width, where `long` stands for a text that is too wide. -/
def cutTo (ws : Widths) (s long : String) (w : Nat) : String :=
  if w = 0 then "" else if ws.text s ≤ w then s else if w ≤ 3 then dots w else long

/-- The start of a text, cut, with dots behind it. -/
theorem clip_eq (s : String) (w : Nat) :
    clip ws s w = cutTo ws s (String.ofList (fitting ws (w - 3) s.toList) ++ dots 3) w := rfl

/-- The end of a text, cut, with dots in front of it. -/
theorem tail_eq (s : String) (w : Nat) :
    tail ws s w = cutTo ws s (dots 3 ++ String.ofList (fitting ws (w - 3) s.toList.reverse).reverse) w := rfl

theorem text_cutTo_le_iff (h : ws.DotsApart) (s long : String) (w n : Nat) :
    ws.text (cutTo ws s long w) ≤ w + n ↔ w ≤ 3 ∨ ws.text s ≤ w ∨ ws.text long ≤ w + n := by
  unfold cutTo
  have hempty := h.empty
  have hdots := text_dots h w
  split
  · omega
  · split
    · omega
    · split <;> omega

/-- The end that `tail` keeps. -/
theorem fitting_reverse_suffix (ws : Widths) (room : Nat) (cs : List Char) :
    (fitting ws room cs.reverse).reverse <:+ cs := by
  rw [← List.reverse_prefix, List.reverse_reverse]
  exact (longestStart_fitting ws room cs.reverse).within

/-- Only starts of a text count for the cut of its end. -/
theorem text_clip_le (h : ws.DotsApart) {s : String} {n : Nat}
    (hs : ∀ start, start <+: s.toList → ws.text (String.ofList start) ≤ charsWidth ws start + n) (w : Nat) :
    ws.text (clip ws s w) ≤ w + n := by
  obtain ⟨hwithin, hfits, -⟩ := longestStart_fitting ws (w - 3) s.toList
  have hkept := hs _ hwithin
  rw [clip_eq, text_cutTo_le_iff h, text_append_dots h]
  omega

theorem text_tail_le (h : ws.DotsApart) {s : String} {n : Nat} (hs : WiderBy ws n s) (w : Nat) :
    ws.text (tail ws s w) ≤ w + n := by
  have hfits := (longestStart_fitting ws (w - 3) s.toList.reverse).fits
  have hkept := hs _ (fitting_reverse_suffix ws (w - 3) s.toList).isInfix
  rw [charsWidth_reverse] at hkept
  rw [tail_eq, text_cutTo_le_iff h, text_dots_append h]
  omega

/-! ## Frames -/

theorem prefix_append_cases {start as bs : List Char} (h : start <+: as ++ bs) :
    start <+: as ∨ ∃ more, more <+: bs ∧ start = as ++ more := by
  rcases List.prefix_or_prefix_of_prefix h (List.prefix_append as bs) with hfront | ⟨more, rfl⟩
  · exact Or.inl hfront
  · exact Or.inr ⟨more, (List.prefix_append_right_inj as).1 h, rfl⟩

/-- Dots between two texts keep each of them as wide as it is alone. -/
theorem text_start_le (h : ws.DotsApart) {front behind : String} {n : Nat} (hfront : WiderBy ws n front)
    (hbehind : WiderBy ws n behind) {k : Nat} (hk : 0 < k) {start : List Char}
    (hstart : start <+: (front ++ dots k ++ behind).toList) :
    ws.text (String.ofList start) ≤ charsWidth ws start + 2 * n := by
  have hwhole := hfront front.toList (List.infix_refl _)
  rw [String.ofList_toList] at hwhole
  rw [String.toList_append, String.toList_append, toList_dots] at hstart
  rcases prefix_append_cases hstart with hdotted | ⟨more, hmore, rfl⟩
  · rcases prefix_append_cases hdotted with hinside | ⟨ds, hds, rfl⟩
    · have := hfront start hinside.isInfix
      omega
    · obtain ⟨-, hds⟩ := List.prefix_replicate_iff.1 hds
      have htext := text_append_dots h front ds.length
      rw [hds, charsWidth_append, charsWidth_dots h, String.ofList_append, String.ofList_toList, ← dots, htext]
      omega
  · have hrest := hbehind more hmore.isInfix
    have htext := text_append_dots_append h hk front (String.ofList more)
    rw [charsWidth_append, charsWidth_append, charsWidth_dots h, String.ofList_append, String.ofList_append,
      String.ofList_toList, ← dots, htext]
    omega

/-- What `promptLine` cuts: the prompt with the line, or with dots and an end of it. -/
theorem prompt_tail_start_le (h : ws.DotsApart) {prompt line : String} {n : Nat}
    (hn : WiderBy ws n (prompt ++ line)) (w : Nat) {start : List Char}
    (hstart : start <+: (prompt ++ tail ws line w).toList) :
    ws.text (String.ofList start) ≤ charsWidth ws start + 2 * n := by
  have hprompt : WiderBy ws n prompt := hn.of_infix (by
    rw [String.toList_append]
    exact (List.prefix_append _ _).isInfix)
  have hline : WiderBy ws n line := hn.of_infix (by
    rw [String.toList_append]
    exact (List.suffix_append _ _).isInfix)
  rw [tail_eq, cutTo] at hstart
  split at hstart
  case isTrue =>
    rw [String.append_empty] at hstart
    have := hprompt start hstart.isInfix
    omega
  case isFalse hw =>
    split at hstart
    case isTrue =>
      have := hn start hstart.isInfix
      omega
    case isFalse =>
      split at hstart
      case isTrue =>
        refine text_start_le h hprompt hline (Nat.pos_of_ne_zero hw) (hstart.trans ?_)
        rw [String.toList_append (s := prompt ++ dots w)]
        exact List.prefix_append _ _
      case isFalse =>
        rw [← String.append_assoc] at hstart
        refine text_start_le h hprompt (hline.of_infix ?_) (by decide) hstart
        rw [String.toList_ofList]
        exact (fitting_reverse_suffix ws (w - 3) line.toList).isInfix

theorem text_promptLine_le (h : ws.DotsApart) {prompt line : String} {n : Nat}
    (hn : WiderBy ws n (prompt ++ line)) (w : Nat) :
    ws.text (promptLine ws prompt line w) ≤ w - 1 + 2 * n :=
  text_clip_le h (fun _ hstart => prompt_tail_start_le h hn _ hstart) (w - 1)

theorem mem_suggestionLines {w : Nat} {drawn : String} {shown : List String}
    (h : drawn ∈ suggestionLines ws w shown) : ∃ s ∈ shown, ∃ first, drawn = suggestionLine ws w first s := by
  cases shown with
  | nil => cases h
  | cons s rest =>
    rcases List.mem_cons.1 h with rfl | h
    · exact ⟨s, List.mem_cons_self, true, rfl⟩
    · obtain ⟨t, ht, rfl⟩ := List.mem_map.1 h
      exact ⟨t, List.mem_cons_of_mem _ ht, false, rfl⟩

theorem length_suggestionLines (w : Nat) (shown : List String) :
    (suggestionLines ws w shown).length = shown.length := by
  cases shown with
  | nil => rfl
  | cons s rest => simp [suggestionLines]

/-- A frame that no terminal of this many columns wraps: each line and the cursor stay left of the end. -/
structure Frame.WithinRows (ws : Widths) (f : Frame) (columns : Nat) : Prop where
  prompt : ws.text f.promptLine < columns
  suggestion : ∀ s ∈ f.suggestions, ws.text s < columns
  cursor : f.column < columns

theorem View.columns_pos (v : View) : 0 < v.columns := by
  have : minWidth ≤ v.columns := Nat.le_max_right _ _
  rw [minWidth] at this
  omega

theorem View.frame_withinRows {v : View} (h : v.widths.DotsApart) {st : State}
    (hprompt : WiderBy v.widths 0 (v.prompt ++ st.line.string))
    (hshown : ∀ s ∈ v.shown st, ∀ first, WiderBy v.widths 0 (marked first s)) :
    (v.frame st).WithinRows v.widths v.columns := by
  have hcolumns := v.columns_pos
  refine ⟨?_, fun drawn hdrawn => ?_, ?_⟩
  · have := text_promptLine_le h hprompt v.columns
    simp only [frame]
    omega
  · obtain ⟨s, hs, first, rfl⟩ := mem_suggestionLines hdrawn
    have := text_clip_le h (fun start hstart => hshown s hs first start hstart.isInfix) (v.columns - 1)
    simp only [suggestionLine]
    omega
  · simp only [frame, cursorColumn]
    omega

/-- **A cut text fits exactly if what is kept of it does**, for all measures for which dots stand apart. It is
too wide by no more than a part of the text is wider than its characters, and where none is, every frame stays
within its rows. -/
theorem cut_texts_fit_iff (ws : Widths) (h : ws.DotsApart) (w : Nat) :
    (∀ s start, LongestStart ws (w - 3) s.toList start →
      (ws.text (clip ws s w) ≤ w ↔ w ≤ 3 ∨ ws.text s ≤ w ∨ ws.text (String.ofList start) ≤ w - 3)) ∧
    (∀ s ending, LongestStart ws (w - 3) s.toList.reverse ending.reverse →
      (ws.text (tail ws s w) ≤ w ↔ w ≤ 3 ∨ ws.text s ≤ w ∨ ws.text (String.ofList ending) ≤ w - 3)) ∧
    (∀ s n, WiderBy ws n s → ws.text (clip ws s w) ≤ w + n ∧ ws.text (tail ws s w) ≤ w + n) ∧
    (∀ prompt line n, WiderBy ws n (prompt ++ line) →
      ws.text (promptLine ws prompt line w) ≤ w - 1 + 2 * n) ∧
    ∀ (v : View) (st : State), v.widths = ws → v.columns = w → WiderBy ws 0 (v.prompt ++ st.line.string) →
      (∀ s ∈ v.shown st, ∀ first, WiderBy ws 0 (marked first s)) →
      (v.frame st).WithinRows ws w ∧ (v.frame st).suggestions.length = (v.shown st).length := by
  refine ⟨fun s start hstart => ?_, fun s ending hending => ?_, fun s n hn => ⟨?_, text_tail_le h hn w⟩,
    fun prompt line n hn => text_promptLine_le h hn w, ?_⟩
  · have hcut := text_cutTo_le_iff h s (String.ofList start ++ dots 3) w 0
    rw [text_append_dots h] at hcut
    rw [clip_eq, ← hstart.eq_fitting]
    omega
  · have hcut := text_cutTo_le_iff h s (dots 3 ++ String.ofList ending) w 0
    rw [text_dots_append h] at hcut
    rw [tail_eq, ← hending.eq_fitting, List.reverse_reverse]
    omega
  · exact text_clip_le h (fun start hstart => hn start hstart.isInfix) w
  · rintro v st rfl rfl hprompt hshown
    exact ⟨v.frame_withinRows h hprompt hshown, length_suggestionLines _ _⟩

theorem widthFrom_of_standsApart {cs : List Char} (h : ∀ c ∈ cs, standsApart c = true) :
    widthFrom cs = ((charsWidth .terminal cs : Int), ⟨.plain, none⟩) := by
  induction cs with
  | nil => rfl
  | cons c cs ih =>
    have hc : widthStep c ⟨.plain, none⟩ = ((charWidth c : Int), ⟨.plain, none⟩) :=
      of_decide_eq_true (h c List.mem_cons_self)
    rw [widthFrom_cons, ih fun d hd => h d (List.mem_cons_of_mem _ hd), hc, charsWidth, Int.natCast_add]
    rfl

/-- On the terminal no part of such a text is wider than its characters. -/
theorem widerBy_of_standsApart {s : String} (h : s.toList.all standsApart = true) :
    WiderBy .terminal 0 s := by
  intro part hpart
  have hwidth : width (String.ofList part) = charsWidth .terminal part := by
    unfold width
    rw [String.toList_ofList,
      widthFrom_of_standsApart fun c hc => List.all_eq_true.1 h c (hpart.subset hc)]
    exact Int.toNat_natCast _
  exact Nat.le_of_eq hwidth

/-- Letters of two columns, one of which the end of the room falls into, with the name of a command below. -/
theorem cut_texts_fit_iff_wide_letters :
    let line := "echo 0123456789 가나다라마"
    let ws := Widths.terminal
    let v : View := ⟨"> ", 24, 2, ⟨⟨[("echo", Builtin.echo)], none⟩, .empty, [], []⟩, ws⟩
    let st : State := ⟨⟨line.toList, 1⟩, ⟨[], none, ""⟩⟩
    (ws.DotsApart ∧ WiderBy ws 0 (v.prompt ++ st.line.string) ∧
        ∀ s ∈ v.shown st, ∀ first, WiderBy ws 0 (marked first s)) ∧
      (LongestStart ws 21 line.toList "echo 0123456789 가나".toList ∧ ¬ws.text line ≤ 24 ∧
        ws.text (clip ws line 24) ≤ 24) ∧
      (LongestStart ws 21 line.toList.reverse "0123456789 가나다라마".toList.reverse ∧
        ws.text (tail ws line 24) ≤ 24) ∧
      ws.text (promptLine ws "> " line 24) ≤ 23 ∧
      (v.columns = 24 ∧ v.shown st = ["echo"]) ∧
      (v.frame st).WithinRows ws 24 ∧ (v.frame st).suggestions.length = 1 := by
  intro line ws v st
  obtain ⟨hclip, htail, -, hprompt, hframe⟩ := cut_texts_fit_iff ws dotsApart_terminal 24
  obtain ⟨hfront, hbehind, hwide, hfrontFits, hbehindFits⟩ :
      fitting ws 21 line.toList = "echo 0123456789 가나".toList ∧
        fitting ws 21 line.toList.reverse = "0123456789 가나다라마".toList.reverse ∧ ¬ws.text line ≤ 24 ∧
        ws.text (String.ofList "echo 0123456789 가나".toList) ≤ 21 ∧
        ws.text (String.ofList "0123456789 가나다라마".toList) ≤ 21 := by
    decide +kernel
  have hstart := longestStart_fitting ws 21 line.toList
  have hend := longestStart_fitting ws 21 line.toList.reverse
  rw [hfront] at hstart
  rw [hbehind] at hend
  have hshown : v.shown st = ["echo"] := by
    have hclose : ["echo"].filter (isClose "e") = ["echo"] := by decide +kernel
    have hsuggested : v.completion.suggestions st.line.string 1 = rankAll ["echo"] "e" := by
      decide +kernel
    rw [View.shown, show st.line.cursor = 1 from rfl, hsuggested, rankAll, hclose, List.mergeSort_singleton]
    rfl
  have hline : WiderBy ws 0 ("> " ++ line) := widerBy_of_standsApart (by decide +kernel)
  have htyped : WiderBy ws 0 (v.prompt ++ st.line.string) := by
    rw [show st.line.string = line from String.ofList_toList]
    exact hline
  have hnames : ∀ s ∈ v.shown st, ∀ first, WiderBy ws 0 (marked first s) := by
    rw [hshown]
    intro s hs first
    obtain rfl := List.mem_singleton.1 hs
    exact widerBy_of_standsApart (by cases first <;> decide +kernel)
  have hwithin := hframe v st rfl rfl htyped hnames
  rw [hshown] at hwithin
  exact ⟨⟨dotsApart_terminal, htyped, hnames⟩,
    ⟨hstart, hwide, (hclip line _ hstart).2 (Or.inr (Or.inr hfrontFits))⟩,
    ⟨hend, (htail line _ hend).2 (Or.inr (Or.inr hbehindFits))⟩, hprompt _ _ 0 hline,
    ⟨rfl, hshown⟩, hwithin⟩

/-- Narrow pictures with the selector behind them: they are cut as if each took a column, and take two. -/
theorem cut_texts_overflow_hearts :
    let line := "say ❤\uFE0F❤\uFE0F❤\uFE0F to adam"
    let ws := Widths.terminal
    ws.DotsApart ∧ ws.text line = 18 ∧ ¬ws.text (clip ws line 17) ≤ 17 ∧ ¬ws.text (tail ws line 17) ≤ 17 ∧
      promptLine ws "> " line 20 = "> ...ay ❤\uFE0F❤\uFE0F❤\uFE0F to a..." ∧
      ¬ws.text (promptLine ws "> " line 20) ≤ 20 - 1 := by
  refine ⟨dotsApart_terminal, ?_⟩
  decide +kernel

end CommandShell.Editor
