import CommandShell.Proofs.Editor.GapBuffer

/-!
# Browsing by places

The past lines have the places 0 to n - 1, the typed line has the place n behind them. Going up and down
moves the place by one, as far as there are lines, and shows the past line of the new place. The typed line
may be left and come back to often, with any edits in between:

    the line shown at the return to n = the line at the last step that left n
-/

namespace CommandShell.Editor

/-! ## Places -/

/-- A move over the lines, or a change of the text that is shown. -/
inductive Step where
  | up
  | down
  | edit (text : String)
deriving DecidableEq

namespace Step

/-- The place that a step leads to from a place among `n` past lines. -/
def move (n p : Nat) : Step → Nat
  | up => p - 1
  | down => min (p + 1) n
  | edit _ => p

/-- The place after some steps that began on the typed line. -/
def place (n : Nat) (steps : List Step) : Nat :=
  steps.foldl (move n) n

theorem place_concat (n : Nat) (steps : List Step) (s : Step) :
    place n (steps ++ [s]) = move n (place n steps) s := by
  simp [place]

end Step

/-! ## A browser at a place -/

/-- The browser stands at a place. On a past line it keeps a text to come back to. -/
inductive Browser.StandsAt (entries : List String) : Browser → Nat → String → Prop where
  | typed (draft kept : String) : StandsAt entries ⟨entries, none, draft⟩ entries.length kept
  | past {p : Nat} (hp : p < entries.length) (kept : String) :
      StandsAt entries ⟨entries, some p, kept⟩ p kept

namespace Browser.StandsAt

variable {entries : List String} {b : Browser} {p : Nat} {kept : String}

theorem place_le (h : StandsAt entries b p kept) : p ≤ entries.length := by
  cases h with
  | typed => exact Nat.le_refl _
  | past hp => exact Nat.le_of_lt hp

theorem position_eq (h : StandsAt entries b p kept) :
    b.position = if p < entries.length then some p else none := by
  cases h with
  | typed => exact (if_neg (Nat.lt_irrefl _)).symm
  | past hp => exact (if_pos hp).symm

/-- Going up shows the past line before the place; from the typed line it keeps what is there. -/
theorem older (h : StandsAt entries b p kept) (current : String) :
    (b.older current).2 = (if p = 0 then none else entries[p - 1]?) ∧
      StandsAt entries (b.older current).1 (p - 1) (if p = entries.length then current else kept) := by
  cases h with
  | typed draft kept =>
    rw [if_pos rfl]
    cases entries with
    | nil => exact ⟨rfl, typed current current⟩
    | cons x rest => exact ⟨rfl, past (Nat.lt_succ_self _) current⟩
  | past hp kept =>
    rw [if_neg (Nat.ne_of_lt hp)]
    cases p with
    | zero => exact ⟨rfl, past hp kept⟩
    | succ p => exact ⟨rfl, past (Nat.lt_of_succ_lt hp) kept⟩

/-- Going down shows the past line behind the place, or what was kept. -/
theorem newer (h : StandsAt entries b p kept) :
    b.newer.2 = (if p + 1 < entries.length then entries[p + 1]?
        else if p + 1 = entries.length then some kept else none) ∧
      StandsAt entries b.newer.1 (min (p + 1) entries.length) kept := by
  cases h with
  | typed draft kept =>
    rw [if_neg (by omega), if_neg (by omega), Nat.min_eq_right (Nat.le_succ _)]
    exact ⟨rfl, typed draft kept⟩
  | past hp kept =>
    unfold Browser.newer
    dsimp only
    split
    · next hlt =>
      rw [Nat.min_eq_left hp]
      exact ⟨rfl, past hlt kept⟩
    · next hnot =>
      have hlast : p + 1 = entries.length := by omega
      rw [if_pos hlast, hlast, Nat.min_self]
      exact ⟨rfl, typed "" kept⟩

end Browser.StandsAt

/-! ## Browsing with edits -/

/-- A browser with the text that is on the line. -/
structure Browsing where
  browser : Browser
  text : String
deriving DecidableEq

namespace Browsing

def start (entries : List String) (typed : String) : Browsing :=
  ⟨{ entries := entries }, typed⟩

/-- The line after a move: what the browser gives, or what was there if it gives nothing. -/
def follow (s : Browsing) (found : Browser × Option String) : Browsing :=
  ⟨found.1, found.2.getD s.text⟩

def step (s : Browsing) : Step → Browsing
  | .up => s.follow (s.browser.older s.text)
  | .down => s.follow s.browser.newer
  | .edit text => { s with text := text }

def run (s : Browsing) (steps : List Step) : Browsing :=
  steps.foldl step s

theorem run_concat (s : Browsing) (steps : List Step) (step : Step) :
    s.run (steps ++ [step]) = (s.run steps).step step := by
  simp [run]

section
variable (entries : List String) (typed : String)

/-- The typed line was left for the past lines when it held the text, and not come back to since then. -/
def LeftWith (steps : List Step) (text : String) : Prop :=
  ∃ before between, steps = before ++ .up :: between ∧ Step.place entries.length before = entries.length ∧
    (∀ front, front <+: between → Step.place entries.length (before ++ .up :: front) < entries.length) ∧
    text = ((start entries typed).run before).text

variable {entries typed} {steps : List Step} {kept : String}

theorem LeftWith.concat (h : LeftWith entries typed steps kept) {s : Step}
    (haway : Step.place entries.length (steps ++ [s]) < entries.length) :
    LeftWith entries typed (steps ++ [s]) kept := by
  obtain ⟨before, between, rfl, hbefore, hbetween, htext⟩ := h
  refine ⟨before, between ++ [s], by simp, hbefore, fun front hfront => ?_, htext⟩
  rcases List.prefix_concat_iff.1 hfront with rfl | hfront
  · simpa using haway
  · exact hbetween front hfront

theorem leftWith_up (hhere : Step.place entries.length steps = entries.length)
    (haway : Step.place entries.length (steps ++ [.up]) < entries.length) :
    LeftWith entries typed (steps ++ [.up]) ((start entries typed).run steps).text := by
  refine ⟨steps, [], rfl, hhere, fun front hfront => ?_, rfl⟩
  rw [List.prefix_nil.1 hfront]
  exact haway

/-- After some steps the browser stands at their place and, away from the typed line, keeps what that held
when it was left. -/
structure Keeps (entries : List String) (typed : String) (steps : List Step) (kept : String) : Prop where
  standsAt : Browser.StandsAt entries ((start entries typed).run steps).browser
    (Step.place entries.length steps) kept
  leftWith : Step.place entries.length steps < entries.length → LeftWith entries typed steps kept

theorem Keeps.nil (entries : List String) (typed : String) : Keeps entries typed [] "" :=
  ⟨.typed _ _, fun h => absurd h (Nat.lt_irrefl _)⟩

theorem Keeps.concat (h : Keeps entries typed steps kept) (s : Step) :
    ∃ kept', Keeps entries typed (steps ++ [s]) kept' := by
  obtain ⟨hstands, hleft⟩ := h
  have hrun := run_concat (start entries typed) steps s
  have hplace := Step.place_concat entries.length steps s
  cases s with
  | up =>
    -- only here the kept text can change: the typed line is left
    have holder := (hstands.older ((start entries typed).run steps).text).2
    refine ⟨_, by rw [hrun, hplace]; exact holder, fun haway => ?_⟩
    by_cases hhere : Step.place entries.length steps = entries.length
    · rw [if_pos hhere]
      exact leftWith_up hhere haway
    · rw [if_neg hhere]
      have := hstands.place_le
      exact (hleft (by omega)).concat haway
  | down =>
    refine ⟨kept, by rw [hrun, hplace]; exact hstands.newer.2, fun haway => (hleft ?_).concat haway⟩
    rw [hplace, Step.move] at haway
    omega
  | edit text =>
    refine ⟨kept, by rw [hrun, hplace]; exact hstands, fun haway => (hleft ?_).concat haway⟩
    rwa [hplace] at haway

theorem exists_keeps (entries : List String) (typed : String) (steps : List Step) :
    ∃ kept, Keeps entries typed steps kept := by
  suffices h : ∀ (rest done : List Step) (kept : String), Keeps entries typed done kept →
      ∃ kept', Keeps entries typed (done ++ rest) kept' from h steps [] "" (Keeps.nil entries typed)
  -- on the steps that are left, behind any that are done
  intro rest
  induction rest with
  | nil =>
    intro done kept h
    exact ⟨kept, by rwa [List.append_nil]⟩
  | cons s rest ih =>
    intro done kept h
    obtain ⟨kept', h'⟩ := h.concat s
    rw [List.append_cons]
    exact ih _ kept' h'

end

end Browsing

/-! ## The line editor -/

/-- The step that a key is, where it leaves a text on the line. -/
def Step.ofKey (text : String) : Key → Step
  | .up => .up
  | .down => .down
  | _ => .edit text

namespace State

/-- The steps that keys are, some suggestions shown at each, until the read ends. -/
def steps (s : State) : List (List String × Key) → List Step
  | [] => []
  | (shown, k) :: rest =>
    match s.press shown k with
    | .edited s' => .ofKey s'.line.string k :: s'.steps rest
    | .ended _ => []

def browsing (s : State) : Browsing :=
  ⟨s.browser, s.line.string⟩

theorem browsing_start (typed : String) (entries : List String) :
    (State.start typed entries).browsing = .start entries typed := by
  simp [browsing, State.start, Browsing.start, Line.ofText, Line.string]

theorem browse_eq_edited {s s' : State} {found : Browser × Option String} (h : s.browse found = .edited s') :
    s'.browsing = s.browsing.follow found := by
  obtain ⟨b, text⟩ := found
  cases text with
  | none =>
    obtain rfl := Pressed.edited.inj h
    rfl
  | some text =>
    obtain rfl := Pressed.edited.inj h
    simp [browsing, Browsing.follow, Line.ofText, Line.string]

/-- A key that does not end the read is a step. -/
theorem browsing_press {s s' : State} {shown : List String} {k : Key} (h : s.press shown k = .edited s') :
    s'.browsing = s.browsing.step (.ofKey s'.line.string k) := by
  have hsame : s = s' → s'.browsing = s.browsing.step (.edit s'.line.string) := by
    rintro rfl
    rfl
  have hedit : ∀ f, s.edit f = .edited s' → s'.browsing = s.browsing.step (.edit s'.line.string) := by
    intro f hf
    obtain rfl := Pressed.edited.inj hf
    rfl
  cases k with
  | enter => cases h
  | backspace => exact hedit _ h
  | delete => exact hedit _ h
  | left => exact hedit _ h
  | right => exact hedit _ h
  | home => exact hedit _ h
  | toEnd => exact hedit _ h
  | up => exact browse_eq_edited h
  | down => exact browse_eq_edited h
  | tab =>
    cases shown with
    | nil => exact hsame (Pressed.edited.inj h)
    | cons candidate rest => exact hedit (·.complete candidate rest.isEmpty) h
  | control c =>
    by_cases hd : c = 'd'
    · subst hd
      replace h : (if s.line.text.isEmpty then Pressed.ended none else s.edit .delete) = .edited s' := h
      split at h
      · cases h
      · exact hedit _ h
    · by_cases hc : c = 'c'
      · subst hc
        cases h
      · simp only [press] at h
        exact hsame (Pressed.edited.inj h)
  | char c => exact hedit (·.insert c) h
  | paste text => exact hedit (·.insertAll _) h
  | other => exact hsame (Pressed.edited.inj h)

theorem browsing_pressAll {s s' : State} {presses : List (List String × Key)}
    (h : s.pressAll presses = .edited s') : s'.browsing = s.browsing.run (s.steps presses) := by
  induction presses generalizing s with
  | nil =>
    obtain rfl := Pressed.edited.inj h
    rfl
  | cons press rest ih =>
    obtain ⟨shown, k⟩ := press
    unfold pressAll at h
    unfold steps
    cases hpress : s.press shown k with
    | edited s1 =>
      rw [hpress] at h
      have hrest : s'.browsing = s1.browsing.run (s1.steps rest) := ih h
      rw [browsing_press hpress] at hrest
      exact hrest
    | ended line =>
      rw [hpress] at h
      cases h

end State

/-- **Browsing never loses the draft.** After any moves and edits the browser stands at the place that the
moves lead to, from 0 for the oldest past line to n for the typed line. Going up gives the past line before
it and going down the one behind it, as far as there are lines; going down to the typed line gives exactly
what was on it when it was left last. All this holds of the line that keys edit. -/
theorem browsing_returns_draft (entries : List String) (typed : String) :
    (∀ steps, let s := (Browsing.start entries typed).run steps
      let n := entries.length
      let p := Step.place n steps
      p ≤ n ∧ s.browser.position = (if p < n then some p else none) ∧
      (s.browser.older s.text).2 = (if p = 0 then none else entries[p - 1]?) ∧
      (p = n → s.browser.newer.2 = none) ∧
      (p + 1 < n → s.browser.newer.2 = entries[p + 1]?) ∧
      (p + 1 = n → ∃ draft, s.browser.newer.2 = some draft ∧ Browsing.LeftWith entries typed steps draft)) ∧
    ∀ presses s, (State.start typed entries).pressAll presses = .edited s →
      s.browsing = (Browsing.start entries typed).run ((State.start typed entries).steps presses) := by
  refine ⟨fun steps => ?_, fun presses s hs => ?_⟩
  · obtain ⟨kept, hstands, hleft⟩ := Browsing.exists_keeps entries typed steps
    have holder := (hstands.older ((Browsing.start entries typed).run steps).text).1
    have hnewer := hstands.newer.1
    refine ⟨hstands.place_le, hstands.position_eq, holder, fun hend => ?_, fun hpast => ?_,
      fun hlast => ?_⟩
    · rwa [if_neg (by omega), if_neg (by omega)] at hnewer
    · rwa [if_pos hpast] at hnewer
    · rw [if_neg (by omega), if_pos hlast] at hnewer
      exact ⟨kept, hnewer, hleft (by omega)⟩
  · rw [← State.browsing_start]
    exact State.browsing_pressAll hs

/-- The typed line is left, come back to and changed; a past line that is changed does not count. -/
theorem browsing_returns_draft_changed :
    let entries := ["first", "second"]
    let presses := [Key.up, .down, .char 's', .up, .char '!', .up, .down].map fun k => (([] : List String), k)
    let steps : List Step := [.up, .down, .edit "drafts", .up, .edit "second!", .up, .down]
    ∃ s, (State.start "draft" entries).pressAll presses = .edited s ∧
      s.browsing = (Browsing.start entries "draft").run steps ∧ s.browser.position = some 1 ∧
      s.browser.newer.2 = some "drafts" ∧ Browsing.LeftWith entries "draft" steps "drafts" := by
  intro entries presses steps
  obtain ⟨hplaces, hkeys⟩ := browsing_returns_draft entries "draft"
  have hsteps : (State.start "draft" entries).steps presses = steps := by decide
  obtain ⟨s, hpressed⟩ : ∃ s, (State.start "draft" entries).pressAll presses = .edited s :=
    ⟨_, by with_unfolding_all rfl⟩
  have hbrowsing : s.browsing = (Browsing.start entries "draft").run steps := by
    rw [hkeys presses s hpressed, hsteps]
  have hbrowser : s.browser = ((Browsing.start entries "draft").run steps).browser :=
    congrArg Browsing.browser hbrowsing
  obtain ⟨-, hposition, -, -, -, hdraft⟩ := hplaces steps
  obtain ⟨draft, hnewer, hleft⟩ := hdraft (by decide)
  rw [← hbrowser] at hposition hnewer
  have hdrafts : s.browser.newer.2 = some "drafts" := by
    rw [hbrowser]
    decide
  obtain rfl : "drafts" = draft := Option.some.inj (hdrafts.symm.trans hnewer)
  exact ⟨s, hpressed, hbrowsing, hposition, hdrafts, hleft⟩

end CommandShell.Editor
