import CommandShell.Editor.Keys
import CommandShell.Proofs.Editor.TokenStart
import CommandShell.Proofs.Text.Bytes

/-!
# The line as a gap buffer

A gap buffer is a text in two parts with the cursor between them: typing adds to the end of the left part,
what is removed goes from the end of the left part or from the front of the right one, and a move takes
characters over the gap. The line under edit is such a buffer, whatever keys are pressed and whatever is
suggested meanwhile.

    g.line = the text of both parts, the cursor behind the left one
    (g.state.press shown k) = (g.press shown k).onLine          for every key
-/

namespace CommandShell.Editor

/-! ## Gap buffers -/

structure GapBuffer where
  left : List Char
  right : List Char
deriving DecidableEq

namespace GapBuffer

def text (g : GapBuffer) : List Char :=
  g.left ++ g.right

/-- A text with the gap at its end. -/
def ofText (s : String) : GapBuffer :=
  ⟨s.toList, []⟩

def insert (g : GapBuffer) (c : Char) : GapBuffer :=
  { g with left := g.left ++ [c] }

def insertAll (g : GapBuffer) (cs : List Char) : GapBuffer :=
  { g with left := g.left ++ cs }

/-- Removes the last character of the left part. -/
def backspace (g : GapBuffer) : GapBuffer :=
  { g with left := g.left.dropLast }

/-- Removes the first character of the right part. -/
def delete (g : GapBuffer) : GapBuffer :=
  { g with right := g.right.tail }

/-- Takes the last character of the left part over the gap. -/
def moveLeft (g : GapBuffer) : GapBuffer :=
  ⟨g.left.dropLast, g.left.getLast?.toList ++ g.right⟩

/-- Takes the first character of the right part over the gap. -/
def moveRight (g : GapBuffer) : GapBuffer :=
  ⟨g.left ++ g.right.head?.toList, g.right.tail⟩

def moveHome (g : GapBuffer) : GapBuffer :=
  ⟨[], g.text⟩

def moveEnd (g : GapBuffer) : GapBuffer :=
  ⟨g.text, []⟩

/-- Puts a candidate in the place of the token that the left part ends in, with a space behind the only
one if the right part has none in front. -/
def complete (g : GapBuffer) (candidate : String) (only : Bool) : GapBuffer :=
  let space := if only = true ∧ g.right.head? ≠ some ' ' then [' '] else []
  { g with left := g.left.take (tokenStart g.left) ++ candidate.toList ++ space }

/-- The line that the buffer stands for. -/
def line (g : GapBuffer) : Line :=
  ⟨g.text, g.left.length⟩

end GapBuffer

/-! ## An editor of a gap buffer -/

structure GapState where
  buffer : GapBuffer
  browser : Browser
deriving DecidableEq

inductive GapPressed where
  | edited (s : GapState)
  | ended (line : Option String)
deriving DecidableEq

namespace GapState

def start (initial : String) (entries : List String) : GapState :=
  ⟨.ofText initial, { entries := entries }⟩

def edit (s : GapState) (f : GapBuffer → GapBuffer) : GapPressed :=
  .edited { s with buffer := f s.buffer }

/-- A past line replaces the whole text, the gap at its end. -/
def browse (s : GapState) : Browser × Option String → GapPressed
  | (b, some text) => .edited ⟨.ofText text, b⟩
  | (b, none) => .edited { s with browser := b }

/-- What a key does to the buffer while some suggestions are shown. -/
def press (shown : List String) (s : GapState) : Key → GapPressed
  | .enter => .ended (some (String.ofList s.buffer.text))
  | .backspace => s.edit .backspace
  | .delete => s.edit .delete
  | .left => s.edit .moveLeft
  | .right => s.edit .moveRight
  | .home => s.edit .moveHome
  | .toEnd => s.edit .moveEnd
  | .up => s.browse (s.browser.older (String.ofList s.buffer.text))
  | .down => s.browse s.browser.newer
  | .tab =>
    match shown with
    | [] => .edited s
    | candidate :: rest => s.edit (·.complete candidate rest.isEmpty)
  | .control 'd' => if s.buffer.text.isEmpty then .ended none else s.edit .delete
  | .control 'c' => .ended (some "")
  | .control _ => .edited s
  | .char c => s.edit (·.insert c)
  | .paste text => s.edit (·.insertAll (text.toList.filter (!Text.isControl ·)))
  | .other => .edited s

/-- The state of the line editor that the buffer stands for. -/
def state (s : GapState) : State :=
  ⟨s.buffer.line, s.browser⟩

end GapState

/-- What the line editor makes of the key. -/
def GapPressed.onLine : GapPressed → Pressed
  | edited s => .edited s.state
  | ended line => .ended line

/-! ## Moves -/

namespace GapBuffer

theorem moveLeft_text (g : GapBuffer) : g.moveLeft.text = g.text := by
  obtain ⟨left, right⟩ := g
  rcases List.eq_nil_or_concat left with rfl | ⟨init, c, rfl⟩
  · rfl
  · simp [moveLeft, text]

theorem moveRight_text (g : GapBuffer) : g.moveRight.text = g.text := by
  obtain ⟨left, right⟩ := g
  cases right <;> simp [moveRight, text]

theorem moveHome_text (g : GapBuffer) : g.moveHome.text = g.text := rfl

theorem moveEnd_text (g : GapBuffer) : g.moveEnd.text = g.text :=
  List.append_nil _

end GapBuffer

/-! ## Edits of the line -/

namespace GapBuffer

@[simp] theorem before_line (g : GapBuffer) : g.line.before = g.left :=
  List.take_left

@[simp] theorem behind_line (g : GapBuffer) : g.line.behind = g.right :=
  List.drop_left

theorem line_ofText (s : String) : (ofText s).line = .ofText s := by
  simp [ofText, line, text, Line.ofText]

theorem insert_line (g : GapBuffer) (c : Char) : g.line.insert c = (g.insert c).line := by
  unfold Line.insert
  rw [before_line, behind_line]
  simp [line, text, insert]

theorem insertAll_line (g : GapBuffer) (cs : List Char) : g.line.insertAll cs = (g.insertAll cs).line := by
  unfold Line.insertAll
  induction cs generalizing g with
  | nil => simp [insertAll]
  | cons c rest ih =>
    have hcons : (g.insert c).insertAll rest = g.insertAll (c :: rest) := by simp [insert, insertAll]
    rw [List.foldl_cons, insert_line, ih, hcons]

theorem backspace_line (g : GapBuffer) : g.line.backspace = g.backspace.line := by
  obtain ⟨left, right⟩ := g
  rcases List.eq_nil_or_concat left with rfl | ⟨init, c, rfl⟩
  · rfl
  · simp [Line.backspace, backspace, line, text, List.eraseIdx_append]

theorem delete_line (g : GapBuffer) : g.line.delete = g.delete.line := by
  unfold Line.delete delete line text
  rw [List.eraseIdx_append_of_length_le (Nat.le_refl _), Nat.sub_self, List.eraseIdx_zero]

theorem left_line (g : GapBuffer) : g.line.left = g.moveLeft.line := by
  obtain ⟨left, right⟩ := g
  rcases List.eq_nil_or_concat left with rfl | ⟨init, c, rfl⟩
  · rfl
  · simp [Line.left, moveLeft, line, text]

theorem right_line (g : GapBuffer) : g.line.right = g.moveRight.line := by
  obtain ⟨left, right⟩ := g
  cases right with
  | nil => simp [Line.right, moveRight, line, text]
  | cons c rest => simp [Line.right, moveRight, line, text]

theorem home_line (g : GapBuffer) : g.line.home = g.moveHome.line := rfl

theorem toEnd_line (g : GapBuffer) : g.line.toEnd = g.moveEnd.line := by
  simp [Line.toEnd, moveEnd, line, text]

theorem complete_line (g : GapBuffer) (candidate : String) (only : Bool) :
    g.line.complete candidate only = (g.complete candidate only).line := by
  unfold Line.complete Line.completionText
  rw [Line.take_tokenStart, before_line, behind_line]
  simp [line, text, complete]

end GapBuffer

/-! ## Keys -/

theorem GapState.state_start (initial : String) (entries : List String) :
    (GapState.start initial entries).state = State.start initial entries := by
  unfold GapState.start GapState.state State.start
  rw [GapBuffer.line_ofText]

theorem GapState.browse_state (g : GapState) (found : Browser × Option String) :
    g.state.browse found = (g.browse found).onLine := by
  obtain ⟨b, entry⟩ := found
  cases entry with
  | none => rfl
  | some text =>
    show Pressed.edited ⟨.ofText text, b⟩ = .edited ⟨(GapBuffer.ofText text).line, b⟩
    rw [GapBuffer.line_ofText]

/-- A key does to the line what it does to the buffer. -/
theorem GapState.press_state (shown : List String) (g : GapState) (k : Key) :
    g.state.press shown k = (g.press shown k).onLine := by
  have hedit : ∀ (f : Line → Line) (f' : GapBuffer → GapBuffer), f g.buffer.line = (f' g.buffer).line →
      g.state.edit f = (g.edit f').onLine := by
    intro f f' h
    unfold State.edit GapState.edit GapPressed.onLine GapState.state
    rw [h]
  have hdelete := hedit .delete .delete g.buffer.delete_line
  cases k with
  | enter => rfl
  | backspace => exact hedit _ _ g.buffer.backspace_line
  | delete => exact hdelete
  | left => exact hedit _ _ g.buffer.left_line
  | right => exact hedit _ _ g.buffer.right_line
  | home => exact hedit _ _ g.buffer.home_line
  | toEnd => exact hedit _ _ g.buffer.toEnd_line
  | up => exact g.browse_state _
  | down => exact g.browse_state _
  | tab =>
    cases shown with
    | nil => rfl
    | cons candidate rest =>
      exact hedit (·.complete candidate rest.isEmpty) (·.complete candidate rest.isEmpty)
        (g.buffer.complete_line candidate rest.isEmpty)
  | control c =>
    by_cases hd : c = 'd'
    · subst hd
      show (if g.buffer.text.isEmpty then Pressed.ended none else g.state.edit .delete) =
        (if g.buffer.text.isEmpty then GapPressed.ended none else g.edit .delete).onLine
      rw [hdelete]
      split <;> rfl
    · by_cases hc : c = 'c'
      · subst hc
        rfl
      · simp only [State.press, press]
        rfl
  | char c => exact hedit (·.insert c) (·.insert c) (g.buffer.insert_line c)
  | paste text => exact hedit (·.insertAll _) (·.insertAll _) (g.buffer.insertAll_line _)
  | other => rfl

/-! ## Runs -/

/-- Keys pressed one after the other, some suggestions shown at each, until the read ends. -/
def State.pressAll (s : State) : List (List String × Key) → Pressed
  | [] => .edited s
  | (shown, k) :: rest =>
    match s.press shown k with
    | .edited s' => s'.pressAll rest
    | .ended line => .ended line

/-- The same keys on the buffer. -/
def GapState.pressAll (g : GapState) : List (List String × Key) → GapPressed
  | [] => .edited g
  | (shown, k) :: rest =>
    match g.press shown k with
    | .edited g' => g'.pressAll rest
    | .ended line => .ended line

/-- The line that is read from keys, what is suggested depending on the buffer; none if they run out. -/
def GapState.read (shown : GapState → List String) (g : GapState) : List Key → Option String
  | [] => none
  | k :: rest =>
    match g.press (shown g) k with
    | .edited g' => g'.read shown rest
    | .ended line => line

theorem GapState.pressAll_state (g : GapState) (presses : List (List String × Key)) :
    g.state.pressAll presses = (g.pressAll presses).onLine := by
  induction presses generalizing g with
  | nil => rfl
  | cons press rest ih =>
    obtain ⟨shown, k⟩ := press
    unfold State.pressAll GapState.pressAll
    rw [press_state]
    cases g.press shown k with
    | edited g' => exact ih g'
    | ended line => rfl

theorem GapState.readKeys_state (v : View) (g : GapState) (keys : List Key) :
    (readKeys v g.state keys).line = g.read (fun g => v.shown g.state) keys := by
  induction keys generalizing g with
  | nil => rfl
  | cons k rest ih =>
    unfold readKeys GapState.read
    rw [press_state]
    cases g.press (v.shown g.state) k with
    | edited g' => exact ih g'
    | ended line => rfl

/-! ## The line in bytes -/

/-- Edits of the line are edits of its bytes at the places of its characters. -/
structure Line.EditsBytes (l : Line) : Prop where
  insert : ∀ c, Text.encodeText (l.insert c).string =
    Text.insertBytes (Text.encodeText l.string) (Text.bytePlace l.text l.cursor) c
  delete : Text.encodeText l.delete.string =
    Text.removeBytes (Text.encodeText l.string) (Text.bytePlace l.text l.cursor)
      (Text.bytePlace l.text (l.cursor + 1))
  backspace : 0 < l.cursor → Text.encodeText l.backspace.string =
    Text.removeBytes (Text.encodeText l.string) (Text.bytePlace l.text (l.cursor - 1))
      (Text.bytePlace l.text l.cursor)

theorem GapBuffer.editsBytes_line (g : GapBuffer) : g.line.EditsBytes := by
  have hstring : ∀ g : GapBuffer, Text.encodeText g.line.string = Text.bytes (g.left ++ g.right) :=
    fun g => Text.encodeText_ofList _
  refine ⟨fun c => ?_, ?_, fun hpos => ?_⟩
  · rw [insert_line, hstring, hstring, insert, ← List.append_cons]
    exact Text.bytes_insert g.left g.right c
  · rw [delete_line, hstring, hstring, delete]
    exact Text.bytes_remove g.left g.right
  · rw [backspace_line, hstring, hstring, backspace]
    obtain ⟨left, right⟩ := g
    rcases List.eq_nil_or_concat left with rfl | ⟨init, c, rfl⟩
    · exact absurd hpos (Nat.lt_irrefl 0)
    · -- the character in front of the cursor is the one behind a cursor one place to the left
      have h := Text.bytes_remove init (c :: right)
      simpa [line, text] using h

/-- **The line is a gap buffer.** Whatever keys are pressed on it and whatever is suggested meanwhile, the
line is what the same keys make of a gap buffer; so the cursor stays in the text, moves keep the text,
a completion keeps what is behind the cursor, and the line that is entered is both parts. What is read from
keys in a terminal is what is read on the buffer. -/
theorem line_is_gap_buffer (initial : String) (entries : List String) (presses : List (List String × Key)) :
    (State.start initial entries).pressAll presses =
        ((GapState.start initial entries).pressAll presses).onLine ∧
      (∀ s, (State.start initial entries).pressAll presses = .edited s →
        s.line.cursor ≤ s.line.text.length ∧
        (GapState.start initial entries).pressAll presses =
          .edited ⟨⟨s.line.before, s.line.behind⟩, s.browser⟩ ∧
        (∀ k ∈ [Key.left, .right, .home, .toEnd], ∀ shown,
          ∃ s', s.press shown k = .edited s' ∧ s'.line.text = s.line.text) ∧
        (∀ shown, ∃ s', s.press shown .tab = .edited s' ∧ s'.line.behind = s.line.behind) ∧
        (∀ shown, s.press shown .enter = .ended (some (String.ofList (s.line.before ++ s.line.behind)))) ∧
        s.line.EditsBytes) ∧
      ∀ (v : View) (keys : List Key), v.completion.history = entries →
        (readLine v initial keys).line =
          (GapState.start initial entries).read (fun g => v.shown g.state) keys := by
  rw [← GapState.state_start]
  refine ⟨GapState.pressAll_state _ _, fun s hs => ?_, fun v keys hentries => ?_⟩
  · rw [GapState.pressAll_state] at hs
    cases hg : (GapState.start initial entries).pressAll presses with
    | ended line =>
      rw [hg] at hs
      cases hs
    | edited g =>
      rw [hg] at hs
      obtain rfl : g.state = s := Pressed.edited.inj hs
      have hcursor : g.buffer.line.cursor ≤ g.buffer.line.text.length := by
        simp [GapBuffer.line, GapBuffer.text]
      have hparts : g = ⟨⟨g.buffer.line.before, g.buffer.line.behind⟩, g.browser⟩ := by
        rw [GapBuffer.before_line, GapBuffer.behind_line]
      refine ⟨hcursor, congrArg _ hparts, ?_, ?_, ?_, g.buffer.editsBytes_line⟩
      · intro k hk shown
        rw [g.press_state]
        simp only [List.mem_cons, List.not_mem_nil, or_false] at hk
        rcases hk with rfl | rfl | rfl | rfl
        · exact ⟨_, rfl, g.buffer.moveLeft_text⟩
        · exact ⟨_, rfl, g.buffer.moveRight_text⟩
        · exact ⟨_, rfl, g.buffer.moveHome_text⟩
        · exact ⟨_, rfl, g.buffer.moveEnd_text⟩
      · intro shown
        rw [g.press_state]
        cases shown with
        | nil => exact ⟨_, rfl, rfl⟩
        | cons candidate rest =>
          refine ⟨_, rfl, ?_⟩
          exact (GapBuffer.behind_line _).trans g.buffer.behind_line.symm
      · intro shown
        rw [Line.before_append_behind]
        rfl
  · subst hentries
    unfold readLine
    rw [← GapState.state_start]
    exact GapState.readKeys_state v _ keys

/-- Typing a character of two bytes, completing the token in front of it, removing it, going to a past line
and back, and removing the space of the completion. -/
theorem line_is_gap_buffer_edits :
    (State.start "é w" ["old"]).pressAll
        [([], .char 'é'), ([], .left), (["wait"], .tab), ([], .delete), ([], .up), ([], .down), ([], .backspace)] =
      .edited ⟨⟨"é wait".toList, 6⟩, { entries := ["old"] }⟩ ∧
    Line.EditsBytes ⟨"é wait".toList, 6⟩ := by
  have h : (State.start "é w" ["old"]).pressAll
      [([], .char 'é'), ([], .left), (["wait"], .tab), ([], .delete), ([], .up), ([], .down), ([], .backspace)] =
        .edited ⟨⟨"é wait".toList, 6⟩, { entries := ["old"] }⟩ := by
    decide +kernel
  obtain ⟨_, _, _, _, _, hbytes⟩ := (line_is_gap_buffer _ _ _).2.1 _ h
  exact ⟨h, hbytes⟩

end CommandShell.Editor
