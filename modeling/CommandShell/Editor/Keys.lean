import CommandShell.Completion
import CommandShell.Editor.Browser
import CommandShell.Editor.Frame
import CommandShell.Editor.Line

/-!
# Reading a line from keys

One frame is drawn before every key. Keys edit the line, browse past lines and take over the first
suggestion, until a key ends the line or the input.

    press shown st k = the state after a key, or the line that the read ends with
-/

namespace CommandShell.Editor

/-! ## Keys -/

inductive Key where
  | char (c : Char)
  | enter
  | backspace
  | delete
  | left
  | right
  | home
  | toEnd
  | up
  | down
  | tab
  | control (c : Char)
  | paste (s : String)
  /-- A key without a meaning here. -/
  | other
deriving DecidableEq

structure State where
  line : Line
  browser : Browser
deriving DecidableEq

/-- What becomes of a key. -/
inductive Pressed where
  | edited (s : State)
  /-- The read ends with a line, or with the end of input. -/
  | ended (line : Option String)
deriving DecidableEq

/-- The state at the start of a line. -/
def State.start (initial : String) (entries : List String) : State :=
  ⟨.ofText initial, { entries := entries }⟩

/-- The line changed by an edit. -/
def State.edit (s : State) (f : Line → Line) : Pressed :=
  .edited { s with line := f s.line }

/-- The line replaced by a past one, if there is one. -/
def State.browse (s : State) : Browser × Option String → Pressed
  | (b, some text) => .edited ⟨.ofText text, b⟩
  | (b, none) => .edited { s with browser := b }

/-- What a key does while some suggestions are shown. -/
def State.press (shown : List String) (s : State) : Key → Pressed
  | .enter => .ended (some s.line.string)
  | .backspace => s.edit .backspace
  | .delete => s.edit .delete
  | .left => s.edit .left
  | .right => s.edit .right
  | .home => s.edit .home
  | .toEnd => s.edit .toEnd
  | .up => s.browse (s.browser.older s.line.string)
  | .down => s.browse s.browser.newer
  | .tab =>
    match shown with
    | [] => .edited s
    | candidate :: rest => s.edit (·.complete candidate rest.isEmpty)
  | .control 'd' => if s.line.text.isEmpty then .ended none else s.edit .delete
  | .control 'c' => .ended (some "")
  | .control _ => .edited s
  | .char c => s.edit (·.insert c)
  | .paste text => s.edit (·.insertAll (text.toList.filter (!Text.isControl ·)))
  | .other => .edited s

/-! ## Reading -/

/-- What stays the same while a line is read. -/
structure View where
  prompt : String
  /-- Columns of the terminal. -/
  width : Nat
  maxSuggestions : Nat
  completion : CompletionContext
  /-- What the terminal makes of texts. -/
  widths : Text.Widths

namespace View

/-- The columns that frames are drawn for. -/
def columns (v : View) : Nat :=
  max v.width minWidth

/-- The suggestions that are shown. -/
def shown (v : View) (s : State) : List String :=
  (v.completion.suggestions s.line.string s.line.cursor).take v.maxSuggestions

def frame (v : View) (s : State) : Frame where
  promptLine := promptLine v.widths v.prompt s.line.string v.columns
  suggestions := suggestionLines v.widths v.columns (v.shown s)
  column := cursorColumn v.widths v.prompt s.line.string (String.ofList s.line.before) v.columns

end View

/-- What is drawn. -/
inductive Drawing where
  | frame (f : Frame)
  /-- The prompt and the line when the read ends, without suggestions. -/
  | ended (promptLine : String)

/-- A line read from keys: what was drawn, the line, and the keys that are left. -/
structure KeyRead where
  drawn : List Drawing
  line : Option String
  rest : List Key

/-- Reads keys. When they run out, so does the input. -/
def readKeys (v : View) (s : State) : List Key → KeyRead
  | [] => ⟨[.frame (v.frame s)], none, []⟩
  | k :: rest =>
    match s.press (v.shown s) k with
    | .edited s' =>
      let r := readKeys v s' rest
      { r with drawn := .frame (v.frame s) :: r.drawn }
    | .ended line =>
      ⟨[.frame (v.frame s), .ended (promptLine v.widths v.prompt s.line.string v.columns)], line, rest⟩

/-- Reads a line from keys, some text already on it. -/
def readLine (v : View) (initial : String) (keys : List Key) : KeyRead :=
  readKeys v (.start initial v.completion.history) keys

/-! ## Lemmas -/

theorem readKeys_rest_lt {v : View} {s : State} {keys : List Key} {line : String}
    (h : (readKeys v s keys).line = some line) : (readKeys v s keys).rest.length < keys.length := by
  induction keys generalizing s with
  | nil => simp [readKeys] at h
  | cons k rest ih =>
    rw [readKeys] at h ⊢
    split at h
    · exact Nat.lt_succ_of_lt (ih h)
    · simp

theorem readLine_rest_lt {v : View} {initial : String} {keys : List Key} {line : String}
    (h : (readLine v initial keys).line = some line) :
    (readLine v initial keys).rest.length < keys.length :=
  readKeys_rest_lt h

end CommandShell.Editor
