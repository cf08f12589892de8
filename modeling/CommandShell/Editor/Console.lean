import CommandShell.Editor.Keys
import CommandShell.Interactive

/-!
# Lines from a terminal

Keys that were typed are a source of lines: each read draws frames and takes keys. A terminal that
cannot draw frames is read as plain text, one line at a time.
-/

namespace CommandShell.Editor

/-- Typed keys as a source of lines. -/
def keySource (width maxSuggestions : Nat) : LineSource (List Key) Drawing where
  read keys q :=
    let r := readLine ⟨q.prompt, width, maxSuggestions, q.completion, .terminal⟩ q.initial keys
    ⟨r.drawn, .ok r.line, r.rest⟩
  size := List.length
  size_read h := readLine_rest_lt (Except.ok.inj h)

/-- What a terminal without frames shows before it reads. -/
def plainPrompt (prompt initial : String) : String :=
  prompt ++ initial

/-- The line that a terminal without frames gives: the text that was shown, and what was typed, without
line ends; none at the end of input, where not even a line end is typed. -/
def plainLine (initial typed : String) : Option String :=
  if typed.isEmpty then none
  else some (initial ++ String.ofList (Text.dropLineEnds typed.toList))

/-- The first line of what is typed, with its line end if it has one. -/
def firstLine (typed : String) : String :=
  let cs := typed.toList
  String.ofList (cs.takeWhile (· != '\n') ++ (cs.dropWhile (· != '\n')).take 1)

end CommandShell.Editor
