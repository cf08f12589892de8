import CommandShell.Builtin
import CommandShell.Report

/-!
# Events as printed text

Errors and hints are printed apart from the other lines, so that a program's output can be used
alone. Colors mark them on a terminal.
-/

namespace CommandShell

/-- Where a line is printed. -/
inductive Channel where
  | output
  | errors
deriving DecidableEq

/-- A text in a color, where colors are shown. -/
def highlighted (colored : Bool) (code text : String) : String :=
  if colored then Builtin.painted code text else text

/-- The lines that an event prints. -/
def Event.printed (colored : Bool) : Event → List (Channel × String)
  | .error message => [(.errors, highlighted colored "31" "error:" ++ " " ++ message)]
  | .hint message => [(.errors, "  " ++ highlighted colored "33" message)]
  | .echo prompt line => [(.output, prompt ++ line)]
  | .output o => o.render.map fun line => (.output, line)
  | _ => []

/-- Lines as one text, each with its end. -/
def endedLines (lines : List String) : String :=
  String.join (lines.map (· ++ "\n"))

/-- What some events print on one channel. -/
def printedOn (c : Channel) (events : List Event) : String :=
  endedLines ((events.flatMap (Event.printed false)).filterMap fun (d, line) =>
    if d = c then some line else none)

/-- What an event prints on a terminal, where all lines come together. -/
def Event.shownText (e : Event) : String :=
  endedLines ((e.printed true).map (·.2))

end CommandShell
