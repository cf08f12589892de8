import CommandShell.CommandTable
import CommandShell.Failure

/-!
# Events and reports

What a session shows and does, in order, and the messages that a failure is reported with: the error
first, for a failed command each cause from the innermost, then hints.
-/

namespace CommandShell

inductive Event where
  | error (message : String)
  | hint (message : String)
  /-- An input line, shown after its prompt before it runs. -/
  | echo (prompt line : String)
  | output (o : Output)
  /-- The argument stack changed; its items, oldest first. -/
  | stackChanged (items : List String)
  /-- A command's handler ran. -/
  | called (command : Command) (args : Arguments)
  /-- The host's fallback ran for a name that no command has. -/
  | delegated (name : String) (args : List String)

/-- How many suggestions a hint shows at most. -/
def maxDidYouMean : Nat := 3

/-- A hint with the first suggestions, if there are any. -/
def didYouMean (suggestions : List String) : List Event :=
  if suggestions.isEmpty then []
  else [.hint ("did you mean: " ++ String.intercalate ", " (suggestions.take maxDidYouMean))]

/-- The errors of a failure. -/
def Failure.errors : Failure → List Event
  | execution causes => causes.chain.reverse.map .error
  | f => [.error f.message]

/-- The hints that help with a failure. -/
def Failure.hints : Failure → List Event
  | unknownFlag _ suggestions => didYouMean (suggestions.map ("-" ++ ·))
  | mismatch m =>
    (match m.detail with
      | some detail => [.hint ("reason: " ++ detail)]
      | none => []) ++
    (if m.validValues.isEmpty then [] else [.hint ("valid values: " ++ String.intercalate ", " m.validValues)])
  | unknownCommand _ suggestions => didYouMean suggestions
  | _ => []

/-- The report of a failure, with a summary of the command's parameters where that helps. -/
def Failure.report (f : Failure) (c : Option Command) : List Event :=
  f.errors ++ f.hints ++
    match c with
    | some c => if f.isBinding then [.hint ("syntax: " ++ c.usage)] else []
    | none => []

end CommandShell
