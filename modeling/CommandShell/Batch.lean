import CommandShell.Dispatch
import CommandShell.Text.Lines

/-!
# Batch runs

Every line of an input is shown and carried out, up to the end of the input or the line after which
an exit is requested. A line that is no text ends the run.

    exit code = the requested one, or 1 if some line failed, or 0
-/

namespace CommandShell

/-- The prompt with the items of the stack in front, slashes between them. -/
def promptFor (prompt : String) (stack : List String) : String :=
  if stack.isEmpty then prompt else String.intercalate "/" stack ++ prompt

/-- How a batch run ends. -/
inductive BatchEnd where
  /-- The input or the session is over; `failed` if some line failed. -/
  | finished (failed : Bool)
  /-- A line is no text. -/
  | unreadable
  | crashed (message : String)
deriving DecidableEq

/-- The message for a line that is no text. -/
def unreadableLineMessage : String :=
  "failed to read input line"

structure BatchRun where
  events : List Event
  session : Session
  ending : BatchEnd

namespace BatchRun

/-- A run with more events in front. -/
def after (events : List Event) (r : BatchRun) : BatchRun :=
  { r with events := events ++ r.events }

/-- The exit code of a finished run. -/
def exitCode (r : BatchRun) (failed : Bool) : Int32 :=
  if r.session.exitRequested then r.session.exitCode else if failed then 1 else 0

end BatchRun

/-- The lines of an input, none for one that is no text. -/
def inputLines (bytes : List UInt8) : List (Option String) :=
  (Text.cutLines 10 13 bytes).map Text.decodeBytes

namespace Engine

/-- Shows a line after its prompt and carries it out. -/
def echoAndDispatch (e : Engine) (prompt : String) (s : Session) (line : String) : Step :=
  let step := e.dispatch s line
  { step with events := .echo (promptFor prompt s.stack) line :: step.events }

/-- Runs lines; `failed` tells whether a line failed before. -/
def runLines (e : Engine) (prompt : String) (s : Session) (failed : Bool) :
    List (Option String) → BatchRun
  | [] => ⟨[], s, .finished failed⟩
  | none :: _ => ⟨[], s, .unreadable⟩
  | some line :: rest =>
    let step := e.echoAndDispatch prompt s line
    let failed := failed || step.outcome.isFailure
    match step.outcome with
    | .crashed message => ⟨step.events, step.session, .crashed message⟩
    | _ =>
      if step.session.running then (e.runLines prompt step.session failed rest).after step.events
      else ⟨step.events, step.session, .finished failed⟩

/-- Runs an input. -/
def runBatch (e : Engine) (prompt : String) (s : Session) (input : List UInt8) : BatchRun :=
  e.runLines prompt s false (inputLines input)

end Engine
end CommandShell
