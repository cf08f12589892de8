import CommandShell.CancelSignal
import CommandShell.Completion
import CommandShell.Report

/-!
# Carrying out a line

A line is substituted and split; a control line changes the stack; any other line is put behind the
stack, names a command and binds its arguments, or goes to the host's fallback. What is planned so
runs until it is done or canceled.

    plan e s context  = what the tokens ask to run, or why they are refused
    dispatch e s line = the outcome, the events in order, and the session after the line
-/

namespace CommandShell

/-! ## Engine and session -/

/-- What a host does with a name and arguments. -/
abbrev Fallback := String → List String → Except Causes Output

/-- What stays the same while lines are carried out. -/
structure Engine where
  table : CommandTable
  converters : Converters := {}
  stackTokens : StackTokens := {}
  /-- The host's answer to a name that no command has. -/
  fallback : Option Fallback := none
  /-- How many nanoseconds the fallback takes. -/
  fallbackNanos : String → List String → Nat := fun _ _ => 0
  /-- The host's change to every line before it is split. -/
  substitution : String → String := id
  /-- Changes of the stack are announced. -/
  observed : Bool := false
  /-- Nanoseconds after the start of a run at which a cancel request is noticed. -/
  cancelAfter : Option Nat := none

/-- What lines change. -/
structure Session where
  registry : Registry
  stack : List String := []
  running : Bool := true
  exitCode : Int32 := 0
  /-- The cancel signals that were handed out, one for each line that was carried out. -/
  signals : SignalBoard := .empty

/-- The session before the first line: the control and the catalog are on offer. -/
def Engine.start (e : Engine) (services : Registry) : Session :=
  { registry := (services.register ⟨0, .control⟩).register ⟨0, .catalog e.table.catalog⟩ }

def Session.exitRequested (s : Session) : Bool :=
  !s.running

/-- What became of a line. -/
inductive Outcome where
  /-- Blank, or a comment. -/
  | empty
  | stackChanged
  | completed
  /-- Refused before anything ran. -/
  | rejected
  | canceled
  /-- The command itself failed. -/
  | failed
  /-- The program broke off. -/
  | crashed (message : String)
deriving DecidableEq

def Outcome.isFailure : Outcome → Bool
  | rejected | canceled | failed => true
  | _ => false

/-- A line carried out. -/
structure Step where
  outcome : Outcome
  events : List Event
  session : Session

/-! ## Plans -/

/-- What the tokens of the stack and of a line ask to run. -/
inductive Plan where
  | invoke (c : Command) (args : Arguments)
  | delegate (f : Fallback) (name : String) (args : List String)

/-- The event that tells of a run. -/
def Plan.ran : Plan → Event
  | invoke c args => .called c args
  | delegate _ name args => .delegated name args

/-- What a run answers. -/
def Engine.respond (e : Engine) : Plan → Response
  | .invoke c args => c.handler args
  | .delegate f name args => { result := f name args, nanos := e.fallbackNanos name args }

/-- Why nothing runs, with the command whose parameters the tokens did not fit. -/
structure Refusal where
  failure : Failure
  command : Option Command := none

/-- The services of the next run: the session's, with a cancel signal of its own. -/
def Session.services (s : Session) : Registry :=
  s.registry.register ⟨s.signals.count, .signal⟩

/-- Resolves a command and binds its arguments. Tokens that name no command go to the default command
as a whole, else to the fallback. -/
def Engine.plan (e : Engine) (s : Session) (context : List String) : Except Refusal Plan :=
  match e.table.resolve? context with
  | some (c, args) =>
    match bind e.converters s.services c args with
    | .error f => .error ⟨f, some c⟩
    | .ok bound => .ok (.invoke c bound)
  | none =>
    let name := unquote (context.headD "")
    match e.fallback with
    | some f => .ok (.delegate f name (context.tail.map unquote))
    | none => .error ⟨.unknownCommand name (rankAll e.table.names name), none⟩

/-! ## Algorithm -/

/-- A line that nothing runs for. -/
def Session.refuse (s : Session) (r : Refusal) : Step :=
  match r.failure with
  | .crash message => ⟨.crashed message, [], s⟩
  | f => ⟨.rejected, f.report r.command, s⟩

/-- The end of a run: its output, or its causes of failure. -/
def Session.finish (s : Session) (ran : Event) : Except Causes Output → Step
  | .ok o => ⟨.completed, [ran, .output o], s⟩
  | .error causes => ⟨.failed, ran :: (Failure.execution causes).report none, s⟩

/-- The session after a handler asked the shell to end, if it did. -/
def Session.applyExit (s : Session) : Option Int32 → Session
  | some code => { s with running := false, exitCode := code }
  | none => s

/-- The session after the run with a signal was canceled. -/
def Session.cancel (s : Session) (signal : Nat) : Session :=
  { s with signals := s.signals.cancel signal }

/-- Runs a plan with a signal until it is done or canceled. What the handler asked of the shell stands
either way. -/
def Engine.run (e : Engine) (s : Session) (signal : Nat) (p : Plan) : Step :=
  let r := e.respond p
  let s := s.applyExit r.exit
  match e.cancelAfter.filter (· < r.nanos) with
  | some _ => ⟨.canceled, p.ran :: Failure.canceled.report none, s.cancel signal⟩
  | none => s.finish p.ran r.result

/-- Carries out the tokens of the stack and of a line, together, with a signal of their own. -/
def Engine.execute (e : Engine) (s : Session) (context : List String) : Step :=
  let s' := { s with signals := s.signals.fresh }
  match e.plan s context with
  | .error r => s'.refuse r
  | .ok p => e.run s' s.signals.count p

/-- Applies a control to the stack. -/
def Engine.control (e : Engine) (s : Session) (k : StackControl) : Step :=
  let items := k.apply s.stack
  ⟨.stackChanged, if e.observed then [.stackChanged items] else [], { s with stack := items }⟩

/-- Carries out a line that is split. -/
def Engine.dispatchTokens (e : Engine) (s : Session) (tokens : List String) : Step :=
  if tokens.isEmpty then ⟨.empty, [], s⟩
  else match e.stackTokens.classify tokens with
    | some k => e.control s k
    | none => e.execute s (s.stack ++ tokens)

/-- Carries out a line. -/
def Engine.dispatch (e : Engine) (s : Session) (line : String) : Step :=
  match tokenize (e.substitution line) with
  | .error f => s.refuse ⟨f, none⟩
  | .ok tokens => e.dispatchTokens s tokens

/-- What completion sees between two lines. -/
def Engine.completion (e : Engine) (s : Session) (history : List String) : CompletionContext :=
  ⟨e.table, s.registry, s.stack, history⟩

/-! ## Lemmas -/

theorem Engine.dispatch_of_tokenize {e : Engine} {s : Session} {line : String} {tokens : List String}
    (h : tokenize (e.substitution line) = .ok tokens) : e.dispatch s line = e.dispatchTokens s tokens := by
  simp [dispatch, h]

end CommandShell
