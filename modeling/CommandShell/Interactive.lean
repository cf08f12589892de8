import CommandShell.Batch
import CommandShell.HistoryFile

/-!
# Interactive runs

Lines come from a source that shows a prompt and may offer completions. A line that is not blank
goes into the history and is carried out; a refused one is put back on the next line. The history
file is loaded beside that: its entries are merged in front at the first turn that finds them
loaded, or after the last line.

    converse src e o i = the turns of a session, until an exit, the end of input or a failed read
-/

namespace CommandShell

/-! ## Line sources -/

/-- What a line source is asked. -/
structure ReadRequest where
  prompt : String
  /-- Text that stands on the line at first. -/
  initial : String
  completion : CompletionContext

/-- What a line source did: what it showed, the line or why there is none, and its state. -/
structure ReadResult (σ ε : Type) where
  shown : List ε
  /-- No line at the end of input; the message of a read that failed. -/
  line : Except String (Option String)
  next : σ

/-- A source of lines that runs out. -/
structure LineSource (σ ε : Type) where
  read : σ → ReadRequest → ReadResult σ ε
  /-- How much is left to read. -/
  size : σ → Nat
  size_read : ∀ {s : σ} {q : ReadRequest} {line : String},
    (read s q).line = .ok (some line) → size (read s q).next < size s

/-! ## The state of a session -/

/-- What a session shows and does, in order; `ε` is what the line source shows. -/
inductive SessionEvent (ε : Type) where
  | source (x : ε)
  /-- A line was read. -/
  | entered (line : String)
  | engine (e : Event)
  /-- A refused line is put back. -/
  | prefilled (text : String)

/-- The state between two turns. -/
structure Interaction where
  session : Session
  history : History := {}
  /-- The text that the next line starts with. -/
  prefill : Option String := none
  /-- Entries of the history file that are not merged yet. -/
  pending : Option (List String) := none
  /-- How many turns have begun. -/
  turns : Nat := 0

/-- What stays the same during a session. -/
structure InteractionOptions where
  prompt : String
  /-- The turn, counted from 0, that finds the history file loaded. -/
  loadedAt : Nat := 1
  /-- Commands can look at the history of the session. -/
  sharesHistory : Bool := false

namespace Interaction

/-- Merges the loaded entries, if they are still waiting. -/
def mergePending (i : Interaction) : Interaction :=
  match i.pending with
  | some loaded => { i with history := i.history.mergeLoaded loaded, pending := none }
  | none => i

/-- The begin of a turn. -/
def beginTurn (o : InteractionOptions) (i : Interaction) : Interaction :=
  { (if o.loadedAt ≤ i.turns then i.mergePending else i) with turns := i.turns + 1 }

/-- What the line source is asked in a turn. -/
def request (e : Engine) (o : InteractionOptions) (i : Interaction) : ReadRequest where
  prompt := promptFor o.prompt i.session.stack
  initial := i.prefill.getD ""
  completion := e.completion i.session i.history.entries

/-- The session that a line is carried out in. -/
def offered (o : InteractionOptions) (i : Interaction) : Session :=
  if o.sharesHistory then
    { i.session with registry := i.session.registry.register ⟨0, .history i.history⟩ }
  else i.session

/-- Takes a line that was read: the step that carried it out, if any, and the state after it. -/
def accept (e : Engine) (o : InteractionOptions) (i : Interaction) (line : String) :
    Interaction × Option Step :=
  let i := { i with prefill := none }
  if Text.allBlank line then (i, none)
  else
    let i := { i with history := i.history.add line }
    let step := e.dispatch (i.offered o) line
    let prefill := if step.outcome = .rejected then some line else none
    ({ i with session := step.session, prefill := prefill }, some step)

end Interaction

/-- The events of a line. -/
def lineEvents {ε : Type} (line : String) : Option Step → List (SessionEvent ε)
  | none => [.entered line]
  | some step =>
    .entered line :: step.events.map .engine ++
      (if step.outcome = .rejected then [.prefilled line] else [])

/-! ## The session -/

/-- How a session ends. -/
inductive SessionEnd where
  | finished
  /-- A line could not be read. -/
  | readFailed (message : String)
  | crashed (message : String)
deriving DecidableEq

structure SessionRun (σ ε : Type) where
  events : List (SessionEvent ε)
  state : Interaction
  source : σ
  ending : SessionEnd

/-- A session with more events in front. -/
def SessionRun.after {σ ε : Type} (events : List (SessionEvent ε)) (r : SessionRun σ ε) : SessionRun σ ε :=
  { r with events := events ++ r.events }

/-- Why a step ends the whole program, if it does. -/
def Step.crash? (s : Step) : Option String :=
  match s.outcome with
  | .crashed message => some message
  | _ => none

/-- The turns of a session. -/
def converse {σ ε : Type} (source : LineSource σ ε) (e : Engine) (o : InteractionOptions)
    (i : Interaction) (s : σ) : SessionRun σ ε :=
  if !i.session.running then ⟨[], i, s, .finished⟩
  else
    let i := i.beginTurn o
    let q := i.request e o
    match _h : (source.read s q).line with
    | .error message => ⟨(source.read s q).shown.map .source, i, (source.read s q).next, .readFailed message⟩
    | .ok none => ⟨(source.read s q).shown.map .source, i, (source.read s q).next, .finished⟩
    | .ok (some line) =>
      let taken := i.accept e o line
      let events := (source.read s q).shown.map .source ++ lineEvents line taken.2
      match taken.2.bind Step.crash? with
      | some message => ⟨events, taken.1, (source.read s q).next, .crashed message⟩
      | none => (converse source e o taken.1 (source.read s q).next).after events
termination_by source.size s
decreasing_by exact source.size_read _h

/-- A run with the entries that still wait merged, if it came to its end. -/
def SessionRun.settled {σ ε : Type} (r : SessionRun σ ε) : SessionRun σ ε :=
  match r.ending with
  | .finished => { r with state := r.state.mergePending }
  | _ => r

/-- A session beside which the history is loaded; `loaded` is what the load gives, if anything. -/
def runSession {σ ε : Type} (source : LineSource σ ε) (e : Engine) (o : InteractionOptions)
    (loaded : Option (List String)) (session : Session) (history : History) (s : σ) : SessionRun σ ε :=
  (converse source e o { session := session, history := history, pending := loaded } s).settled

/-- A whole session: its run, and the files after the history was saved, which it is if the session
came to its end. Neither a failed load nor a failed save is reported. -/
def runInteractive {σ ε : Type} (source : LineSource σ ε) (e : Engine) (o : InteractionOptions)
    (store : Option HistoryFile) (files : FileTree) (session : Session) (history : History) (s : σ) :
    SessionRun σ ε × FileTree :=
  let r := runSession source e o (store.bind fun f => (f.load files).toOption) session history s
  match r.ending, store with
  | .finished, some f => (r, (f.save files r.state.history.entries).1)
  | _, _ => (r, files)

/-- The lines that were read, in order. -/
def enteredLines {ε : Type} (events : List (SessionEvent ε)) : List String :=
  events.filterMap fun
    | .entered line => some line
    | _ => none

end CommandShell
