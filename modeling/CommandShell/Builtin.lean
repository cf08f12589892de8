import CommandShell.CommandTable
import CommandShell.Conversion

/-!
# The built-in commands

Help, exit, echo, connect, sleep, users and history. What a command needs beyond its arguments it
asks the registry for, and fails if it is not on offer.
-/

namespace CommandShell.Builtin

/-! ## Answers -/

/-- A command is done. -/
def done (o : Output) : Response :=
  { result := .ok o }

/-- A command failed, for one cause. -/
def fail (message : String) : Response :=
  { result := .error ⟨message, []⟩ }

/-- A number filled up with spaces on the left. -/
def padLeft (n : Nat) (s : String) : String :=
  String.ofList (List.replicate (n - s.length) ' ') ++ s

/-! ## Help -/

def help : Command where
  name := "help"
  help := "list commands or show one command's syntax"
  params := [
    { name := "command", type := .text, default := some .absent
      provider := some fun r _ => (r.catalog?.getD []).map (·.name) },
    { name := "table", type := .injected .catalog "catalog" }]
  handler args :=
    match args.injected? .catalog with
    | some (.catalog c) =>
      match args.str? "command" with
      | none => done (.lines c.listing)
      | some name =>
        match c.find? name with
        | some e => done (.lines [e.name ++ " - " ++ e.help, "syntax: " ++ e.usage])
        | none => fail ("no help for unknown command: " ++ name)
    | _ => fail "command table is not available"

/-! ## Exit -/

/-- An exit code of 32 bits. -/
def exitCode? (n : Int64) : Option Int32 :=
  if -(Number.twoTo 31 : Int) ≤ n.toInt ∧ n.toInt < Number.twoTo 31 then some n.toInt32 else none

def exit : Command where
  name := "exit"
  help := "leave the shell after this command"
  params := [
    { name := "code", type := .integer, default := some (.int 0) },
    { name := "shell", type := .injected .control "shell" }]
  handler args :=
    match args.injected? .control with
    | some _ =>
      let n := (args.int? "code").getD 0
      match exitCode? n with
      | some code => { result := .ok .nothing, exit := some code }
      | none => fail ("exit code out of range: " ++ toString n.toInt)
    | none => fail "shell control is not available"

/-! ## Echo -/

/-- The terminal's code of a color. -/
def colorCode? (name : String) : Option String :=
  if name = "Red" then some "31"
  else if name = "Green" then some "32"
  else if name = "Blue" then some "34"
  else none

/-- A text between the codes that turn a color on and off. -/
def painted (code text : String) : String :=
  "\x1b[" ++ code ++ "m" ++ text ++ "\x1b[0m"

def echo : Command where
  name := "echo"
  help := "print text, optionally colored"
  params := [
    { name := "text", type := .text },
    { name := "color", type := .enumeration "Color" ["White", "Red", "Green", "Blue"]
      default := some (.enum "White") }]
  handler args :=
    let text := (args.str? "text").getD ""
    match (args.str? "color").bind colorCode? with
    | some code => done (.text (painted code text))
    | none => done (.text text)

/-! ## Connect -/

def connect : Command where
  name := "connect"
  help := "pretend to open a connection"
  params := [
    { name := "host", type := .text },
    { name := "port", type := .integer, default := some (.int 22) },
    { name := "secure", type := .boolean, default := some (.bool false) }]
  handler args :=
    let host := (args.str? "host").getD ""
    let port := ((args.int? "port").getD 22).toInt
    let scheme := if (args.bool? "secure").getD false then "tls" else "tcp"
    if 1 ≤ port ∧ port ≤ 65535 then
      done (.text ("connected to " ++ scheme ++ "://" ++ host ++ ":" ++ toString port))
    else fail ("port out of range: " ++ toString port)

/-! ## Sleep -/

/-- The tag of the type of durations. -/
def durationTag : String := "duration"

def readDuration : Converter := fun text =>
  match Duration.read text with
  | .duration d => .value (.custom ⟨0, .duration d⟩)
  | .invalid causes => .rejected causes
  | .tooLong => .crash Duration.tooLongMessage

def sleep : Command where
  name := "sleep"
  help := "wait for a while (ctrl-c cancels)"
  params := [
    { name := "duration", type := .custom durationTag },
    { name := "signal", type := .injected .signal "signal" }]
  handler args :=
    match args.custom? "duration" with
    | some (.duration d) =>
      match args.injected? .signal with
      | some _ => { result := .ok (.text ("slept " ++ d.text)), nanos := d.toNanos }
      | none => fail "cancel signal is not available"
    | _ => fail "duration is missing"

/-! ## Users -/

def users : Command where
  name := "users"
  help := "list users or show one (try `users \\` then `list`)"
  params := [
    { name := "action", type := .enumeration "Action" ["list", "show"] },
    { name := "name", type := .text, default := some .absent
      provider := some fun r _ => (r.users?.getD []).map (·.name) },
    { name := "directory", type := .injected .users "directory" }]
  handler args :=
    match args.injected? .users with
    | some (.users d) =>
      if args.str? "action" = some "show" then
        match args.str? "name" with
        | none => fail "users show needs a name"
        | some name =>
          match d.find? name with
          | some u => done (.records [u.record])
          | none => fail ("user not found: " ++ name)
      else done (.records (d.map User.record))
    | _ => fail "user directory is not available"

/-! ## History -/

/-- Entries with their numbers, the first one numbered `first`. -/
def numbered (first : Nat) : List String → List String
  | [] => []
  | entry :: rest => (padLeft 5 (toString first) ++ "  " ++ entry) :: numbered (first + 1) rest

def history : Command where
  name := "history"
  help := "show recent input lines"
  params := [
    { name := "count", type := .integer, default := some (.int 20) },
    { name := "history", type := .injected .history "history" }]
  handler args :=
    match args.injected? .history with
    | some (.history h) =>
      let count := ((args.int? "count").getD 20).toInt.toNat
      let recent := lastEntries count h.entries
      done (.lines (numbered (h.entries.length - recent.length + 1) recent))
    | _ => fail "history is not available in this mode"

/-! ## All of them -/

def commands : List Command :=
  [help, exit, echo, connect, sleep, users, history]

def converters : Converters :=
  Converters.register {} durationTag readDuration

/-- The table of the built-in commands. -/
def table : CommandTable :=
  match CommandTable.build commands with
  | .ok t => t
  | .error _ => {}

end CommandShell.Builtin
