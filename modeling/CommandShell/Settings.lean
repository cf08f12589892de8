import CommandShell.ArgumentStack
import CommandShell.CancelSignal
import CommandShell.Json.Node
import CommandShell.Json.Printer

/-!
# Settings

Every setting may be left open; an open one has its default. Settings are read from a JSON text,
either as objects, whose unknown members are skipped, or as arrays of their fields in order.

    (a.mergedWith b).x = b.x if b sets x, and a.x otherwise
-/

namespace CommandShell

/-! ## Settings -/

structure StackSettings where
  push : Option String := none
  pop : Option String := none
  clear : Option String := none
deriving DecidableEq

structure HistorySettings where
  enabled : Option Bool := none
  path : Option String := none
  maxEntries : Option Nat := none
deriving DecidableEq

/-- Times in milliseconds. -/
structure CancelSettings where
  delay : Option Nat := none
  interval : Option Nat := none
deriving DecidableEq

structure SuggestionSettings where
  max : Option Nat := none
deriving DecidableEq

structure Settings where
  prompt : Option String := none
  stack : StackSettings := {}
  history : HistorySettings := {}
  cancel : CancelSettings := {}
  suggestions : SuggestionSettings := {}
deriving DecidableEq

namespace Settings

/-- The settings, overridden by those that `later` sets. -/
def mergedWith (s later : Settings) : Settings where
  prompt := later.prompt.or s.prompt
  stack.push := later.stack.push.or s.stack.push
  stack.pop := later.stack.pop.or s.stack.pop
  stack.clear := later.stack.clear.or s.stack.clear
  history.enabled := later.history.enabled.or s.history.enabled
  history.path := later.history.path.or s.history.path
  history.maxEntries := later.history.maxEntries.or s.history.maxEntries
  cancel.delay := later.cancel.delay.or s.cancel.delay
  cancel.interval := later.cancel.interval.or s.cancel.interval
  suggestions.max := later.suggestions.max.or s.suggestions.max

/-! ## Effective values -/

def promptText (s : Settings) : String :=
  s.prompt.getD "> "

def stackTokens (s : Settings) : StackTokens :=
  let default : StackTokens := {}
  ⟨s.stack.push.getD default.push, s.stack.pop.getD default.pop, s.stack.clear.getD default.clear⟩

def historyEnabled (s : Settings) : Bool :=
  s.history.enabled.getD true

def historyMaxEntries (s : Settings) : Nat :=
  s.history.maxEntries.getD 100

def cancelTiming (s : Settings) : CancelTiming :=
  ⟨s.cancel.delay.getD 200, s.cancel.interval.getD 100⟩

def maxSuggestions (s : Settings) : Nat :=
  s.suggestions.max.getD 10

/-! ## Reading -/

open Json

/-- The nodes of the fields of a section, in the order of the names. An object may hold other
members, but no field twice; an array lists at least the first `required` fields. -/
def fieldNodes? (names : List String) (required : Nat) : Node → Option (List (Option Node))
  | .object members =>
    if members.all (fun m => m.1.isSome) &&
        names.all (fun name => (members.filter fun m => m.1 == some name).length ≤ 1) then
      some (names.map fun name => (members.find? fun m => m.1 == some name).map (·.2))
    else none
  | .array items =>
    if required ≤ items.length ∧ items.length ≤ names.length then
      some ((List.range names.length).map fun i => items[i]?)
    else none
  | _ => none

/-- A field that may be left open; null leaves it open too. -/
def openField? {α : Type} (read : Node → Option α) : Option Node → Option (Option α)
  | none => some none
  | some .null => some none
  | some n => (read n).map some

def text? : Node → Option String
  | .string s => s
  | _ => none

def flag? : Node → Option Bool
  | .bool b => some b
  | _ => none

/-- A whole number within 64 bits, written with digits alone. -/
def count? : Node → Option Nat
  | .number ⟨false, whole, none, none⟩ =>
    let n := Number.digitsValue 0 whole
    if n < Number.twoTo 64 then some n else none
  | _ => none

/-- A section that may be left out. -/
def section? {α : Type} (default : α) (read : Node → Option α) : Option Node → Option α
  | none => some default
  | some n => read n

def stack? (n : Node) : Option StackSettings :=
  match fieldNodes? ["push", "pop", "clear"] 3 n with
  | some [push, pop, clear] => do
    some ⟨← openField? text? push, ← openField? text? pop, ← openField? text? clear⟩
  | _ => none

def history? (n : Node) : Option HistorySettings :=
  match fieldNodes? ["enabled", "path", "max_entries"] 3 n with
  | some [enabled, path, maxEntries] => do
    some ⟨← openField? flag? enabled, ← openField? text? path, ← openField? count? maxEntries⟩
  | _ => none

def cancel? (n : Node) : Option CancelSettings :=
  match fieldNodes? ["delay_ms", "interval_ms"] 2 n with
  | some [delay, interval] => do
    some ⟨← openField? count? delay, ← openField? count? interval⟩
  | _ => none

def suggestions? (n : Node) : Option SuggestionSettings :=
  match fieldNodes? ["max"] 1 n with
  | some [max] => do some ⟨← openField? count? max⟩
  | _ => none

/-- The settings that a node stands for. -/
def ofNode? (n : Node) : Option Settings :=
  match fieldNodes? ["prompt", "stack", "history", "cancel", "suggestions"] 1 n with
  | some [prompt, stack, history, cancel, suggestions] => do
    some {
      prompt := ← openField? text? prompt
      stack := ← section? {} stack? stack
      history := ← section? {} history? history
      cancel := ← section? {} cancel? cancel
      suggestions := ← section? {} suggestions? suggestions }
  | _ => none

/-- The settings that a text stands for. -/
def ofText? (s : String) : Option Settings :=
  (Node.ofText? s).bind ofNode?

/-! ## Writing -/

def optionalCount (n : Option Nat) : Json :=
  (n.map Json.ofNat).getD .null

/-- The settings as they are set, with all fields in order. -/
def json (s : Settings) : Json :=
  .object [
    ("prompt", .ofOption s.prompt),
    ("stack", .object [
      ("push", .ofOption s.stack.push),
      ("pop", .ofOption s.stack.pop),
      ("clear", .ofOption s.stack.clear)]),
    ("history", .object [
      ("enabled", (s.history.enabled.map Json.bool).getD .null),
      ("path", .ofOption s.history.path),
      ("max_entries", optionalCount s.history.maxEntries)]),
    ("cancel", .object [
      ("delay_ms", optionalCount s.cancel.delay),
      ("interval_ms", optionalCount s.cancel.interval)]),
    ("suggestions", .object [("max", optionalCount s.suggestions.max)])]

/-! ## Lemmas -/

theorem mergedWith_assoc (a b c : Settings) :
    (a.mergedWith b).mergedWith c = a.mergedWith (b.mergedWith c) := by
  simp [mergedWith, Option.or_assoc]

@[simp] theorem mergedWith_default (s : Settings) : s.mergedWith {} = s := by
  simp [mergedWith]

end Settings
end CommandShell
