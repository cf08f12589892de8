import CommandShell.Conversion
import CommandShell.Rank

/-!
# Binding tokens to parameters

Tokens are read from the left. A token that starts with a dash names a parameter: a truth value that
no value token follows is switched on, every other parameter takes the next token, whatever it is.
Any other token goes to the first parameter that has no value yet; it is looked for from behind the
last parameter that such a token went to. No parameter is bound twice, and a parameter without a default
must be bound.

    bind cs r c ts = the value of each parameter: bound, else from the registry, else its default
-/

namespace CommandShell

/-! ## Flags -/

/-- The token names a parameter. -/
def isFlag (token : String) : Bool :=
  token.toList.head? == some '-'

/-- The name in a flag: the token without its dashes in front. -/
def flagName (token : String) : String :=
  String.ofList (token.toList.dropWhile (· == '-'))

/-! ## Algorithm -/

/-- For each parameter of a command the value that a token bound to it, if one did. -/
abbrev Slots := List (Option Value)

/-- No parameter is bound. -/
def Slots.start (c : Command) : Slots :=
  c.params.map fun _ => none

/-- A token bound the parameter at a place. -/
def Slots.isBound (s : Slots) (i : Nat) : Bool :=
  (s[i]?.map Option.isSome).getD false

/-- The first visible parameter from a place on that is not taken, with its place. -/
def Command.openFrom? (c : Command) (taken : Nat → Bool) (cursor : Nat) : Option (Parameter × Nat) :=
  (c.places.drop cursor).find? fun t => !t.1.isInjected && !taken t.2

/-- Reads the tokens, the parameters in `s` bound so far. -/
def bindAt (cs : Converters) (c : Command) : Nat → Slots → List String → Except Failure Slots
  | _, s, [] => .ok s
  | cursor, s, token :: rest =>
    if isFlag token then
      match c.flagTarget? (flagName token) with
      | none => .error (.unknownFlag (flagName token) (rankAll (c.visibleParams.map (·.name)) (flagName token)))
      | some (p, i) =>
        if s.isBound i then .error (.repeatedParameter p.name)
        else match rest with
          | [] => if p.type.isBoolean then .ok (s.set i (some (.bool true))) else .error (.missingValue p.name)
          | value :: rest =>
            if p.type.isBoolean && isFlag value then
              bindAt cs c cursor (s.set i (some (.bool true))) (value :: rest)
            else match cs.convert p value with
              | .error e => .error e
              | .ok v => bindAt cs c cursor (s.set i (some v)) rest
    else
      match c.openFrom? s.isBound cursor with
      | none => .error (.unexpectedArgument token)
      | some (p, i) =>
        match cs.convert p token with
        | .error e => .error e
        | .ok v => bindAt cs c (i + 1) (s.set i (some v)) rest

/-- The value of a parameter that no token bound. -/
def Parameter.initial (r : Registry) (p : Parameter) : Value :=
  match p.type with
  | .injected kind _ => ((r.find? kind).map Value.injected).getD .absent
  | _ => p.default.getD .absent

/-- The names of the required parameters that are not bound. -/
def Slots.missing (c : Command) (s : Slots) : List String :=
  ((c.params.zip s).filter fun (p, v) => p.isRequired && v.isNone).map fun (p, _) => p.name

/-- The arguments of a command once its tokens are read. -/
def Slots.arguments (r : Registry) (c : Command) (s : Slots) : Arguments :=
  ⟨(c.params.zip s).map fun (p, v) => (p.name, v.getD (p.initial r))⟩

/-- The arguments that some tokens give a command. -/
def bind (cs : Converters) (r : Registry) (c : Command) (tokens : List String) :
    Except Failure Arguments :=
  match bindAt cs c 0 (Slots.start c) tokens with
  | .error e => .error e
  | .ok s =>
    if (s.missing c).isEmpty then .ok (s.arguments r c) else .error (.missingParameters (s.missing c))

/-! ## Lemmas -/

theorem Slots.length_start (c : Command) : (Slots.start c).length = c.params.length := by
  simp [start]

end CommandShell
