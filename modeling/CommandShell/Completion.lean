import CommandShell.ArgumentStack
import CommandShell.Binding
import CommandShell.CommandTable

/-!
# Completion

What may stand at the cursor. The stack and the tokens in front of the cursor are walked as binding
would read them; the walk says which parameter the next token fills, and which token each parameter
got. Candidates come from the command names, the flags that are still free, or the values of the
parameter: from its provider, its enumeration, the truth values, or past lines.

    suggestions x text cursor = the close candidates, best first, each as one token
-/

namespace CommandShell

/-! ## The walk over arguments -/

/-- The place that the next token fills. -/
inductive NextSlot where
  /-- The value of a flag that stands right before. -/
  | flagValue (i : Nat)
  | positional (i : Nat)
  | none
deriving DecidableEq

/-- The parameter of a slot. -/
def NextSlot.index? : NextSlot → Option Nat
  | flagValue i => some i
  | positional i => some i
  | none => Option.none

/-- What a walk knows of a parameter: whether it was touched, and the token that it got. -/
structure Mark where
  used : Bool := false
  token : Option String := none
deriving DecidableEq

abbrev Marks := List Mark

def Marks.start (c : Command) : Marks :=
  c.params.map fun _ => {}

def Marks.isUsed (m : Marks) (i : Nat) : Bool :=
  (m[i]?.map Mark.used).getD false

/-- The token that a parameter got. -/
def Marks.token? (m : Marks) (i : Nat) : Option String :=
  m[i]?.bind Mark.token

/-- A flag named the parameter at a place. -/
def Marks.touch (m : Marks) (i : Nat) : Marks :=
  m.modify i fun k => { k with used := true }

/-- The parameter at a place got a token, or lost it. -/
def Marks.put (m : Marks) (i : Nat) (token : Option String) : Marks :=
  m.set i ⟨true, token⟩

/-- Where a walk ends: the place of the next token, and what each parameter got. -/
structure Walk where
  next : NextSlot
  marks : Marks

/-- Walks over tokens, the parameters marked so far. Nothing stops a walk: an unknown flag is skipped
with the token after it, and a token without a parameter is skipped. -/
def walkAt (c : Command) : Nat → Marks → List String → Walk
  | cursor, m, [] =>
    match c.openFrom? m.isUsed cursor with
    | some (_, i) => ⟨.positional i, m⟩
    | none => ⟨.none, m⟩
  | cursor, m, token :: rest =>
    if isFlag token then
      match c.flagTarget? (flagName token), rest with
      | none, [] => walkAt c cursor m []
      | none, _ :: rest => walkAt c cursor m rest
      | some (p, i), [] =>
        if p.type.isBoolean then walkAt c cursor (m.touch i) [] else ⟨.flagValue i, m.touch i⟩
      | some (p, i), value :: rest =>
        if isFlag value then
          if p.type.isBoolean then walkAt c cursor (m.touch i) (value :: rest)
          else walkAt c cursor (m.put i none) rest
        else walkAt c cursor (m.put i (some value)) rest
    else
      match c.openFrom? m.isUsed cursor with
      | some (_, i) => walkAt c (i + 1) (m.put i (some token)) rest
      | none => walkAt c c.params.length m rest

/-- The walk over the arguments of a command. -/
def walk (c : Command) (args : List String) : Walk :=
  walkAt c 0 (Marks.start c) args

/-! ## Candidates -/

/-- What completion looks at. -/
structure CompletionContext where
  table : CommandTable
  registry : Registry
  stack : List String
  /-- Past lines, oldest first. -/
  history : List String

/-- The token that a past line gave a parameter, if the line ran the command. -/
def pastValue? (c : Command) (slot : Nat) (line : String) : Option String :=
  match tokenize line with
  | .ok (first :: rest) =>
    if Text.sameName (unquote first) c.name then ((walk c rest).marks.token? slot).map unquote else none
  | _ => none

/-- The first occurrence of each element. -/
def firstOccurrences : List String → List String
  | [] => []
  | x :: rest => x :: (firstOccurrences rest).filter (· != x)

/-- The values that past lines gave a parameter, newest first, each once. -/
def historyCandidates (history : List String) (c : Command) (slot : Nat) : List String :=
  firstOccurrences ((history.reverse.filterMap (pastValue? c slot)).filter (· != ""))

/-- Candidates for the value of a parameter. -/
def valueCandidates (x : CompletionContext) (c : Command) (slot : Nat) (hint : String) : List String :=
  match c.params[slot]? with
  | none => []
  | some p =>
    let provided := (p.provider.map fun f => f x.registry hint).getD []
    if !provided.isEmpty then provided
    else match p.type with
      | .enumeration _ variants => variants
      | .boolean => booleanLiterals
      | _ => historyCandidates x.history c slot

/-- The flags of a command that no argument names yet. -/
def flagSuggestions (c : Command) (args : List String) (hint : String) : List String :=
  let used := (args.filter isFlag).map fun t => Text.lowercase (flagName t)
  let names := (c.visibleParams.map (·.name)).filter fun n => !used.contains (Text.lowercase n)
  (rankAll names hint).map ("-" ++ ·)

/-- The values that fit the next slot of a command. -/
def valueSuggestions (x : CompletionContext) (c : Command) (args : List String) (hint : String) :
    List String :=
  match (walk c args).next.index? with
  | some slot => (rankAll (valueCandidates x c slot hint) hint).map quoteIfNeeded
  | none => []

/-- The command that a context of tokens runs, with its arguments. -/
def CommandTable.resolve? (t : CommandTable) (context : List String) : Option (Command × List String) :=
  match context with
  | [] => none
  | name :: args =>
    match t.get? (unquote name) with
    | some c => some (c, args)
    | none => t.default?.map fun c => (c, context)

/-- The tokens in front of the one at the cursor, and the text of that one so far. -/
def splitHint (before : String) : List String × String :=
  match tokenizePartial before with
  | (tokens, true) => (tokens, "")
  | (tokens, false) => (tokens.dropLast, (tokens.getLast?.map unquote).getD "")

/-- What may stand at the cursor. -/
def CompletionContext.suggestions (x : CompletionContext) (text : String) (cursor : Nat) : List String :=
  let (tokens, hint) := splitHint (String.ofList (text.toList.take cursor))
  let context := x.stack ++ tokens
  if context.isEmpty then rankAll x.table.names hint
  else match x.table.resolve? context with
    | none => []
    | some (c, args) =>
      if isFlag hint then flagSuggestions c args (flagName hint) else valueSuggestions x c args hint

/-! ## Lemmas -/

/-- The command that tokens name is one of the table. -/
theorem CommandTable.mem_of_resolve? {t : CommandTable} {context args : List String} {c : Command}
    (h : t.resolve? context = some (c, args)) : c ∈ t.commands := by
  unfold resolve? at h
  split at h
  · cases h
  · split at h
    · next hget =>
      cases h
      exact List.mem_map.2 ⟨_, Assoc.mem_of_find? hget, rfl⟩
    · obtain ⟨d, hd, he⟩ := Option.map_eq_some_iff.1 h
      cases he
      obtain ⟨key, -, hkey⟩ := Option.bind_eq_some_iff.1 hd
      exact List.mem_map.2 ⟨_, Assoc.mem_of_find? hkey, rfl⟩

theorem mem_firstOccurrences {x : String} {xs : List String} : x ∈ firstOccurrences xs ↔ x ∈ xs := by
  induction xs with
  | nil => simp [firstOccurrences]
  | cons y rest ih =>
    by_cases h : x = y <;> simp [firstOccurrences, ih, h]

theorem nodup_firstOccurrences (xs : List String) : (firstOccurrences xs).Nodup := by
  induction xs with
  | nil => simp [firstOccurrences]
  | cons y rest ih =>
    rw [firstOccurrences, List.nodup_cons]
    exact ⟨by simp, ih.filter _⟩

end CommandShell
