import CommandShell.Command
import CommandShell.Failure
import CommandShell.Token

/-!
# Conversion of tokens

A token, without one layer of quotes, becomes a value of its parameter's type. Types of the host
are converted by the converter registered under their tag; without one, a text that reads as a
whole number, a number or a truth value becomes that, and any other text stays a text.
-/

namespace CommandShell

/-! ## Converters -/

/-- What a host's converter makes of a text. -/
inductive Converted where
  | value (v : Value)
  /-- The text is refused. -/
  | rejected (causes : Causes)
  /-- The converter breaks off the whole program. -/
  | crash (message : String)

abbrev Converter := String → Converted

/-- Converters by tag in lowercase, the latest first. -/
structure Converters where
  entries : List (String × Converter) := []

namespace Converters

/-- Registers a converter; it replaces an earlier one with the same tag. -/
def register (cs : Converters) (tag : String) (f : Converter) : Converters :=
  ⟨(Text.lowercase tag, f) :: cs.entries⟩

def find? (cs : Converters) (tag : String) : Option Converter :=
  (cs.entries.find? fun e => e.1 = Text.lowercase tag).map (·.2)

def contains (cs : Converters) (tag : String) : Bool :=
  (cs.find? tag).isSome

end Converters

/-! ## Conversion -/

/-- The inputs that a truth value is offered as. -/
def booleanLiterals : List String := ["Y", "N", "true", "false"]

/-- A truth value: yes or no, in short or long form, in any case. -/
def readBool (s : String) : Option Bool :=
  let word := Text.asciiLower (Text.trim s)
  if word = "y" ∨ word = "yes" ∨ word = "true" then some true
  else if word = "n" ∨ word = "no" ∨ word = "false" then some false
  else none

/-- The value of a text whose type has no converter. -/
def genericValue (s : String) : Value :=
  let trimmed := Text.trim s
  match Number.readInt trimmed with
  | some n => .int n
  | none =>
    match Number.readFloat trimmed with
    | some x => .float x
    | none =>
      match readBool trimmed with
      | some b => .bool b
      | none => .str s

/-- The refusal of a text for a parameter. -/
def Parameter.refuse (p : Parameter) (text : String) (validValues : List String) (detail : Option String) :
    Failure :=
  .mismatch ⟨p.name, text, p.type.displayName, validValues, detail⟩

/-- The value of a token for a parameter. -/
def Converters.convert (cs : Converters) (p : Parameter) (token : String) : Except Failure Value :=
  let text := unquote token
  match p.type with
  | .text => .ok (.str text)
  | .integer =>
    match Number.readInt (Text.trim text) with
    | some n => .ok (.int n)
    | none => .error (p.refuse text [] none)
  | .float =>
    match Number.readFloat (Text.trim text) with
    | some x => .ok (.float x)
    | none => .error (p.refuse text [] none)
  | .boolean =>
    match readBool text with
    | some b => .ok (.bool b)
    | none => .error (p.refuse text booleanLiterals none)
  | .enumeration _ variants =>
    match variants.find? (Text.sameName · (Text.trim text)) with
    | some v => .ok (.enum v)
    | none => .error (p.refuse text variants none)
  | .custom tag =>
    match cs.find? tag with
    | none => .ok (genericValue text)
    | some f =>
      match f text with
      | .value v => .ok v
      | .rejected causes => .error (p.refuse text [] (some causes.text))
      | .crash message => .error (.crash message)
  | .injected .. => .error (p.refuse text [] none)

/-! ## Lemmas -/

theorem Converters.convert_of_isBoolean {cs : Converters} {p : Parameter}
    (h : p.type.isBoolean = true) (token : String) :
    cs.convert p token =
      match readBool (unquote token) with
      | some b => .ok (.bool b)
      | none => .error (p.refuse (unquote token) booleanLiterals none) := by
  unfold ParameterType.isBoolean at h
  split at h
  · next ht =>
    unfold convert
    rw [ht]
  · cases h

/-- A token is refused with the name and the type of its parameter, unless a converter breaks off the
program. -/
theorem Converters.convert_eq_error {cs : Converters} {p : Parameter} {token : String} {f : Failure}
    (h : cs.convert p token = .error f) :
    (∃ validValues detail, f = p.refuse (unquote token) validValues detail) ∨
      ∃ tag g message, p.type = .custom tag ∧ cs.find? tag = some g ∧
        g (unquote token) = .crash message ∧ f = .crash message := by
  unfold convert at h
  dsimp only at h
  cases hp : p.type <;> rw [hp] at h <;> dsimp only at h
  case text => cases h
  case custom tag =>
    split at h
    · cases h
    · next g hg =>
      split at h
      · cases h
      · cases h
        exact Or.inl ⟨_, _, rfl⟩
      · next message hm =>
        cases h
        exact Or.inr ⟨tag, g, message, rfl, hg, hm, rfl⟩
  case injected =>
    cases h
    exact Or.inl ⟨_, _, rfl⟩
  -- the other types refuse what they cannot read
  all_goals
    split at h
    · cases h
    · cases h
      exact Or.inl ⟨_, _, rfl⟩

end CommandShell
