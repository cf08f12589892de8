/-!
# The argument stack

Tokens that are put in front of every line, oldest first. A line whose last token is the push token
adds its other tokens; a line that is just the pop token drops the newest one; a line that is just
the clear token drops all.
-/

namespace CommandShell

/-- The tokens that control the stack. -/
structure StackTokens where
  push : String := "\\"
  pop : String := ".."
  clear : String := "..."
deriving DecidableEq

/-- A line that changes the stack instead of running a command. -/
inductive StackControl where
  | push (items : List String)
  | pop
  | clear
deriving DecidableEq

/-- The control that a line's tokens are, if they are one. -/
def StackTokens.classify (t : StackTokens) (tokens : List String) : Option StackControl :=
  match tokens.getLast? with
  | none => none
  | some last =>
    if last = t.push then some (.push tokens.dropLast)
    else if tokens.length ≠ 1 then none
    else if last = t.pop then some .pop
    else if last = t.clear then some .clear
    else none

/-- The stack after a control. -/
def StackControl.apply (items : List String) : StackControl → List String
  | push more => items ++ more
  | pop => items.dropLast
  | clear => []

/-! ## Lemmas -/

theorem StackTokens.classify_nil (t : StackTokens) : t.classify [] = none := rfl

end CommandShell
