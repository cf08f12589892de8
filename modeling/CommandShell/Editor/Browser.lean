/-!
# Browsing past lines

Past lines, oldest first, with the line that is being typed behind the newest. Going back from the
typed line keeps it as the draft, and coming back to it shows the draft again.
-/

namespace CommandShell.Editor

structure Browser where
  entries : List String
  /-- The past line that is shown; none for the typed line. -/
  position : Option Nat := none
  /-- The typed line when it was left last. -/
  draft : String := ""
deriving DecidableEq

namespace Browser

/-- Goes to the line before the shown one; `current` is what stands on the line now. -/
def older (b : Browser) (current : String) : Browser × Option String :=
  match b.position with
  | none =>
    let b := { b with draft := current }
    if b.entries.isEmpty then (b, none)
    else ({ b with position := some (b.entries.length - 1) }, b.entries[b.entries.length - 1]?)
  | some 0 => (b, none)
  | some (p + 1) => ({ b with position := some p }, b.entries[p]?)

/-- Goes to the line after the shown one. -/
def newer (b : Browser) : Browser × Option String :=
  match b.position with
  | none => (b, none)
  | some p =>
    if p + 1 < b.entries.length then ({ b with position := some (p + 1) }, b.entries[p + 1]?)
    else ({ b with position := none, draft := "" }, some b.draft)

end Browser
end CommandShell.Editor
