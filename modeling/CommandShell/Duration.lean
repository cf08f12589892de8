import CommandShell.Failure
import CommandShell.Number.Decimal
import CommandShell.Text.Blank

/-!
# Durations

A duration is a number of seconds and of nanoseconds below one second. It is read from a decimal
number of seconds, or of milliseconds with the unit `ms`, and rounded to the nearest nanosecond.
-/

namespace CommandShell

structure Duration where
  secs : Nat
  nanos : Nat
deriving DecidableEq

namespace Duration

def nanosPerSecond : Nat := Number.tenTo 9

/-- The duration of a number of nanoseconds. -/
def ofNanos (n : Nat) : Duration :=
  ⟨n / nanosPerSecond, n % nanosPerSecond⟩

def toNanos (d : Duration) : Nat :=
  d.secs * nanosPerSecond + d.nanos

/-- The word of the number of seconds. -/
def secondsWord (d : Duration) : Nat :=
  Number.addWords (Number.nearest d.secs 1) (Number.nearest d.nanos nanosPerSecond)

/-- The seconds with three places. -/
def text (d : Duration) : String :=
  let (num, den) := Number.ratio d.secondsWord
  Number.fixedText 3 num den ++ "s"

/-- What becomes of a text that should be a duration. -/
inductive Reading where
  | duration (d : Duration)
  /-- The text is no duration. -/
  | invalid (causes : Causes)
  /-- The number of seconds does not fit 64 bits. -/
  | tooLong
deriving DecidableEq

/-- Seconds do not fit 64 bits, which no reader survives. -/
def tooLongMessage : String :=
  "cannot convert float seconds to Duration: value is either too big or NaN"

/-- A text without its unit, and how many units are in a second. -/
def splitUnit (text : List Char) : List Char × Nat :=
  if "ms".toList.isSuffixOf text then (text.take (text.length - 2), 1000)
  else if "s".toList.isSuffixOf text then (text.take (text.length - 1), 1)
  else (text, 1)

/-- Why a text is no floating point number. -/
def numberProblem (s : String) : String :=
  if s.isEmpty then "cannot parse float from empty string" else "invalid float literal"

/-- Reads a duration. -/
def read (raw : String) : Reading :=
  let (number, unit) := splitUnit (Text.asciiLower (Text.trim raw)).toList
  let text := Text.trim (String.ofList number)
  let complaint := "invalid duration: " ++ raw
  match Number.readMagnitude text with
  | none => .invalid ⟨complaint, [numberProblem text]⟩
  | some (negative, word) =>
    if Number.infinityWord ≤ word then .invalid ⟨complaint, []⟩
    else if negative && word != 0 then .invalid ⟨complaint, []⟩
    else
      let seconds := if unit = 1 then word else Number.divWord word unit
      let (num, den) := Number.ratio seconds
      if Number.twoTo 64 * den ≤ num then .tooLong
      else .duration (ofNanos (Number.roundDiv (num * nanosPerSecond) den))

end Duration
end CommandShell
