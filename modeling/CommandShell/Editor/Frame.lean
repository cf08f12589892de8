import CommandShell.Text.Width

/-!
# Frames

What the terminal shows while a line is typed: the prompt with the line, the suggestions below it
and the cursor. A line that does not fit is cut and shows its end; suggestions show their start.
Whether a text fits is measured on the whole text, how much of it is kept on its characters.

    clip ws s w = the start of s with dots behind it, tail ws s w = its end with dots in front
-/

namespace CommandShell.Editor

open Text (Widths)

/-! ## Cut texts -/

/-- The longest start of a text whose characters take at most `room` columns. -/
def fitting (ws : Widths) (room : Nat) : List Char → List Char
  | [] => []
  | c :: rest => if ws.char c ≤ room then c :: fitting ws (room - ws.char c) rest else []

def dots (n : Nat) : String :=
  String.ofList (List.replicate n '.')

/-- The start of a text that is too wide, with dots behind it. -/
def clip (ws : Widths) (s : String) (width : Nat) : String :=
  if width = 0 then ""
  else if ws.text s ≤ width then s
  else if width ≤ 3 then dots width
  else String.ofList (fitting ws (width - 3) s.toList) ++ dots 3

/-- The end of a text that is too wide, with dots in front of it. -/
def tail (ws : Widths) (s : String) (width : Nat) : String :=
  if width = 0 then ""
  else if ws.text s ≤ width then s
  else if width ≤ 3 then dots width
  else dots 3 ++ String.ofList (fitting ws (width - 3) s.toList.reverse).reverse

/-! ## Frames -/

/-- One picture of the terminal below the text that is already there. -/
structure Frame where
  promptLine : String
  suggestions : List String
  /-- The column of the cursor, counted from 0. -/
  column : Nat
deriving DecidableEq

/-- The columns that are left for the line. -/
def roomForLine (ws : Widths) (prompt : String) (width : Nat) : Nat :=
  width - (ws.text prompt + 1)

/-- The prompt with the end of the line. -/
def promptLine (ws : Widths) (prompt line : String) (width : Nat) : String :=
  clip ws (prompt ++ tail ws line (roomForLine ws prompt width)) (width - 1)

/-- The column of the cursor. On a line that is cut the cursor stands at the end. -/
def cursorColumn (ws : Widths) (prompt line before : String) (width : Nat) : Nat :=
  let room := roomForLine ws prompt width
  let shown := if ws.text line ≤ room then ws.text before else ws.text (tail ws line room)
  min (ws.text prompt + shown) (width - 1)

/-- A suggestion with the mark in front of it; only the first one's is seen. -/
def marked (first : Bool) (s : String) : String :=
  "  " ++ (if first then ">" else " ") ++ " " ++ s

/-- A suggestion as it is drawn. -/
def suggestionLine (ws : Widths) (width : Nat) (first : Bool) (s : String) : String :=
  clip ws (marked first s) (width - 1)

/-- Suggestions as they are drawn. -/
def suggestionLines (ws : Widths) (width : Nat) : List String → List String
  | [] => []
  | s :: rest => suggestionLine ws width true s :: rest.map (suggestionLine ws width false)

/-- The least width that frames are drawn for. -/
def minWidth : Nat := 20

end CommandShell.Editor
