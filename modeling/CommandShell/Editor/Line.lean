/-!
# The line under edit

A text and a cursor between two of its characters. Completion puts a candidate in the place of the
token that the cursor stands in or behind.

    tokenStart before = where the token at the end of before begins
-/

namespace CommandShell.Editor

/-! ## Algorithm -/

structure Line where
  text : List Char
  /-- How many characters stand in front of the cursor. -/
  cursor : Nat
deriving DecidableEq

/-- A place between characters, as seen from the token that it belongs to. -/
inductive TokenPlace where
  /-- At the start of a field. -/
  | fieldStart
  /-- Inside a field, outside quotes. -/
  | word
  | quoted
deriving DecidableEq

/-- The start of the token that a text ends in; `read` characters came before the text, and the token
at its front begins at `start`. -/
def tokenStartFrom (place : TokenPlace) (start read : Nat) : List Char → Nat
  | [] => start
  | c :: rest =>
    match place with
    | .quoted => tokenStartFrom (if c = '"' then .word else .quoted) start (read + 1) rest
    | .fieldStart =>
      if c = ' ' then tokenStartFrom .fieldStart (read + 1) (read + 1) rest
      else tokenStartFrom (if c = '"' then .quoted else .word) start (read + 1) rest
    | .word =>
      if c = ' ' then tokenStartFrom .fieldStart (read + 1) (read + 1) rest
      else tokenStartFrom .word start (read + 1) rest

/-- The start of the token that a text ends in: behind its last space that is not quoted. -/
def tokenStart (before : List Char) : Nat :=
  tokenStartFrom .fieldStart 0 0 before

namespace Line

/-- A text with the cursor at its end. -/
def ofText (s : String) : Line :=
  ⟨s.toList, s.toList.length⟩

def string (l : Line) : String :=
  String.ofList l.text

/-- The text in front of the cursor. -/
def before (l : Line) : List Char :=
  l.text.take l.cursor

/-- The text behind the cursor. -/
def behind (l : Line) : List Char :=
  l.text.drop l.cursor

def insert (l : Line) (c : Char) : Line :=
  ⟨l.before ++ c :: l.behind, l.cursor + 1⟩

def insertAll (l : Line) (cs : List Char) : Line :=
  cs.foldl insert l

/-- Removes the character in front of the cursor. -/
def backspace (l : Line) : Line :=
  if l.cursor = 0 then l else ⟨l.text.eraseIdx (l.cursor - 1), l.cursor - 1⟩

/-- Removes the character behind the cursor. -/
def delete (l : Line) : Line :=
  { l with text := l.text.eraseIdx l.cursor }

def left (l : Line) : Line :=
  { l with cursor := l.cursor - 1 }

def right (l : Line) : Line :=
  { l with cursor := min (l.cursor + 1) l.text.length }

def home (l : Line) : Line :=
  { l with cursor := 0 }

def toEnd (l : Line) : Line :=
  { l with cursor := l.text.length }

/-- A candidate as it is put on the line: the only one gets a space behind it, unless one is there. -/
def completionText (l : Line) (candidate : String) (only : Bool) : List Char :=
  candidate.toList ++ (if only && l.behind.head? != some ' ' then [' '] else [])

/-- Puts a candidate in the place of the token at the cursor. -/
def complete (l : Line) (candidate : String) (only : Bool) : Line :=
  let front := l.text.take (tokenStart l.before) ++ l.completionText candidate only
  ⟨front ++ l.behind, front.length⟩

/-! ## Lemmas -/

@[simp] theorem before_append_behind (l : Line) : l.before ++ l.behind = l.text :=
  List.take_append_drop ..

end Line
end CommandShell.Editor
