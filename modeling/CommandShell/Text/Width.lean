import CommandShell.Text.Case
import CommandShell.Text.WidthTable

/-!
# Columns of a text on a terminal

What takes how many columns is a matter of the terminal and of its fonts: everything that measures
texts does so by two functions, for whole texts and for characters that stand alone. The two need not
agree.

`Widths.terminal` are the ones that the shell runs with:

    charWidth c = columns of a character that stands alone (a control character takes none)
    width s     = columns of a whole text (a control character takes one)

There the width of a text is the sum over its characters, read from the end, where a character may
fuse with what follows it: a carriage return with a line feed, a picture with a selector, a skin tone
or a joined picture, and the letters of some scripts with the letter that they are written into. Marks
that are not shown may stand between such letters.
-/

namespace CommandShell.Text

/-! ## Measures -/

/-- How many columns texts and characters take. -/
structure Widths where
  text : String → Nat
  /-- Columns of a character that stands alone. -/
  char : Char → Nat

/-- All that is relied on when a text is cut: a dot takes a column of its own, and whatever stands in
front of it takes as many columns as without what stands behind it. -/
structure Widths.DotsApart (ws : Widths) : Prop where
  empty : ws.text "" = 0
  char_dot : ws.char '.' = 1
  text_dot : ∀ front behind, ws.text (front ++ "." ++ behind) = ws.text front + 1 + ws.text behind

/-! ## Algorithm -/

/-- The text right after a character, as far as the two may fuse. -/
inductive Shape where
  | plain
  | lineFeed
  | picture
  /-- A picture with a joiner before it, and whether the mark of a keycap comes before that. -/
  | joinedPicture (keycap : Bool)
  | skinTone
  /-- A letter of a flag. -/
  | flagLetter
  /-- Two letters of flags or more. -/
  | flags
  /-- Letters of flags before a joined picture, in pairs. -/
  | joinedFlags
  /-- The same, with one letter more in front. -/
  | joinedFlagLetter
  /-- The end of a flag that is spelled out before a joined picture: letters, then digits. -/
  | joinedSpelling (letters digits : Nat)
  | alef
  /-- A lamed, and whether a joiner comes before it; the letters below alike. -/
  | lamed (joined : Bool)
  | ya (joined : Bool)
  /-- A ya with a joiner and a vowel sign before it. -/
  | signedYa
  | orkhonI (joined : Bool)
  | tifinaghLetter (joined : Bool)
  /-- A Tifinagh letter with the sign that links consonants before it. -/
  | linkedLetter
  | raiE
  | raiAi
  | coengLetter
  | lowTone
deriving DecidableEq

/-- A letter that may be written together with the one in front of it. -/
def Shape.isLetter : Shape → Bool
  | alef | lamed _ | ya _ | signedYa | orkhonI _ | tifinaghLetter _ | linkedLetter | raiE | raiAi
  | coengLetter | lowTone => true
  | _ => false

def Shape.isJoined : Shape → Bool
  | joinedPicture _ => true
  | _ => false

/-- What a selector asks of the character in front of it. -/
inductive Selector where
  | picture
  | text
deriving DecidableEq

/-- What follows a character: a shape, and a selector if one stands before it. -/
structure Follow where
  shape : Shape
  selector : Option Selector := none
deriving DecidableEq

/-- The shape that follows a character which the selector is not for. -/
def Follow.bare (f : Follow) : Shape :=
  if f.selector = none ∨ f.shape.isLetter then f.shape else .plain

/-- A selector for pictures in front. -/
def Follow.asPicture (f : Follow) : Follow :=
  ⟨if f.shape.isLetter ∨ f.shape.isJoined then f.shape else .plain, some .picture⟩

/-- A selector for text in front. -/
def Follow.asText (f : Follow) : Follow :=
  ⟨if f.shape.isLetter then f.shape else .plain, some .text⟩

def isControl (c : Char) : Bool :=
  c.toNat < 0x20 || (0x7F ≤ c.toNat && c.toNat < 0xA0)

/-- Columns by the tables, for a character that is no control character. -/
def tableWidth (n : Nat) : Nat :=
  if n ≤ 0xA0 then 1
  else if n = 0x17D8 then 3
  else if inRanges zeroWidthRanges n then 0
  else if inRanges wideRanges n then 2
  else 1

/-- Columns of a character that stands alone. -/
def charWidth (c : Char) : Nat :=
  if isControl c then 0 else tableWidth c.toNat

def isAlef (n : Nat) : Bool :=
  inRanges [(0x622, 0x623), (0x625, 0x625), (0x627, 0x627), (0x671, 0x673), (0x675, 0x675),
    (0x773, 0x774), (0x870, 0x882)] n

def isLam (n : Nat) : Bool :=
  inRanges [(0x644, 0x644), (0x6B5, 0x6B8), (0x76A, 0x76A), (0x8A6, 0x8A6), (0x8C7, 0x8C7)] n

def isCoengLetter (n : Nat) : Bool :=
  inRanges [(0x1780, 0x1782), (0x1784, 0x1787), (0x1789, 0x178C), (0x178E, 0x1793), (0x1795, 0x1798),
    (0x179B, 0x179D), (0x17A0, 0x17A0), (0x17A2, 0x17A2), (0x17A7, 0x17A7), (0x17AB, 0x17AC),
    (0x17AF, 0x17AF)] n

def isTifinaghLetter (n : Nat) : Bool :=
  inRanges [(0x2D31, 0x2D65), (0x2D6F, 0x2D6F)] n

/-- A letter of the pairs that name flags. -/
def isFlagLetter (n : Nat) : Bool :=
  0x1F1E6 ≤ n && n ≤ 0x1F1FF

def isSkinTone (n : Nat) : Bool :=
  0x1F3FB ≤ n && n ≤ 0x1F3FF

/-- Marks that are not shown, and the joiner: letters are written together across them. -/
def isUnseen (n : Nat) : Bool :=
  inRanges [(0x34F, 0x34F), (0x17B4, 0x17B5), (0x180B, 0x180D), (0x180F, 0x180F), (0x200D, 0x200D),
    (0xFE00, 0xFE0F), (0xE0100, 0xE01EF)] n

/-- The shape of a letter of the scripts that write two as one. -/
def letterShape (n : Nat) : Shape :=
  if isAlef n then .alef
  else if n = 0x5DC then .lamed false
  else if n = 0x1A10 then .ya false
  else if n = 0x10C03 then .orkhonI false
  else if isTifinaghLetter n then .tifinaghLetter false
  else if n = 0x16D67 then .raiE
  else if n = 0x16D68 then .raiAi
  else if isCoengLetter n then .coengLetter
  else if n = 0xA4FC ∨ n = 0xA4FD then .lowTone
  else .plain

/-- The shape of a character that fuses with nothing. -/
def shapeOf (n : Nat) : Shape :=
  if n = 0x0A then .lineFeed
  else if n ≤ 0xA0 then .plain
  else if isSkinTone n then .skinTone
  else if isFlagLetter n then .flagLetter
  else if inRanges pictureRanges n then .picture
  else letterShape n

/-- A letter that fuses with the shape of what follows: the columns it adds, and the new shape. -/
def fuseLetter? (n : Nat) : Shape → Option (Int × Shape)
  | .alef =>
    if isLam n then some (0, .plain)
    else if inRanges transparentRanges n then some (0, .alef)
    else none
  | .lamed joined => if joined ∧ n = 0x5D0 then some (0, .plain) else none
  | .ya joined => if joined ∧ n = 0x1A17 then some (0, .signedYa) else none
  | .signedYa => if n = 0x1A15 then some (0, .plain) else none
  | .orkhonI joined => if joined ∧ n = 0x10C32 then some (0, .plain) else none
  | .tifinaghLetter joined =>
    if n = 0x2D7F then some (1, .linkedLetter)
    else if joined ∧ isTifinaghLetter n then some (0, .plain)
    else none
  | .linkedLetter => if isTifinaghLetter n then some (-1, .plain) else none
  | .raiE =>
    if n = 0x16D63 ∨ n = 0x16D69 then some (0, .plain)
    else if n = 0x16D67 then some (0, .raiAi)
    else none
  | .raiAi => if n = 0x16D63 then some (0, .plain) else none
  | .coengLetter => if n = 0x17D2 then some (-1, .plain) else none
  | .lowTone => if 0xA4F8 ≤ n ∧ n ≤ 0xA4FB then some (0, .plain) else none
  | _ => none

/-- The letter behind a mark that is not shown. -/
def Shape.behind (n : Nat) : Shape → Shape
  | lamed joined => lamed (joined || n == 0x200D)
  | ya joined => ya (joined || n == 0x200D)
  | orkhonI joined => orkhonI (joined || n == 0x200D)
  | tifinaghLetter joined => tifinaghLetter (joined || n == 0x200D)
  | shape => shape

/-- A part of a picture that fuses with the shape of what follows, in the same way. -/
def fusePicture? (n : Nat) : Shape → Option (Int × Shape)
  | .picture => if n = 0x200D then some (0, .joinedPicture false) else none
  | .skinTone =>
    if inRanges toneBaseRanges n then some (0, .picture)
    else if n = 0x200D then some (0, .joinedPicture false)
    else none
  | .flagLetter => if isFlagLetter n then some (1, .flags) else none
  | .flags =>
    if isFlagLetter n then some (1, .flags)
    else if n = 0x200D then some (0, .joinedPicture false)
    else none
  | .joinedPicture false =>
    if n = 0x20E3 then some (0, .joinedPicture true)
    else if isFlagLetter n then some (1, .joinedFlagLetter)
    else if isSkinTone n then some (0, .skinTone)
    else if n = 0xE007F then some (0, .joinedSpelling 0 0)
    else if shapeOf n = .picture then some (0, .picture)
    else none
  | .joinedFlags =>
    if isFlagLetter n then some (3, .joinedFlagLetter)
    else if n = 0x200D then some (0, .joinedPicture false)
    else none
  | .joinedFlagLetter => if isFlagLetter n then some (-1, .joinedFlags) else none
  | .joinedSpelling letters digits =>
    if 0xE0061 ≤ n ∧ n ≤ 0xE007A ∧ digits = 0 ∧ letters < 6 then some (0, .joinedSpelling (letters + 1) 0)
    else if 0xE0030 ≤ n ∧ n ≤ 0xE0039 ∧ letters ≤ 4 ∧ digits < 3 then
      some (0, .joinedSpelling letters (digits + 1))
    else if n = 0x1F3F4 ∧ (digits = 3 ∨ digits = 0 ∧ 3 ≤ letters) then some (0, .picture)
    else none
  | _ => none

/-- Columns that a character adds in front of a text, and the shape that the two have. -/
def shapeStep (n : Nat) (next : Shape) : Int × Shape :=
  if n = 0x0D ∧ next = .lineFeed then (0, .plain)
  else if next.isLetter ∧ next ≠ .alef ∧ isUnseen n then (0, next.behind n)
  else ((fuseLetter? n next).or (fusePicture? n next)).getD (tableWidth n, shapeOf n)

/-- Columns that a character adds in front of a text, and what the two are to the next one. -/
def widthStep (c : Char) (next : Follow) : Int × Follow :=
  let n := c.toNat
  if next.selector = some .picture ∧ inRanges selectableRanges n then
    (if next.shape.isJoined then 0 else 2, ⟨.picture, none⟩)
  else if n = 0xFE0F then (0, next.asPicture)
  else if n = 0xFE0E then (0, next.asText)
  else if next.selector = some .text ∧ inRanges selectableRanges n ∧ inRanges pictureRanges n ∧
      ¬(0x1F200 ≤ n ∧ n ≤ 0x1F2FF) then
    (1, ⟨.plain, none⟩)
  else
    let (columns, shape) := shapeStep n next.bare
    (columns, ⟨shape, none⟩)

/-- Columns of a text, with what it is to a character in front of it. -/
def widthFrom (cs : List Char) : Int × Follow :=
  cs.foldr (fun c acc => ((widthStep c acc.2).1 + acc.1, (widthStep c acc.2).2)) (0, ⟨.plain, none⟩)

/-- Columns of a text. -/
def width (s : String) : Nat :=
  (widthFrom s.toList).1.toNat

/-- The columns that the shell runs with. -/
def Widths.terminal : Widths :=
  ⟨width, charWidth⟩

/-! ## Lemmas -/

theorem widthFrom_nil : widthFrom [] = (0, ⟨.plain, none⟩) := rfl

theorem widthFrom_replicate {c : Char} (h : widthStep c ⟨.plain, none⟩ = (1, ⟨.plain, none⟩)) (n : Nat) :
    widthFrom (List.replicate n c) = ((n : Int), ⟨.plain, none⟩) := by
  induction n with
  | zero => rfl
  | succ n ih =>
    simp only [widthFrom, List.replicate_succ, List.foldr_cons] at ih ⊢
    rw [ih, h]
    simp only [Prod.mk.injEq, and_true]
    omega

/-- A run of spaces takes a column for each. -/
theorem width_spaces (n : Nat) : width (String.ofList (List.replicate n ' ')) = n := by
  simp [width, widthFrom_replicate (c := ' ') (by decide) n]

/-- A run of dashes takes a column for each. -/
theorem width_dashes (n : Nat) : width (String.ofList (List.replicate n '-')) = n := by
  simp [width, widthFrom_replicate (c := '-') (by decide) n]

end CommandShell.Text
