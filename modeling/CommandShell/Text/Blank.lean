/-!
# Blanks

The white space of running text, and the trimming of texts by it.

    trim s = what is left of s between its first and its last character that is no blank
-/

namespace CommandShell.Text

/-- Code points that count as white space in running text. -/
def isBlank (c : Char) : Bool :=
  let n := c.toNat
  (9 ≤ n && n ≤ 13) || n == 32 || n == 0x85 || n == 0xA0 || n == 0x1680 ||
  (0x2000 ≤ n && n ≤ 0x200A) || n == 0x2028 || n == 0x2029 || n == 0x202F || n == 0x205F || n == 0x3000

/-- The text from its first character that is no blank. -/
def dropBlanks (cs : List Char) : List Char :=
  cs.dropWhile isBlank

/-- The text up to its last character that satisfies no `p`. -/
def dropTrailing (p : Char → Bool) (cs : List Char) : List Char :=
  (cs.reverse.dropWhile p).reverse

/-- The text without the blanks at its two ends. -/
def trim (s : String) : String :=
  String.ofList (dropTrailing isBlank (dropBlanks s.toList))

/-- The text holds nothing but blanks. -/
def allBlank (s : String) : Bool :=
  s.toList.all isBlank

/-- A capital letter A to Z becomes small; every other character is kept. -/
def asciiLower (s : String) : String :=
  s.map Char.toLower

/-! ## Lemmas -/

theorem isBlank_space : isBlank ' ' = true := by decide

theorem isBlank_quote : isBlank '"' = false := by decide

end CommandShell.Text
