import CommandShell.Text.Case
import CommandShell.Text.PrintableTable

/-!
# Quoted texts for diagnosis

    quoted s = s between double quotes, with every character that cannot be shown spelled out
-/

namespace CommandShell.Text

/-- The hexadecimal digits of a number, small letters, no leading zero. -/
def hexDigits (n : Nat) : String :=
  String.ofList (Nat.toDigits 16 n)

/-- The code point of a character, spelled out. -/
def codePoint (c : Char) : String :=
  "\\u\x7b" ++ hexDigits c.toNat ++ "\x7d"

/-- One character of a quoted text. -/
def quotedChar (c : Char) : String :=
  if c = '\x00' then "\\0"
  else if c = '\t' then "\\t"
  else if c = '\r' then "\\r"
  else if c = '\n' then "\\n"
  else if c = '\\' then "\\\\"
  else if c = '"' then "\\\""
  else if inRanges extendingRanges c.toNat then codePoint c
  else if inRanges unprintableRanges c.toNat then codePoint c
  else c.toString

/-- A text as it is shown in a diagnosis. -/
def quoted (s : String) : String :=
  "\"" ++ String.join (s.toList.map quotedChar) ++ "\""

end CommandShell.Text
