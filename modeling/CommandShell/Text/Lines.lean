/-!
# Lines of a text

    cutLines feed ret s = the pieces of s that end at a feed, without one return right before it

The last piece counts only if it holds something, and keeps its return: no feed ends it.

    decodeBytes (encodeText s) = s
-/

namespace CommandShell.Text

/-! ## Algorithm -/

/-- A line, read backwards, without the return at its end. -/
def dropReturn {α : Type} [DecidableEq α] (ret : α) : List α → List α
  | [] => []
  | c :: r => if c = ret then r else c :: r

/-- Lines of a text of which `line` was already read, backwards. -/
def cutLinesFrom {α : Type} [DecidableEq α] (feed ret : α) (line : List α) : List α → List (List α)
  | [] => if line.isEmpty then [] else [line.reverse]
  | c :: r =>
    if c = feed then (dropReturn ret line).reverse :: cutLinesFrom feed ret [] r
    else cutLinesFrom feed ret (c :: line) r

def cutLines {α : Type} [DecidableEq α] (feed ret : α) (s : List α) : List (List α) :=
  cutLinesFrom feed ret [] s

/-- The lines of a text. -/
def lines (s : String) : List String :=
  (cutLines '\n' '\r' s.toList).map String.ofList

/-- The text without the line ends at its end. -/
def dropLineEnds (cs : List Char) : List Char :=
  (cs.reverse.dropWhile fun c => c == '\r' || c == '\n').reverse

/-- The bytes of a text. -/
def encodeText (s : String) : List UInt8 :=
  s.toUTF8.data.toList

/-- The text of a byte sequence that is well formed. -/
def decodeBytes (bytes : List UInt8) : Option String :=
  String.fromUTF8? ⟨bytes.toArray⟩

/-! ## Lemmas -/

theorem decodeBytes_encodeText (s : String) : decodeBytes (encodeText s) = some s := by
  have h : (⟨(encodeText s).toArray⟩ : ByteArray) = s.toByteArray := rfl
  rw [decodeBytes, h, String.fromUTF8?, dif_pos s.isValidUTF8]
  rfl

end CommandShell.Text
