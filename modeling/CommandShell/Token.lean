import CommandShell.Failure
import CommandShell.Text.Blank

/-!
# Tokens of a line

A line is split at spaces. A field that opens with a quote goes on to the quote that stands alone,
and to the next space after it; inside, a doubled quote stands for one quote. Tokens keep their
quotes as typed.

    tokenize line          = the fields of line; none for a blank line and for a comment
    tokenizePartial line   = the fields of a line that is still typed, and whether a new one begins
    unquote (quoteIfNeeded v) = v
-/

namespace CommandShell.Token

/-! ## Algorithm -/

def isSpace (c : Char) : Bool :=
  c == ' '

/-- The inside of a quoted field up to and with the quote that ends it, and what follows. -/
def quoted? : List Char → Option (List Char × List Char)
  | [] => none
  | '"' :: '"' :: r => (quoted? r).map fun (q, rest) => ('"' :: '"' :: q, rest)
  | '"' :: r => some (['"'], r)
  | c :: r => (quoted? r).map fun (q, rest) => (c :: q, rest)

/-- The text up to the next space, and what follows. -/
def word (cs : List Char) : List Char × List Char :=
  (cs.takeWhile (!isSpace ·), cs.dropWhile (!isSpace ·))

/-- The field at the front of a text that starts with no space, and what follows. -/
def field? : List Char → Option (List Char × List Char)
  | '"' :: r => (quoted? r).map fun (q, rest) => ('"' :: (q ++ (word rest).1), (word rest).2)
  | cs => some (word cs)

theorem quoted?_length {cs q rest : List Char} (h : quoted? cs = some (q, rest)) :
    rest.length < cs.length := by
  fun_induction quoted? cs generalizing q rest with
  | case1 => cases h
  | case2 r ih =>
    obtain ⟨⟨q', rest'⟩, h', e⟩ := Option.map_eq_some_iff.1 h
    cases e
    have := ih h'
    simp only [List.length_cons]
    omega
  | case3 r =>
    cases h
    simp
  | case4 c r _ _ ih =>
    obtain ⟨⟨q', rest'⟩, h', e⟩ := Option.map_eq_some_iff.1 h
    cases e
    have := ih h'
    simp only [List.length_cons]
    omega

theorem word_length (cs : List Char) : (word cs).2.length ≤ cs.length :=
  (List.dropWhile_sublist _).length_le

theorem field?_length {c : Char} {r f rest : List Char} (hc : isSpace c = false)
    (h : field? (c :: r) = some (f, rest)) : rest.length < (c :: r).length := by
  unfold field? at h
  split at h
  · next r' e =>
    cases e
    obtain ⟨⟨q, rest'⟩, h', e⟩ := Option.map_eq_some_iff.1 h
    cases e
    have h1 := quoted?_length h'
    have h2 := word_length rest'
    simp only [List.length_cons]
    omega
  · cases h
    simp only [List.dropWhile_cons, hc, Bool.not_false, if_true, List.length_cons]
    exact Nat.lt_succ_of_le (List.dropWhile_sublist _).length_le

/-- The fields of a text; none if a quote stays open. -/
def fields? : List Char → Option (List (List Char))
  | [] => some []
  | c :: r =>
    if _hc : isSpace c then fields? r
    else match _h : field? (c :: r) with
      | none => none
      | some (f, rest) => (fields? rest).map (f :: ·)
termination_by cs => cs.length
decreasing_by
  · simp
  · exact field?_length (by simpa using _hc) _h

/-- What of a line is split: no line ends at its end, no blanks at its start. -/
def body (line : String) : List Char :=
  Text.dropBlanks (Text.dropTrailing (fun c => c == '\r' || c == '\n') line.toList)

/-- A body without fields: nothing, or a comment. -/
def isIgnored : List Char → Bool
  | [] => true
  | c :: _ => c == '#'

end Token

open Token

/-- The tokens of a line. -/
def tokenize (line : String) : Except Failure (List String) :=
  if isIgnored (body line) then .ok []
  else match fields? (body line) with
    | some fs => .ok (fs.map String.ofList)
    | none => .error (.malformed "unclosed quotes")

/-- A new token begins after the text: it is empty or ends in a space. -/
def endsInSpace (line : String) : Bool :=
  match line.toList.getLast? with
  | none => true
  | some c => isSpace c

/-- The tokens of a line that is still typed, an open quote closed at its end, and whether the next
character begins a new token. -/
def tokenizePartial (line : String) : List String × Bool :=
  match tokenize line with
  | .ok tokens => (tokens, endsInSpace line)
  | .error _ =>
    match tokenize (line ++ "\"") with
    | .ok tokens => (tokens, false)
    | .error _ => ([], false)

/-- Each doubled quote as one quote, from the left. -/
def collapseQuotes : List Char → List Char
  | [] => []
  | '"' :: '"' :: r => '"' :: collapseQuotes r
  | c :: r => c :: collapseQuotes r

/-- Each quote doubled. -/
def doubleQuotes : List Char → List Char
  | [] => []
  | c :: r => if c = '"' then '"' :: '"' :: doubleQuotes r else c :: doubleQuotes r

/-- A token without one layer of quotes around all of it. -/
def unquote (token : String) : String :=
  match token.toList with
  | '"' :: r => if r.getLast? = some '"' then String.ofList (collapseQuotes r.dropLast) else token
  | _ => token

/-- A value as one token: quoted if it holds a space or starts with a quote. -/
def quoteIfNeeded (value : String) : String :=
  if value.toList.contains ' ' || value.toList.head? == some '"' then
    String.ofList ('"' :: (doubleQuotes value.toList ++ ['"']))
  else value

/-! ## Lemmas -/

/-- The one way not to be split. -/
theorem tokenize_eq_error {line : String} {f : Failure} (h : tokenize line = .error f) :
    f = .malformed "unclosed quotes" ∧ isIgnored (body line) = false ∧ fields? (body line) = none := by
  unfold tokenize at h
  split at h
  · cases h
  · next hi =>
    split at h
    · cases h
    · next hf =>
      cases h
      exact ⟨rfl, by simpa using hi, hf⟩

theorem collapseQuotes_doubleQuotes (cs : List Char) : collapseQuotes (doubleQuotes cs) = cs := by
  induction cs with
  | nil => rfl
  | cons c r ih => by_cases h : c = '"' <;> simp [doubleQuotes, collapseQuotes, h, ih]

end CommandShell
