import CommandShell.Text.Lines

/-!
# Texts as bytes

A text in bytes is the bytes of its characters, one after the other. Where a character begins is found by
counting the bytes in front of it, so an edit at a character is an edit at its byte place. A byte below 128
is a character of its own, so the lines can be cut in bytes.

    bytes (front ++ c :: rest) = insertBytes (bytes (front ++ rest)) (place of the character behind front) c
    bytes (front ++ rest.tail) = removeBytes (bytes (front ++ rest)) (that place) (the next one)
    cutLines 10 13 (bytes cs)  = (cutLines '\n' '\r' cs).map bytes
-/

namespace CommandShell.Text

/-! ## Algorithm -/

/-- The bytes of some characters. -/
def bytes (cs : List Char) : List UInt8 :=
  cs.flatMap String.utf8EncodeChar

/-- The places at which characters begin, the first of them at `place`. -/
def charPlaces (place : Nat) : List Char → List Nat
  | [] => []
  | c :: rest => place :: charPlaces (place + c.utf8Size) rest

/-- The place of the character with a number; the end of the bytes if there is none. -/
def bytePlace (cs : List Char) (i : Nat) : Nat :=
  ((charPlaces 0 cs)[i]?).getD (bytes cs).length

/-- Puts the bytes of a character at a place. -/
def insertBytes (bs : List UInt8) (place : Nat) (c : Char) : List UInt8 :=
  bs.take place ++ String.utf8EncodeChar c ++ bs.drop place

/-- Takes the bytes between two places away. -/
def removeBytes (bs : List UInt8) (start stop : Nat) : List UInt8 :=
  if start < stop ∧ stop ≤ bs.length then bs.take start ++ bs.drop stop else bs

/-! ## Places -/

theorem encodeText_ofList (cs : List Char) : encodeText (String.ofList cs) = bytes cs := by
  unfold encodeText bytes
  rw [String.toUTF8, String.toByteArray_ofList, List.utf8Encode]
  simp

theorem encodeText_eq_bytes (s : String) : encodeText s = bytes s.toList := by
  rw [← encodeText_ofList, String.ofList_toList]

theorem bytes_append (front rest : List Char) : bytes (front ++ rest) = bytes front ++ bytes rest :=
  List.flatMap_append

theorem bytes_cons (c : Char) (rest : List Char) : bytes (c :: rest) = String.utf8EncodeChar c ++ bytes rest :=
  List.flatMap_cons

theorem getElem?_charPlaces (cs : List Char) (place i : Nat) (hi : i < cs.length) :
    (charPlaces place cs)[i]? = some (place + (bytes (cs.take i)).length) := by
  induction cs generalizing place i with
  | nil => exact absurd hi (Nat.not_lt_zero i)
  | cons c rest ih =>
    cases i with
    | zero => rfl
    | succ i =>
      have hi' : i < rest.length := Nat.lt_of_succ_lt_succ hi
      rw [charPlaces, List.getElem?_cons_succ, ih _ i hi', List.take_succ_cons, bytes_cons,
        List.length_append, String.length_utf8EncodeChar, Nat.add_assoc]

theorem length_charPlaces (cs : List Char) (place : Nat) : (charPlaces place cs).length = cs.length := by
  induction cs generalizing place with
  | nil => rfl
  | cons c rest ih => rw [charPlaces, List.length_cons, ih, List.length_cons]

/-- The bytes in front of a character end at its place. -/
theorem bytePlace_eq (cs : List Char) (i : Nat) : bytePlace cs i = (bytes (cs.take i)).length := by
  unfold bytePlace
  by_cases hi : i < cs.length
  · rw [getElem?_charPlaces cs 0 i hi, Option.getD_some, Nat.zero_add]
  · have hle : cs.length ≤ i := by omega
    rw [List.getElem?_eq_none (by rw [length_charPlaces]; exact hle), Option.getD_none,
      List.take_of_length_le hle]

theorem bytePlace_front (front rest : List Char) :
    bytePlace (front ++ rest) front.length = (bytes front).length := by
  rw [bytePlace_eq, List.take_left]

/-- A character is inserted at the place of the one behind it. -/
theorem bytes_insert (front rest : List Char) (c : Char) :
    bytes (front ++ c :: rest) =
      insertBytes (bytes (front ++ rest)) (bytePlace (front ++ rest) front.length) c := by
  unfold insertBytes
  rw [bytePlace_front, bytes_append, bytes_append, bytes_cons, List.take_left, List.drop_left,
    List.append_assoc]

/-- A character is removed up to the place of the next one; where there is none, nothing is. -/
theorem bytes_remove (front rest : List Char) :
    bytes (front ++ rest.tail) =
      removeBytes (bytes (front ++ rest)) (bytePlace (front ++ rest) front.length)
        (bytePlace (front ++ rest) (front.length + 1)) := by
  unfold removeBytes
  rw [bytePlace_front]
  cases rest with
  | nil =>
    have hend : bytePlace (front ++ []) (front.length + 1) = (bytes front).length := by
      rw [bytePlace_eq, List.append_nil, List.take_of_length_le (Nat.le_succ _)]
    rw [hend, if_neg (fun h => Nat.lt_irrefl _ h.1)]
    rfl
  | cons c rest =>
    have hsplit : front ++ c :: rest = (front ++ [c]) ++ rest := List.append_cons front c rest
    have hnext : bytePlace (front ++ c :: rest) (front.length + 1) = (bytes (front ++ [c])).length := by
      rw [hsplit, ← bytePlace_front (front ++ [c]) rest, List.length_append]
      rfl
    have hlonger : (bytes front).length < (bytes (front ++ [c])).length := by
      rw [bytes_append, bytes_cons, List.length_append, List.length_append, String.length_utf8EncodeChar]
      have := c.utf8Size_pos
      omega
    have hbytes : bytes (front ++ c :: rest) = bytes (front ++ [c]) ++ bytes rest := by
      rw [hsplit, bytes_append]
    rw [hnext, if_pos ⟨hlonger, by rw [hbytes, List.length_append]; omega⟩]
    have hfront : (bytes (front ++ c :: rest)).take (bytes front).length = bytes front := by
      rw [bytes_append, List.take_left]
    rw [hfront, hbytes, List.drop_left, List.tail_cons, bytes_append]

/-! ## Lines -/

theorem utf8EncodeChar_ne_nil (c : Char) : String.utf8EncodeChar c ≠ [] := by
  intro h
  have hpos := c.utf8Size_pos
  rw [← String.length_utf8EncodeChar, h] at hpos
  cases hpos

theorem bytes_eq_nil_iff {cs : List Char} : bytes cs = [] ↔ cs = [] := by
  cases cs with
  | nil => exact iff_of_true rfl rfl
  | cons c cs =>
    rw [bytes_cons]
    exact iff_of_false (List.append_ne_nil_of_left_ne_nil (utf8EncodeChar_ne_nil c) _) (List.cons_ne_nil c cs)

theorem bytes_singleton (c : Char) : bytes [c] = String.utf8EncodeChar c := by
  rw [bytes_cons]
  exact List.append_nil _

/-- The byte of a small character is in no other character: the bytes of longer ones are 128 or more. -/
theorem notMem_utf8EncodeChar {c d : Char} (hd : d.toNat < 128) (h : c ≠ d) :
    UInt8.ofNat d.toNat ∉ String.utf8EncodeChar c := by
  have hd' : (UInt8.ofNat d.toNat).toNat = d.toNat := by
    rw [UInt8.toNat_ofNat']
    omega
  have hhigh : ∀ k, 128 ≤ k → k < 256 → UInt8.ofNat d.toNat ≠ UInt8.ofNat k := by
    intro k hk hlt he
    rw [he, UInt8.toNat_ofNat'] at hd'
    omega
  intro hmem
  unfold String.utf8EncodeChar at hmem
  dsimp only at hmem
  split at hmem
  · rename_i hc
    have hval := congrArg UInt8.toNat (List.mem_singleton.1 hmem)
    rw [hd', UInt8.toNat_ofNat'] at hval
    exact h (Char.ext (UInt32.toNat_inj.1 (show c.val.toNat = d.toNat by omega)))
  -- two, three or four bytes
  all_goals repeat' split at hmem
  all_goals simp only [List.mem_cons, List.not_mem_nil, or_false] at hmem
  · rcases hmem with he | he <;> exact hhigh _ (by omega) (by omega) he
  · rcases hmem with he | he | he <;> exact hhigh _ (by omega) (by omega) he
  · rcases hmem with he | he | he | he <;> exact hhigh _ (by omega) (by omega) he

theorem cutLinesFrom_append_of_notMem {α : Type} [DecidableEq α] {feed : α} (ret : α) {xs : List α}
    (h : feed ∉ xs) (line rest : List α) :
    cutLinesFrom feed ret line (xs ++ rest) = cutLinesFrom feed ret (xs.reverse ++ line) rest := by
  induction xs generalizing line with
  | nil => rfl
  | cons c xs ih =>
    rw [List.mem_cons, not_or] at h
    rw [List.cons_append, cutLinesFrom, if_neg (Ne.symm h.1), ih h.2, List.reverse_cons, List.append_assoc]
    rfl

theorem dropReturn_bytes (line : List Char) :
    dropReturn 13 (bytes line.reverse).reverse = (bytes (dropReturn '\r' line).reverse).reverse := by
  cases line with
  | nil => rfl
  | cons c line =>
    rw [List.reverse_cons, bytes_append, bytes_singleton, List.reverse_append, dropReturn]
    split
    · next hc =>
      rw [hc]
      rfl
    · next hc =>
      rw [List.reverse_cons, bytes_append, bytes_singleton, List.reverse_append]
      have hno : 13 ∉ String.utf8EncodeChar c := notMem_utf8EncodeChar (d := '\r') (by decide) hc
      rcases List.eq_nil_or_concat (String.utf8EncodeChar c) with hnil | ⟨init, last, hlast⟩
      · exact absurd hnil (utf8EncodeChar_ne_nil c)
      · have hne : last ≠ 13 := by
          rintro rfl
          rw [hlast, List.concat_eq_append] at hno
          exact hno (List.mem_append_right _ List.mem_cons_self)
        rw [hlast, List.concat_eq_append, List.reverse_append]
        exact if_neg hne

theorem cutLinesFrom_bytes (line cs : List Char) :
    cutLinesFrom 10 13 (bytes line.reverse).reverse (bytes cs) =
      (cutLinesFrom '\n' '\r' line cs).map bytes := by
  induction cs generalizing line with
  | nil =>
    have hempty : (bytes line.reverse).reverse.isEmpty = line.isEmpty := by
      rw [Bool.eq_iff_iff, List.isEmpty_iff, List.isEmpty_iff, List.reverse_eq_nil_iff, bytes_eq_nil_iff,
        List.reverse_eq_nil_iff]
    change (if (bytes line.reverse).reverse.isEmpty then [] else _) = _
    rw [hempty, List.reverse_reverse, cutLinesFrom]
    split <;> rfl
  | cons c cs ih =>
    rw [bytes_cons, cutLinesFrom]
    split
    · next hc =>
      subst hc
      change (dropReturn 13 (bytes line.reverse).reverse).reverse :: cutLinesFrom 10 13 [] (bytes cs) = _
      rw [dropReturn_bytes, List.reverse_reverse, List.map_cons]
      exact congrArg _ (ih [])
    · next hc =>
      have hno : 10 ∉ String.utf8EncodeChar c := notMem_utf8EncodeChar (d := '\n') (by decide) hc
      rw [cutLinesFrom_append_of_notMem 13 hno, ← ih (c :: line), List.reverse_cons, bytes_append,
        bytes_singleton, List.reverse_append]

/-- The lines of a text in bytes are its lines. -/
theorem decodeBytes_cutLines (s : String) :
    (cutLines 10 13 (encodeText s)).map decodeBytes = (lines s).map some := by
  have hdecode : ∀ cs, decodeBytes (bytes cs) = some (String.ofList cs) := by
    intro cs
    rw [← encodeText_ofList, decodeBytes_encodeText]
  have hcut : cutLines 10 13 (encodeText s) = (cutLines '\n' '\r' s.toList).map bytes := by
    rw [encodeText_eq_bytes]
    exact cutLinesFrom_bytes [] s.toList
  unfold lines
  rw [hcut, List.map_map, List.map_map]
  exact List.map_congr_left fun cs _ => hdecode cs

end CommandShell.Text
