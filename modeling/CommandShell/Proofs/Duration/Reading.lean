import CommandShell.Duration
import CommandShell.Proofs.Number.Rounding

/-!
# Reading durations

A text that is written as a decimal number, with a unit behind it, stands for a number of seconds: the finite
word nearest to the decimal, divided by a thousand for milliseconds. What is read is that number of seconds
to the nearest nanosecond, as long as it is below 2^64; of 2^64 seconds and more the reading does not come
back, and any other text is refused.

    read raw = .duration d    d holds the seconds, which are below 2^64
    read raw = .tooLong       the seconds are 2^64 or more
    read raw = .invalid _     raw stands for no number of seconds

The boundary is exact: with the rounding it lies at 2^64 - 2^10 seconds, and at 1000 · 2^64 - 2^20
milliseconds, since the word of 2^64 seconds takes in what is half a step below it.
-/

namespace CommandShell.Duration

open Number

/-! ## Writings -/

/-- A text is a number and the unit behind it, so many of which are in a second: `ms`, `s`, or none. -/
inductive HasUnit : List Char → List Char → Nat → Prop
  | milliseconds (number : List Char) : HasUnit (number ++ ['m', 's']) number 1000
  | seconds {number : List Char} (h : number.getLast? ≠ some 'm') : HasUnit (number ++ ['s']) number 1
  | bare {number : List Char} (h : number.getLast? ≠ some 's') : HasUnit number number 1

/-- A text is written as the decimal `d · 10^p`, with its sign, of so many units a second. -/
def WrittenAs (raw : String) (negative : Bool) (d : Nat) (p : Int) (unit : Nat) : Prop :=
  ∃ number cs, HasUnit (Text.asciiLower (Text.trim raw)).toList number unit ∧
    takeSign (Text.trim (String.ofList number)).toList = (negative, cs) ∧ readDecimal cs = some (d, p)

/-- A text stands for a number of seconds: it is written as a number that is finite, and not below zero when
rounded, and the seconds are that number divided by the unit, rounded once more. -/
def Seconds (raw : String) (word : Nat) : Prop :=
  ∃ negative d p unit magnitude, WrittenAs raw negative d p unit ∧ RoundsTo (d * (10 : ℚ) ^ p) magnitude ∧
    (negative = true → magnitude = 0) ∧ RoundsTo (value magnitude / unit) word

/-- A duration is a number of seconds, to the nearest nanosecond. -/
structure Holds (d : Duration) (seconds : ℚ) : Prop where
  nearest : NearestEven (seconds * 10 ^ 9) d.toNanos
  nanos_lt : d.nanos < 10 ^ 9
  secs_lt : d.secs < 2 ^ 64

/-- The number of units from which on 2^64 seconds are read: half a step of the rounding below it. -/
def limit (unit : Nat) : ℚ :=
  if unit = 1 then 2 ^ 64 - 2 ^ 10 else 1000 * 2 ^ 64 - 2 ^ 20

/-- A text is written as a finite number, with no sign below zero, that reaches the limit of its unit. -/
def ReachesLimit (raw : String) : Prop :=
  ∃ d p unit, WrittenAs raw false d p unit ∧ limit unit ≤ d * (10 : ℚ) ^ p ∧
    d * (10 : ℚ) ^ p < (2 ^ 54 - 1) * 2 ^ 970

/-- What becomes of a text. -/
inductive Reads (raw : String) : Reading → Prop
  | duration {word : Nat} {d : Duration} (seconds : Seconds raw word) (lt : value word < 2 ^ 64)
    (holds : d.Holds (value word)) : Reads raw (.duration d)
  | tooLong {word : Nat} (seconds : Seconds raw word) (le : 2 ^ 64 ≤ value word) : Reads raw .tooLong
  /-- Refused with a complaint about the text, which the reason may follow. -/
  | invalid (deeper : List String) (noSeconds : ∀ word, ¬Seconds raw word) :
    Reads raw (.invalid ⟨"invalid duration: " ++ raw, deeper⟩)

theorem splitUnit_of_hasUnit {text number : List Char} {unit : Nat} (h : HasUnit text number unit) :
    splitUnit text = (number, unit) := by
  have hs : ∀ cs : List Char, "s".toList.isSuffixOf cs = true ↔ cs.getLast? = some 's' := by
    intro cs
    rw [List.isSuffixOf_iff_suffix, List.getLast?_eq_some_iff]
    exact ⟨fun ⟨front, h⟩ => ⟨front, h.symm⟩, fun ⟨front, h⟩ => ⟨front, h.symm⟩⟩
  have hms : ∀ cs : List Char, "ms".toList.isSuffixOf (cs ++ ['s']) = true ↔ cs.getLast? = some 'm' := by
    intro cs
    rw [List.isSuffixOf_iff_suffix, List.getLast?_eq_some_iff]
    constructor
    · rintro ⟨front, h⟩
      rw [show "ms".toList = ['m'] ++ ['s'] from rfl, ← List.append_assoc] at h
      exact ⟨front, (List.append_cancel_right h).symm⟩
    · rintro ⟨front, rfl⟩
      exact ⟨front, by rw [List.append_assoc]; rfl⟩
  have hms' : ∀ cs : List Char, "ms".toList.isSuffixOf cs = true → cs.getLast? = some 's' := by
    intro cs h
    obtain ⟨front, rfl⟩ := List.isSuffixOf_iff_suffix.1 h
    rw [List.getLast?_append]
    rfl
  unfold splitUnit
  cases h with
  | milliseconds =>
    have htail : "ms".toList.isSuffixOf (number ++ ['m', 's']) = true :=
      List.isSuffixOf_iff_suffix.2 ⟨number, rfl⟩
    have hlength : (number ++ ['m', 's']).length - 2 = number.length := by simp
    rw [if_pos htail, hlength, List.take_left]
  | seconds h =>
    have hlength : (number ++ ['s']).length - 1 = number.length := by simp
    rw [if_neg (fun hm => h ((hms number).1 hm)), if_pos ((hs _).2 List.getLast?_concat), hlength,
      List.take_left]
  | bare h =>
    rw [if_neg (fun hm => h (hms' _ hm)), if_neg (fun hm => h ((hs _).1 hm))]

theorem exists_hasUnit (text : List Char) : ∃ number unit, HasUnit text number unit := by
  by_cases hs : text.getLast? = some 's'
  · obtain ⟨front, rfl⟩ := List.getLast?_eq_some_iff.1 hs
    by_cases hm : front.getLast? = some 'm'
    · obtain ⟨number, rfl⟩ := List.getLast?_eq_some_iff.1 hm
      refine ⟨number, 1000, ?_⟩
      rw [List.append_assoc]
      exact .milliseconds number
    · exact ⟨front, 1, .seconds hm⟩
  · exact ⟨text, 1, .bare hs⟩

theorem hasUnit_iff {text number : List Char} {unit : Nat} :
    HasUnit text number unit ↔ splitUnit text = (number, unit) := by
  refine ⟨splitUnit_of_hasUnit, fun h => ?_⟩
  obtain ⟨number', unit', h'⟩ := exists_hasUnit text
  have hsame := (splitUnit_of_hasUnit h').symm.trans h
  cases hsame
  exact h'

/-! ## Numbers -/

theorem readMagnitude_of_decimal {s : String} {negative : Bool} {cs : List Char} {d : Nat} {p : Int}
    (hs : takeSign s.toList = (negative, cs)) (hd : readDecimal cs = some (d, p)) :
    readMagnitude s = some (negative, decimalWord d p) := by
  unfold readMagnitude
  rw [hs]
  dsimp only
  rw [hd]

/-- The names that are read as a number stand for no finite one. -/
theorem infinityWord_le_of_readMagnitude {s : String} {negative negative' : Bool} {cs : List Char} {word : Nat}
    (hs : takeSign s.toList = (negative, cs)) (hd : readDecimal cs = none)
    (h : readMagnitude s = some (negative', word)) : infinityWord ≤ word := by
  unfold readMagnitude at h
  rw [hs] at h
  dsimp only at h
  rw [hd] at h
  dsimp only at h
  split at h
  · cases h
    exact Nat.le_refl _
  · split at h
    · cases h
      decide
    · cases h

/-- A finite word is 2^64 or more from the word of that power on. -/
theorem le_ratio_iff {word : Nat} (h : word < infinityWord) :
    twoTo 64 * (ratio word).2 ≤ (ratio word).1 ↔ 1087 * 2 ^ 52 ≤ word := by
  rw [twoTo_eq]
  rcases ratio_cases h with ⟨hword, hnum, hden⟩ | ⟨m, e, hm, hm', he, hword, hratio⟩
  · exact iff_of_false (by omega) (by omega)
  rw [hratio, hword]
  dsimp only
  rcases Nat.lt_or_ge e 12 with hlt | hge
  · have hpow : 2 ^ e ≤ 2 ^ 11 := Nat.pow_le_pow_right (by decide) (Nat.le_of_lt_succ hlt)
    have hsmall : m * 2 ^ e < 2 ^ 53 * 2 ^ 11 := Nat.mul_lt_mul_of_lt_of_le hm' hpow (by decide)
    exact iff_of_false (by omega) (by omega)
  · have hpow : 2 ^ 12 ≤ 2 ^ e := Nat.pow_le_pow_right (by decide) hge
    have hlarge : 2 ^ 52 * 2 ^ 12 ≤ m * 2 ^ e := Nat.mul_le_mul hm hpow
    exact iff_of_true (by omega) (by omega)

theorem divWord_eq (word n : Nat) : divWord word n = nearest (ratio word).1 ((ratio word).2 * n) := rfl

/-- A thousandth of a finite word is 2^64 or more from the word of that many thousands on. -/
theorem le_divWord_iff {word : Nat} (h : word < infinityWord) :
    1087 * 2 ^ 52 ≤ divWord word 1000 ↔ (21 + 1074) * 2 ^ 52 + 125 * 2 ^ 46 ≤ word := by
  rw [divWord_eq, show 1087 * 2 ^ 52 = (12 + 1075) * 2 ^ 52 from rfl,
    pow_le_nearest_iff (Nat.mul_pos (ratio_pos word) (by decide)) (by decide) (by decide)]
  rcases ratio_cases h with ⟨hword, hnum, hden⟩ | ⟨m, e, hm, hm', he, hword, hratio⟩
  · exact iff_of_false (by omega) (by omega)
  rw [hratio, hword]
  dsimp only
  rcases Nat.lt_trichotomy e 21 with hlt | rfl | hgt
  · have hpow : 2 ^ e ≤ 2 ^ 20 := Nat.pow_le_pow_right (by decide) (Nat.le_of_lt_succ hlt)
    have hsmall : m * 2 ^ e < 2 ^ 53 * 2 ^ 20 := Nat.mul_lt_mul_of_lt_of_le hm' hpow (by decide)
    exact iff_of_false (by omega) (by omega)
  · omega
  · have hpow : 2 ^ 22 ≤ 2 ^ e := Nat.pow_le_pow_right (by decide) hgt
    have hlarge : 2 ^ 52 * 2 ^ 22 ≤ m * 2 ^ e := Nat.mul_le_mul hm hpow
    exact iff_of_true (by omega) (by omega)

/-- A finite word divided by a whole number is finite. -/
theorem divWord_lt {word n : Nat} (h : word < infinityWord) (hn : 0 < n) : divWord word n < infinityWord := by
  obtain ⟨k, hk⟩ : ∃ k, k = 971 := ⟨_, rfl⟩
  have hinfinity : infinityWord = (k + 1 + 1075) * 2 ^ 52 := by rw [hk]; rfl
  have hden := ratio_pos word
  have hle := ratio_le h (Nat.le_of_eq hk.symm)
  have hstep : 0 < (ratio word).2 * 2 ^ k := Nat.mul_pos hden (Nat.pow_pos (by decide))
  have hmany : (ratio word).2 * 2 ^ k ≤ (ratio word).2 * n * 2 ^ k :=
    Nat.mul_le_mul_right _ (Nat.le_mul_of_pos_right _ hn)
  rw [divWord_eq, hinfinity, ← Nat.not_le, pow_le_nearest_iff (Nat.mul_pos hden hn) (by omega) (by omega),
    step_succ _ k]
  omega

/-- The word of a number of seconds, of the word of a number of units. -/
def secondsOf (word unit : Nat) : Nat :=
  if unit = 1 then word else divWord word unit

theorem secondsOf_one (word : Nat) : secondsOf word 1 = word :=
  if_pos rfl

theorem secondsOf_thousand (word : Nat) : secondsOf word 1000 = divWord word 1000 :=
  if_neg (by decide)

theorem secondsOf_lt {word unit : Nat} (h : word < infinityWord) (hunit : unit = 1 ∨ unit = 1000) :
    secondsOf word unit < infinityWord := by
  rcases hunit with rfl | rfl
  · rwa [secondsOf_one]
  · rw [secondsOf_thousand]
    exact divWord_lt h (by decide)

/-- The seconds are the units divided by how many are in a second. -/
theorem secondsOf_roundsTo {word unit : Nat} (h : word < infinityWord) (hunit : unit = 1 ∨ unit = 1000) :
    RoundsTo (value word / unit) (secondsOf word unit) := by
  rcases hunit with rfl | rfl
  · rw [secondsOf_one, Nat.cast_one, div_one]
    exact roundsTo_value h
  · have hdiv := nearest_roundsTo (ratio word).1 (Nat.mul_pos (ratio_pos word) (by decide))
      (divWord_lt h (n := 1000) (by decide))
    rw [Nat.cast_mul, ← div_div, ← divWord_eq] at hdiv
    rw [secondsOf_thousand]
    exact hdiv

theorem le_value_iff (word : Nat) :
    2 ^ 64 ≤ value word ↔ twoTo 64 * (ratio word).2 ≤ (ratio word).1 := by
  have hden : (0 : ℚ) < (ratio word).2 := Nat.cast_pos.2 (ratio_pos word)
  unfold value
  rw [le_div_iff₀ hden, twoTo_eq, ← Nat.cast_le (α := ℚ)]
  push_cast
  rfl

/-! ## Readings -/

theorem WrittenAs.unit_eq {raw : String} {negative : Bool} {d unit : Nat} {p : Int}
    (h : WrittenAs raw negative d p unit) : unit = 1 ∨ unit = 1000 := by
  obtain ⟨number, cs, hunit, -⟩ := h
  generalize (Text.asciiLower (Text.trim raw)).toList = text at hunit
  cases hunit with
  | milliseconds => exact Or.inr rfl
  | seconds => exact Or.inl rfl
  | bare => exact Or.inl rfl

theorem WrittenAs.unique {raw : String} {negative negative' : Bool} {d d' unit unit' : Nat} {p p' : Int}
    (h : WrittenAs raw negative d p unit) (h' : WrittenAs raw negative' d' p' unit') :
    negative' = negative ∧ d' = d ∧ p' = p ∧ unit' = unit := by
  obtain ⟨number, cs, hunit, hsign, hdecimal⟩ := h
  obtain ⟨number', cs', hunit', hsign', hdecimal'⟩ := h'
  have hsplit := (hasUnit_iff.1 hunit).symm.trans (hasUnit_iff.1 hunit')
  cases hsplit
  have hsame := hsign.symm.trans hsign'
  cases hsame
  have hvalue := hdecimal.symm.trans hdecimal'
  cases hvalue
  exact ⟨rfl, rfl, rfl, rfl⟩

/-- The seconds that a text stands for, by its writing. -/
theorem WrittenAs.seconds_iff {raw : String} {negative : Bool} {d unit word : Nat} {p : Int}
    (h : WrittenAs raw negative d p unit) :
    Seconds raw word ↔ decimalWord d p < infinityWord ∧ (negative = true → decimalWord d p = 0) ∧
      word = secondsOf (decimalWord d p) unit := by
  constructor
  · rintro ⟨negative', d', p', unit', magnitude, h', hround, hzero, hseconds⟩
    obtain ⟨rfl, rfl, rfl, rfl⟩ := h.unique h'
    obtain ⟨hfinite, rfl⟩ := decimalWord_roundsTo_iff.1 hround
    exact ⟨hfinite, hzero, hseconds.unique (secondsOf_roundsTo hfinite h.unit_eq)⟩
  · rintro ⟨hfinite, hzero, rfl⟩
    exact ⟨negative, d, p, unit, _, h, decimalWord_roundsTo_iff.2 ⟨hfinite, rfl⟩, hzero,
      secondsOf_roundsTo hfinite h.unit_eq⟩

/-- What is read from a text that is written as a decimal. -/
theorem read_of_writtenAs {raw : String} {negative : Bool} {d unit : Nat} {p : Int}
    (h : WrittenAs raw negative d p unit) :
    read raw =
      if infinityWord ≤ decimalWord d p ∨ (negative = true ∧ decimalWord d p ≠ 0) then
        .invalid ⟨"invalid duration: " ++ raw, []⟩
      else
        let t := ratio (secondsOf (decimalWord d p) unit)
        if twoTo 64 * t.2 ≤ t.1 then .tooLong
        else .duration (ofNanos (roundDiv (t.1 * nanosPerSecond) t.2)) := by
  obtain ⟨number, cs, hunit, hsign, hdecimal⟩ := h
  unfold read
  rw [hasUnit_iff.1 hunit]
  dsimp only
  rw [readMagnitude_of_decimal hsign hdecimal]
  dsimp only
  generalize decimalWord d p = word
  by_cases hinfinite : infinityWord ≤ word
  · rw [if_pos hinfinite, if_pos (Or.inl hinfinite)]
  by_cases hbelow : negative = true ∧ word ≠ 0
  · have hboth : (negative && word != 0) = true := by simpa using hbelow
    rw [if_neg hinfinite, if_pos hboth, if_pos (Or.inr hbelow)]
  · have hnot : ¬(negative && word != 0) = true := by simpa using hbelow
    rw [if_neg hinfinite, if_neg hnot, if_neg (not_or.2 ⟨hinfinite, hbelow⟩)]
    rfl

/-- A text that is written as no decimal is refused. -/
theorem read_of_not_writtenAs {raw : String} (h : ∀ negative d p unit, ¬WrittenAs raw negative d p unit) :
    ∃ deeper, read raw = .invalid ⟨"invalid duration: " ++ raw, deeper⟩ := by
  obtain ⟨number, unit, hunit⟩ := exists_hasUnit (Text.asciiLower (Text.trim raw)).toList
  unfold read
  rw [hasUnit_iff.1 hunit]
  dsimp only
  obtain ⟨⟨negative, cs⟩, hsign⟩ : ∃ t, takeSign (Text.trim (String.ofList number)).toList = t := ⟨_, rfl⟩
  have hdecimal : readDecimal cs = none := by
    by_contra hsome
    obtain ⟨⟨d, p⟩, hd⟩ := Option.ne_none_iff_exists'.1 hsome
    exact h negative d p unit ⟨number, cs, hunit, hsign, hd⟩
  cases hnumber : readMagnitude (Text.trim (String.ofList number)) with
  | none => exact ⟨_, rfl⟩
  | some t =>
    refine ⟨[], ?_⟩
    dsimp only
    rw [if_pos (infinityWord_le_of_readMagnitude hsign hdecimal hnumber)]

theorem toNanos_ofNanos (n : Nat) : (ofNanos n).toNanos = n :=
  Nat.div_add_mod' n nanosPerSecond

theorem nanos_ofNanos_lt (n : Nat) : (ofNanos n).nanos < 10 ^ 9 :=
  Nat.mod_lt n (tenTo_pos 9)

theorem secs_ofNanos_lt {n bound : Nat} (h : n < bound * 10 ^ 9) : (ofNanos n).secs < bound :=
  (Nat.div_lt_iff_lt_mul (tenTo_pos 9)).2 h

theorem holds_ofNanos {word : Nat} (h : word < infinityWord) (hlt : value word < 2 ^ 64) :
    (ofNanos (roundDiv ((ratio word).1 * nanosPerSecond) (ratio word).2)).Holds (value word) := by
  have hden := ratio_pos word
  have hless : (ratio word).1 < 2 ^ 64 * (ratio word).2 := by
    rw [← not_le, le_value_iff, Nat.not_le, twoTo_eq] at hlt
    exact hlt
  refine ⟨?_, nanos_ofNanos_lt _, secs_ofNanos_lt ?_⟩
  · have hvalue : value word * 10 ^ 9 = ((ratio word).1 * nanosPerSecond : Nat) / (ratio word).2 := by
      unfold value
      rw [div_mul_eq_mul_div, Nat.cast_mul, nanosPerSecond, tenTo_eq, Nat.cast_pow]
      rfl
    rw [toNanos_ofNanos, hvalue]
    exact roundDiv_nearestEven _ hden
  · rw [nanosPerSecond, tenTo_eq]
    rcases ratio_cases h with ⟨-, hnum, -⟩ | ⟨m, e, -, -, -, -, hratio⟩
    · have hround : roundDiv ((ratio word).1 * 10 ^ 9) (ratio word).2 ≤ 2 ^ 53 * 10 ^ 9 :=
        roundDiv_le hden (Nat.le_trans (Nat.mul_le_mul_right _ (Nat.le_of_lt hnum))
          (Nat.le_mul_of_pos_right _ hden))
      omega
    · rw [hratio] at hless ⊢
      dsimp only at hless ⊢
      rw [roundDiv_one]
      rw [Nat.mul_one] at hless
      exact Nat.mul_lt_mul_of_pos_right hless (by decide)

/-- **What is read.** A text that stands for a number of seconds below 2^64 is read as the duration that holds
it; of 2^64 seconds and more the reading does not come back; and any other text is refused with a complaint
about it. -/
theorem reads_read (raw : String) : Reads raw (read raw) := by
  by_cases hwritten : ∃ negative d p unit, WrittenAs raw negative d p unit
  · obtain ⟨negative, d, p, unit, h⟩ := hwritten
    rw [read_of_writtenAs h]
    by_cases hrefused : infinityWord ≤ decimalWord d p ∨ (negative = true ∧ decimalWord d p ≠ 0)
    · rw [if_pos hrefused]
      refine .invalid [] ?_
      intro word hseconds
      obtain ⟨hfinite, hzero, -⟩ := h.seconds_iff.1 hseconds
      rcases hrefused with hinfinite | ⟨hneg, hne⟩
      · exact absurd hfinite (Nat.not_lt.2 hinfinite)
      · exact hne (hzero hneg)
    · rw [if_neg hrefused]
      obtain ⟨hfinite, hzero⟩ := not_or.1 hrefused
      rw [Nat.not_le] at hfinite
      have hseconds : Seconds raw (secondsOf (decimalWord d p) unit) :=
        h.seconds_iff.2 ⟨hfinite, fun hneg => by_contra fun hne => hzero ⟨hneg, hne⟩, rfl⟩
      dsimp only
      rcases lt_or_ge (value (secondsOf (decimalWord d p) unit)) (2 ^ 64) with hlt | hge
      · rw [if_neg (fun hle => not_le_of_gt hlt ((le_value_iff _).2 hle))]
        exact .duration hseconds hlt (holds_ofNanos (secondsOf_lt hfinite h.unit_eq) hlt)
      · rw [if_pos ((le_value_iff _).1 hge)]
        exact .tooLong hseconds hge
  · have hnot : ∀ negative d p unit, ¬WrittenAs raw negative d p unit :=
      fun negative d p unit h => hwritten ⟨negative, d, p, unit, h⟩
    obtain ⟨deeper, hread⟩ := read_of_not_writtenAs hnot
    rw [hread]
    refine .invalid deeper ?_
    rintro word ⟨negative, d, p, unit, magnitude, h, -⟩
    exact hnot negative d p unit h

/-! ## The boundary -/

/-- The word of the number of units from which on 2^64 seconds are read. -/
def limitWord (unit : Nat) : Nat :=
  if unit = 1 then (12 + 1075) * 2 ^ 52 else (21 + 1074) * 2 ^ 52 + 125 * 2 ^ 46

theorem le_value_secondsOf_iff {word unit : Nat} (h : word < infinityWord) (hunit : unit = 1 ∨ unit = 1000) :
    2 ^ 64 ≤ value (secondsOf word unit) ↔ limitWord unit ≤ word := by
  rw [le_value_iff, le_ratio_iff (secondsOf_lt h hunit)]
  rcases hunit with rfl | rfl
  · rw [secondsOf_one, limitWord, if_pos rfl]
  · rw [secondsOf_thousand, le_divWord_iff h, limitWord, if_neg (by decide)]

theorem limitWord_le_iff {unit : Nat} (hunit : unit = 1 ∨ unit = 1000) (d : Nat) (p : Int) :
    limitWord unit ≤ decimalWord d p ↔ limit unit ≤ d * (10 : ℚ) ^ p := by
  rcases hunit with rfl | rfl
  · rw [limitWord, if_pos rfl, pow_le_decimalWord_iff (by decide) (by decide), limit, if_pos rfl]
    norm_num
  · rw [limitWord, if_neg (by decide),
      even_le_decimalWord_iff (by decide) (by decide) (by decide) (by decide) (by decide), limit,
      if_neg (by decide)]
    norm_num

theorem limitWord_pos (unit : Nat) : 0 < limitWord unit := by
  unfold limitWord
  split <;> decide

/-- **The boundary.** The reading does not come back of exactly the numbers that reach the limit. -/
theorem read_eq_tooLong_iff (raw : String) : read raw = .tooLong ↔ ReachesLimit raw := by
  constructor
  · intro h
    have hreads := reads_read raw
    rw [h] at hreads
    cases hreads with
    | tooLong hseconds hge =>
      obtain ⟨negative, d, p, unit, magnitude, hwritten, -⟩ := id hseconds
      obtain ⟨hfinite, hzero, rfl⟩ := hwritten.seconds_iff.1 hseconds
      have hlimit := (le_value_secondsOf_iff hfinite hwritten.unit_eq).1 hge
      cases negative with
      | false =>
        exact ⟨d, p, unit, hwritten, (limitWord_le_iff hwritten.unit_eq d p).1 hlimit,
          (decimalWord_lt_iff d p).1 hfinite⟩
      | true =>
        -- zero is below every limit
        rw [hzero rfl] at hlimit
        exact absurd hlimit (Nat.not_le.2 (limitWord_pos unit))
  · rintro ⟨d, p, unit, hwritten, hlow, hhigh⟩
    have hfinite := (decimalWord_lt_iff d p).2 hhigh
    have hlimit := (limitWord_le_iff hwritten.unit_eq d p).2 hlow
    have hge := (le_value_secondsOf_iff hfinite hwritten.unit_eq).2 hlimit
    have haccepted : ¬(infinityWord ≤ decimalWord d p ∨ (false = true ∧ decimalWord d p ≠ 0)) := by
      rintro (hle | ⟨hfalse, -⟩)
      · exact Nat.not_le.2 hfinite hle
      · cases hfalse
    rw [read_of_writtenAs hwritten, if_neg haccepted]
    exact if_pos ((le_value_iff _).1 hge)

/-- The largest whole number of seconds that is read, and the one behind it. -/
example :
    read "18446744073709550591" = .duration ⟨18446744073709549568, 0⟩ ∧
      read "18446744073709550592" = .tooLong := by
  decide +kernel

end CommandShell.Duration
