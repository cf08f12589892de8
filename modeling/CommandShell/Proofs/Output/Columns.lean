import CommandShell.Output
import Mathlib.Data.List.Forall2
import Mathlib.Data.List.Induction

/-!
# Columns of a table

A line of a table is made of its cells, the blanks that fill them up and the gaps between them. What stands in
front of a cell takes as many columns in every line: the widths of the columns before it, and a gap each. The
width of a text is any function that gives blanks and dashes a column each.

    joinRow width widths cells = filledLine filled      with Fills width widths filled
    Fills width widths filled → columnsBefore width filled j = columnStart width widths j
-/

namespace CommandShell.Output

variable {width : String → Nat}

/-! ## The names of the columns -/

/-- The names of all members of all records, in the order in which they are seen. -/
def seenNames (rs : List Json.Record) : List String :=
  rs.flatMap fun r => r.map Prod.fst

/-- A name that is not among the columns becomes the last one. -/
def addName (columns : List String) (name : String) : List String :=
  if columns.contains name then columns else columns ++ [name]

theorem addName_eq (columns : List String) (name : String) :
    addName columns name = if name ∈ columns then columns else columns ++ [name] := by
  simp [addName]

theorem columns_eq (rs : List Json.Record) : columns rs = (seenNames rs).foldl addName [] := by
  unfold columns seenNames
  rw [List.foldl_flatMap]
  congr 1
  funext cs r
  rw [List.foldl_map]
  rfl

theorem mem_seenNames {rs : List Json.Record} {name : String} :
    name ∈ seenNames rs ↔ ∃ r ∈ rs, ∃ v, (name, v) ∈ r := by
  simp [seenNames]

theorem mem_foldl_addName {name : String} {names : List String} :
    name ∈ names.foldl addName [] ↔ name ∈ names := by
  induction names using List.reverseRecOn with
  | nil => rfl
  | append_singleton names last ih =>
    rw [List.foldl_concat, addName_eq, List.mem_append, List.mem_singleton, ← ih]
    split
    · next hin =>
      refine (or_iff_left_of_imp ?_).symm
      rintro rfl
      exact hin
    · rw [List.mem_append, List.mem_singleton]

theorem nodup_foldl_addName (names : List String) : (names.foldl addName []).Nodup := by
  induction names using List.reverseRecOn with
  | nil => exact List.nodup_nil
  | append_singleton names last ih =>
    rw [List.foldl_concat, addName_eq]
    split
    · exact ih
    · next hnew =>
      refine List.nodup_append.2 ⟨ih, List.pairwise_singleton .., fun a ha b hb => ?_⟩
      rw [List.mem_singleton.1 hb]
      exact fun he => hnew (he ▸ ha)

/-- The columns stand as they are first seen. -/
theorem pairwise_foldl_addName (names : List String) :
    (names.foldl addName []).Pairwise fun a b => names.idxOf a < names.idxOf b := by
  induction names using List.reverseRecOn with
  | nil => exact .nil
  | append_singleton names last ih =>
    have hkept : (names.foldl addName []).Pairwise fun a b =>
        (names ++ [last]).idxOf a < (names ++ [last]).idxOf b := by
      refine ih.imp_of_mem fun ha hb h => ?_
      rwa [List.idxOf_append_of_mem (mem_foldl_addName.1 ha), List.idxOf_append_of_mem (mem_foldl_addName.1 hb)]
    rw [List.foldl_concat, addName_eq]
    split
    · exact hkept
    · next hnew =>
      refine List.pairwise_append.2 ⟨hkept, List.pairwise_singleton .., fun a ha b hb => ?_⟩
      obtain rfl := List.mem_singleton.1 hb
      rw [mem_foldl_addName] at hnew
      rw [List.idxOf_append_of_mem (mem_foldl_addName.1 ha), List.idxOf_append_of_notMem hnew]
      have := List.idxOf_lt_length_of_mem (mem_foldl_addName.1 ha)
      omega

/-! ## The texts of a column -/

/-- What a record shows for a member: nothing for one that is missing or null, a string as it is, other values
on one line. -/
inductive ShownAs : Option Json → String → Prop
  | missing : ShownAs none ""
  | null : ShownAs (some .null) ""
  | string (s : String) : ShownAs (some (.string s)) s
  | other {v : Json} : v ≠ .null → (∀ s, v ≠ .string s) → ShownAs (some v) v.compact

theorem shownAs_iff {v : Option Json} {text : String} :
    ShownAs v text ↔ (v.map cellText).getD "" = text := by
  constructor
  · intro h
    cases h with
    | missing | null | string => rfl
    | @other v hnull hstring =>
      cases v with
      | null => exact absurd rfl hnull
      | string s => exact absurd rfl (hstring s)
      | bool | number | array | object => rfl
  · rintro rfl
    cases v with
    | none => exact .missing
    | some v =>
      cases v with
      | null => exact .null
      | string s => exact .string s
      | bool | number | array | object => exact .other Json.noConfusion fun _ => Json.noConfusion

/-- The texts of a column: its name, and what the records show for it. -/
def StandsIn (rs : List Json.Record) (name text : String) : Prop :=
  text = name ∨ ∃ r ∈ rs, ShownAs (Assoc.find? name r) text

/-- The width of the widest text of a column. -/
def IsWidest (width : String → Nat) (rs : List Json.Record) (name : String) (w : Nat) : Prop :=
  (∃ text, StandsIn rs name text ∧ width text = w) ∧ ∀ text, StandsIn rs name text → width text ≤ w

theorem le_foldl_max (ws : List Nat) (a : Nat) : a ≤ ws.foldl max a ∧ ∀ w ∈ ws, w ≤ ws.foldl max a := by
  induction ws generalizing a with
  | nil => simp
  | cons w ws ih =>
    obtain ⟨hstart, hrest⟩ := ih (max a w)
    rw [List.foldl_cons, List.forall_mem_cons]
    exact ⟨by omega, by omega, hrest⟩

theorem foldl_max_eq (ws : List Nat) (a : Nat) : ws.foldl max a = a ∨ ws.foldl max a ∈ ws := by
  induction ws generalizing a with
  | nil => exact Or.inl rfl
  | cons w ws ih =>
    rw [List.foldl_cons]
    rcases ih (max a w) with h | h
    · rw [h, List.mem_cons]
      omega
    · exact Or.inr (List.mem_cons_of_mem _ h)

theorem width_le_widest {text : String} {texts : List String} (h : text ∈ texts) :
    width text ≤ widest width texts :=
  (le_foldl_max _ 0).2 _ (List.mem_map_of_mem h)

theorem exists_width_eq_widest {text : String} {texts : List String} (h : text ∈ texts) :
    ∃ t ∈ texts, width t = widest width texts := by
  rcases foldl_max_eq (texts.map width) 0 with hzero | hmem
  · refine ⟨text, h, ?_⟩
    have : width text ≤ widest width texts := width_le_widest h
    unfold widest at this ⊢
    omega
  · exact List.mem_map.1 hmem

theorem isWidest_widest (rs : List Json.Record) (name : String) :
    IsWidest width rs name (widest width (name :: rs.map fun r => ((Assoc.find? name r).map cellText).getD "")) := by
  have hmem : ∀ text, StandsIn rs name text ↔
      text ∈ name :: rs.map fun r => ((Assoc.find? name r).map cellText).getD "" := by
    intro text
    unfold StandsIn
    simp only [shownAs_iff, List.mem_cons, List.mem_map]
  constructor
  · obtain ⟨t, ht, hwidth⟩ := exists_width_eq_widest (List.mem_cons_self (a := name))
    exact ⟨t, (hmem t).2 ht, hwidth⟩
  · exact fun text htext => width_le_widest ((hmem text).1 htext)

/-! ## Lines -/

/-- So many blanks. -/
def blanks (n : Nat) : String :=
  String.ofList (List.replicate n ' ')

/-- So many dashes. -/
def dashes (n : Nat) : String :=
  String.ofList (List.replicate n '-')

/-- A line of cells, some blanks behind each, and gaps between them. -/
def filledLine (filled : List (String × Nat)) : String :=
  String.intercalate gap (filled.map fun t => t.1 ++ blanks t.2)

/-- The columns of all that stands in front of the cell at a place: cells, blanks and gaps. -/
def columnsBefore (width : String → Nat) : List (String × Nat) → Nat → Nat
  | t :: filled, j + 1 => width t.1 + width (blanks t.2) + width gap + columnsBefore width filled j
  | _, _ => 0

/-- Where the column at a place starts. -/
def columnStart (width : String → Nat) : List Nat → Nat → Nat
  | w :: widths, j + 1 => w + width gap + columnStart width widths j
  | _, _ => 0

/-- Blanks fill every cell up to the width of its column, and the last one is left as it is. -/
inductive Fills (width : String → Nat) : List Nat → List (String × Nat) → Prop
  | none : Fills width [] []
  | last {w : Nat} {text : String} : width text ≤ w → Fills width [w] [(text, 0)]
  | cell {w n : Nat} {text : String} {ws : List Nat} {t : String × Nat} {filled : List (String × Nat)} :
      width text + n = w → Fills width ws (t :: filled) → Fills width (w :: ws) ((text, n) :: t :: filled)

/-- **In front of a cell stand the columns before it.** -/
theorem Fills.columnsBefore_eq (hblanks : ∀ n, width (blanks n) = n) {ws : List Nat}
    {filled : List (String × Nat)} (h : Fills width ws filled) {j : Nat} (hj : j < filled.length) :
    columnsBefore width filled j = columnStart width ws j := by
  induction h generalizing j with
  | none => cases hj
  | last =>
    rw [List.length_singleton] at hj
    obtain rfl : j = 0 := by omega
    rfl
  | @cell w n text ws t filled hw _ ih =>
    cases j with
    | zero => rfl
    | succ j =>
      have hrest := ih (j := j) (by simpa using hj)
      rw [columnsBefore, columnStart, hrest, hblanks, hw]

/-- The line shows the cells in columns of these widths: each but the last is filled up to its column, and in
front of it stand the columns before. -/
def InColumns (width : String → Nat) (widths : List Nat) (cells : List String) (line : String) : Prop :=
  ∃ filled, filled.map Prod.fst = cells ∧ Fills width widths filled ∧ line = filledLine filled ∧
    ∀ j < cells.length, columnsBefore width filled j = columnStart width widths j

theorem Fills.inColumns (hblanks : ∀ n, width (blanks n) = n) {ws : List Nat} {filled : List (String × Nat)}
    (h : Fills width ws filled) : InColumns width ws (filled.map Prod.fst) (filledLine filled) :=
  ⟨filled, rfl, h, rfl, fun j hj => h.columnsBefore_eq hblanks (by simpa using hj)⟩

theorem filledLine_cons (t u : String × Nat) (filled : List (String × Nat)) :
    filledLine (t :: u :: filled) = t.1 ++ blanks t.2 ++ gap ++ filledLine (u :: filled) := by
  unfold filledLine
  rw [List.map_cons, List.map_cons, String.intercalate_cons_cons]

theorem filledLine_singleton (text : String) : filledLine [(text, 0)] = text := by
  unfold filledLine
  rw [List.map_singleton, String.intercalate_singleton]
  exact String.append_empty

theorem inColumns_joinRow (hblanks : ∀ n, width (blanks n) = n) {widths : List Nat} {cells : List String}
    (h : List.Forall₂ (fun w cell => width cell ≤ w) widths cells) :
    InColumns width widths cells (joinRow width widths cells) := by
  suffices ∃ filled, filled.map Prod.fst = cells ∧ Fills width widths filled ∧
      joinRow width widths cells = filledLine filled by
    obtain ⟨filled, rfl, hfills, hline⟩ := this
    rw [hline]
    exact hfills.inColumns hblanks
  induction h with
  | nil => exact ⟨[], rfl, .none, rfl⟩
  | @cons w cell ws rest hw hrest ih =>
    cases hrest with
    | nil => exact ⟨[(cell, 0)], rfl, .last hw, (filledLine_singleton cell).symm⟩
    | @cons w' next ws' rest' _ _ =>
      obtain ⟨filled, hcells, hfills, hline⟩ := ih
      cases filled with
      | nil => cases hcells
      | cons t filled =>
        refine ⟨(cell, w - width cell) :: t :: filled, ?_, .cell (by omega) hfills, ?_⟩
        · rw [List.map_cons, hcells]
        · rw [joinRow, hline, filledLine_cons]
          · rfl
          · simp

/-- The rule is a line of dashes, with nothing to fill up. -/
theorem inColumns_rule (hblanks : ∀ n, width (blanks n) = n) (hdashes : ∀ n, width (dashes n) = n)
    (widths : List Nat) : InColumns width widths (widths.map dashes) (rule widths) := by
  have hfills : Fills width widths (widths.map fun w => (dashes w, 0)) := by
    induction widths with
    | nil => exact .none
    | cons w ws ih =>
      cases ws with
      | nil => exact .last (Nat.le_of_eq (hdashes w))
      | cons w' ws => exact .cell (hdashes w) ih
  have hline : rule widths = filledLine (widths.map fun w => (dashes w, 0)) := by
    unfold rule filledLine
    rw [List.map_map]
    congr 2
    funext w
    exact String.append_empty.symm
  have hcells : (widths.map fun w => (dashes w, 0)).map Prod.fst = widths.map dashes := by
    rw [List.map_map]
    rfl
  rw [hline, ← hcells]
  exact hfills.inColumns hblanks

/-! ## Tables -/

/-- **A table is aligned and complete.** Its columns are the names of the records, each once, in the order in
which they are first seen; a column is as wide as its widest text. The lines are a header with the names, a rule
of dashes and a line for each record, with what the record shows for each name; in each of them every cell but
the last is filled up to its column, so all start at the same place. All of this is measured by any width of
texts for which blanks and dashes take a column each. -/
theorem table_in_columns (width : String → Nat) (hblanks : ∀ n, width (blanks n) = n)
    (hdashes : ∀ n, width (dashes n) = n) {rs : List Json.Record} (h : rs ≠ []) :
    ((columns rs).Nodup ∧ (∀ name, name ∈ columns rs ↔ ∃ r ∈ rs, ∃ v, (name, v) ∈ r) ∧
        (columns rs).Pairwise fun a b => (seenNames rs).idxOf a < (seenNames rs).idxOf b) ∧
      ∃ widths header rule rows, table width rs = header :: rule :: rows ∧
        List.Forall₂ (IsWidest width rs) (columns rs) widths ∧
        InColumns width widths (columns rs) header ∧ InColumns width widths (widths.map dashes) rule ∧
        List.Forall₂ (fun r line => ∃ cells,
          List.Forall₂ (fun name cell => ShownAs (Assoc.find? name r) cell) (columns rs) cells ∧
            InColumns width widths cells line) rs rows := by
  refine ⟨⟨?_, fun name => ?_, ?_⟩, ?_⟩
  · rw [columns_eq]
    exact nodup_foldl_addName _
  · rw [columns_eq, mem_foldl_addName, mem_seenNames]
  · rw [columns_eq]
    exact pairwise_foldl_addName _
  have htable : table width rs = _ := if_neg (by simpa using h)
  refine ⟨_, _, _, _, htable, ?_, inColumns_joinRow hblanks ?_, inColumns_rule hblanks hdashes _, ?_⟩
  · simp only [columnTexts, List.map_map, List.forall₂_map_right_iff, List.forall₂_same]
    exact fun name _ => isWidest_widest rs name
  · simp only [columnTexts, List.map_map, List.forall₂_map_left_iff, List.forall₂_same]
    exact fun name _ => width_le_widest List.mem_cons_self
  · rw [List.forall₂_map_right_iff, List.forall₂_same]
    refine fun r hr => ⟨_, ?_, inColumns_joinRow hblanks ?_⟩
    · simp only [cells, List.forall₂_map_right_iff, List.forall₂_same]
      exact fun name _ => shownAs_iff.2 rfl
    · simp only [cells, columnTexts, List.map_map, List.forall₂_map_left_iff, List.forall₂_map_right_iff,
        List.forall₂_same]
      exact fun name _ => width_le_widest (List.mem_cons_of_mem _ (List.mem_map_of_mem hr))

/-- On the terminal wide letters take two columns each, and a missing text is filled up like any other. -/
theorem table_in_columns_wide :
    let rs : List Json.Record := [[("id", .string "a"), ("name", .string "관리자"), ("on", .bool true)],
      [("id", .string "bcd"), ("name", .null)]]
    (∀ n, Text.width (blanks n) = n) ∧ (∀ n, Text.width (dashes n) = n) ∧ rs ≠ [] ∧
      columns rs = ["id", "name", "on"] ∧
      ∃ widths, List.Forall₂ (IsWidest Text.width rs) ["id", "name", "on"] widths ∧
        InColumns Text.width widths ["id", "name", "on"] "id   name    on" ∧
        InColumns Text.width widths (widths.map dashes) "---  ------  ----" ∧
        List.Forall₂ (fun r line => ∃ cells,
          List.Forall₂ (fun name cell => ShownAs (Assoc.find? name r) cell) ["id", "name", "on"] cells ∧
            InColumns Text.width widths cells line) rs ["a    관리자  true", "bcd          "] := by
  intro rs
  have hne : rs ≠ [] := List.cons_ne_nil _ _
  have hcolumns : columns rs = ["id", "name", "on"] := by decide
  have hlines : table Text.width rs =
      ["id   name    on", "---  ------  ----", "a    관리자  true", "bcd          "] := by
    decide +kernel
  obtain ⟨-, widths, header, rule, rows, htable, hwidths, hheader, hrule, hrows⟩ :=
    table_in_columns Text.width Text.width_spaces Text.width_dashes hne
  rw [hlines] at htable
  obtain ⟨rfl, hbelow⟩ := List.cons.inj htable
  obtain ⟨rfl, rfl⟩ := List.cons.inj hbelow
  rw [hcolumns] at hwidths hheader hrows
  exact ⟨Text.width_spaces, Text.width_dashes, hne, hcolumns, widths, hwidths, hheader, hrule, hrows⟩

end CommandShell.Output
