import CommandShell.Text.Blank

/-!
# Input history

Lines from oldest to newest, none blank and none twice: a line that is entered again moves to the
end, and of several equal lines the last one counts.

    add h x         = h without x, and x at the end
    mergeLoaded h l = dedupe (l ++ h)
-/

namespace CommandShell

/-! ## Algorithm -/

/-- The entries of a list, each at its last place, without blank ones. -/
def dedupe : List String → List String
  | [] => []
  | x :: rest => if Text.allBlank x || rest.contains x then dedupe rest else x :: dedupe rest

structure History where
  entries : List String := []
deriving DecidableEq

namespace History

/-- Adds a line that was entered. -/
def add (h : History) (line : String) : History :=
  if Text.allBlank line then h else ⟨h.entries.filter (· != line) ++ [line]⟩

/-- Puts loaded lines in front. -/
def mergeLoaded (h : History) (loaded : List String) : History :=
  ⟨dedupe (loaded ++ h.entries)⟩

end History

/-- The last `n` entries of a list. -/
def lastEntries {α : Type} (n : Nat) (xs : List α) : List α :=
  xs.drop (xs.length - n)

/-! ## Lemmas -/

theorem mem_dedupe {x : String} {xs : List String} :
    x ∈ dedupe xs ↔ x ∈ xs ∧ Text.allBlank x = false := by
  induction xs with
  | nil => simp [dedupe]
  | cons y rest ih =>
    simp only [dedupe, Bool.or_eq_true, List.contains_iff_mem]
    split
    · next h =>
      rw [ih]
      constructor
      · rintro ⟨h1, h2⟩
        exact ⟨List.mem_cons_of_mem _ h1, h2⟩
      · rintro ⟨h1, h2⟩
        refine ⟨?_, h2⟩
        rcases List.mem_cons.1 h1 with rfl | h1
        · rcases h with h | h
          · rw [h2] at h
            cases h
          · exact h
        · exact h1
    · next h =>
      simp only [List.mem_cons, ih]
      constructor
      · rintro (rfl | ⟨h1, h2⟩)
        · exact ⟨Or.inl rfl, by simpa using fun e => h (Or.inl e)⟩
        · exact ⟨Or.inr h1, h2⟩
      · rintro ⟨rfl | h1, h2⟩
        · exact Or.inl rfl
        · exact Or.inr ⟨h1, h2⟩

theorem lastEntries_length {α : Type} (n : Nat) (xs : List α) :
    (lastEntries n xs).length = min n xs.length := by
  simp only [lastEntries, List.length_drop]
  omega

end CommandShell
