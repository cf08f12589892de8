/-!
# Entries sorted by key

    insert k v es = es with the entry of k set to v, at its place in the order of keys
    find? k es    = the value at k
-/

namespace CommandShell.Assoc

variable {α : Type}

/-! ## Algorithm -/

def find? (key : String) : List (String × α) → Option α
  | [] => none
  | (k, v) :: rest => if k = key then some v else find? key rest

/-- Sets the value at a key of sorted entries. -/
def insert (key : String) (v : α) : List (String × α) → List (String × α)
  | [] => [(key, v)]
  | (k, w) :: rest =>
    if key < k then (key, v) :: (k, w) :: rest
    else if k = key then (key, v) :: rest
    else (k, w) :: insert key v rest

/-! ## Lemmas -/

theorem find?_insert_self (key : String) (v : α) (es : List (String × α)) :
    find? key (insert key v es) = some v := by
  induction es with
  | nil => simp [insert, find?]
  | cons e rest ih =>
    obtain ⟨k, w⟩ := e
    simp only [insert]
    split
    · simp [find?]
    · split
      · simp [find?]
      · next h => simp [find?, h, ih]

theorem find?_insert_of_ne {key k : String} (h : k ≠ key) (v : α) (es : List (String × α)) :
    find? k (insert key v es) = find? k es := by
  induction es with
  | nil => simp [insert, find?, Ne.symm h]
  | cons e rest ih =>
    obtain ⟨k', w⟩ := e
    simp only [insert]
    split
    · simp [find?, Ne.symm h]
    · split
      · next e => subst e; simp [find?, Ne.symm h]
      · simp [find?, ih]

theorem mem_of_find? {key : String} {v : α} {es : List (String × α)} (h : find? key es = some v) :
    (key, v) ∈ es := by
  induction es with
  | nil => cases h
  | cons e rest ih =>
    obtain ⟨k, w⟩ := e
    unfold find? at h
    split at h
    · next hk =>
      cases h
      rw [hk]
      exact List.mem_cons_self
    · exact List.mem_cons_of_mem _ (ih h)

end CommandShell.Assoc
