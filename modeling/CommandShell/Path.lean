/-!
# Paths

A path is a text of names with slashes between them. Repeated slashes count as one; a single dot
stands for the folder itself, two dots for the folder above.

    parent? p = p without its last name
    parts p   = what two paths for the same place in the same words have in common
-/

namespace CommandShell.Path

/-! ## Algorithm -/

/-- The texts between the slashes, `name` read so far, backwards. -/
def splitFrom (name : List Char) : List Char → List String
  | [] => [String.ofList name.reverse]
  | c :: rest => if c = '/' then String.ofList name.reverse :: splitFrom [] rest else splitFrom (c :: name) rest

def isAbsolute (path : String) : Bool :=
  path.toList.head? == some '/'

/-- The names of a path. A slash at the end asks for a folder, as a dot there does. -/
def names (path : String) : List String :=
  let texts := (splitFrom [] path.toList).filter (· != "")
  if path.toList.getLast? == some '/' then texts ++ ["."] else texts

/-- The names of a path and whether it starts at the root, without the dots that change nothing; a
dot at the very start is kept. -/
def parts (path : String) : Bool × List String :=
  match isAbsolute path, names path with
  | false, "." :: rest => (false, "." :: rest.filter (· != "."))
  | absolute, texts => (absolute, texts.filter (· != "."))

/-- A path read backwards, without the slashes and single dots at its end. -/
def dropTail : List Char → List Char
  | '/' :: c :: rest => dropTail (c :: rest)
  | '.' :: '/' :: rest => dropTail ('/' :: rest)
  | cs => cs

/-- The path of the folder that holds a path; none for the root and for the empty path. -/
def parent? (path : String) : Option String :=
  match dropTail path.toList.reverse with
  | [] => none
  | ['/'] => none
  | cs => some (String.ofList (dropTail (cs.dropWhile (· != '/'))).reverse)

/-- A name inside a folder. -/
def inside (folder name : String) : String :=
  if folder.toList.getLast? == some '/' then folder ++ name else folder ++ "/" ++ name

/-- The first of each group of paths with the same parts. -/
def distinct : List String → List String
  | [] => []
  | p :: rest => p :: (distinct rest).filter fun q => parts q != parts p

/-! ## Lemmas -/

theorem mem_of_mem_distinct {p : String} {ps : List String} (h : p ∈ distinct ps) : p ∈ ps := by
  induction ps with
  | nil => cases h
  | cons q rest ih =>
    rw [distinct, List.mem_cons] at h
    rcases h with rfl | h
    · exact List.mem_cons_self
    · exact List.mem_cons_of_mem _ (ih (List.mem_filter.1 h).1)

/-- Of the paths with given parts one is kept. -/
theorem exists_mem_distinct {p : String} {ps : List String} (h : p ∈ ps) :
    ∃ q ∈ distinct ps, parts q = parts p := by
  induction ps with
  | nil => cases h
  | cons r rest ih =>
    by_cases e : parts r = parts p
    · exact ⟨r, List.mem_cons_self, e⟩
    · rcases List.mem_cons.1 h with rfl | h
      · exact absurd rfl e
      · obtain ⟨q, hq, hp⟩ := ih h
        refine ⟨q, List.mem_cons_of_mem _ (List.mem_filter.2 ⟨hq, ?_⟩), hp⟩
        simpa [hp] using fun e' => e e'.symm

end CommandShell.Path
