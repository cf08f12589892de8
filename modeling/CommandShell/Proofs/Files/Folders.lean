import CommandShell.FileTree

/-!
# The folder of a file

A path leads to a file only through folders, and the path of its folder leads to the last of them. So
making the folder of a file that is there makes nothing.

    t.readBytes p = .ok bs → parent? p = some folder → folder ≠ "" → t.makeFolders folder = (t, none)
-/

namespace CommandShell

/-! ## The names of a path -/

namespace Path

/-- The texts between the slashes that are not empty. -/
def pieces (cs : List Char) : List String :=
  (splitFrom [] cs).filter (· != "")

theorem names_eq (path : String) :
    names path = if path.toList.getLast? == some '/' then pieces path.toList ++ ["."]
      else pieces path.toList := rfl

theorem splitFrom_append (name a b : List Char) :
    splitFrom name (a ++ '/' :: b) = splitFrom name a ++ splitFrom [] b := by
  induction a generalizing name with
  | nil => rfl
  | cons c a ih =>
    rw [List.cons_append, splitFrom, splitFrom]
    split
    · rw [ih, List.cons_append]
    · exact ih _

theorem pieces_append (a b : List Char) : pieces (a ++ '/' :: b) = pieces a ++ pieces b := by
  unfold pieces
  rw [splitFrom_append, List.filter_append]

theorem pieces_append_slash (a : List Char) : pieces (a ++ ['/']) = pieces a := by
  rw [pieces_append]
  exact List.append_nil _

theorem splitFrom_of_notMem {last : List Char} (h : '/' ∉ last) (name : List Char) :
    splitFrom name last = [String.ofList (name.reverse ++ last)] := by
  induction last generalizing name with
  | nil => rw [splitFrom, List.append_nil]
  | cons c last ih =>
    rw [List.mem_cons, not_or] at h
    rw [splitFrom, if_neg (Ne.symm h.1), ih h.2]
    simp

theorem pieces_of_notMem {last : List Char} (h : '/' ∉ last) (hne : last ≠ []) :
    pieces last = [String.ofList last] := by
  unfold pieces
  rw [splitFrom_of_notMem h]
  simp [hne]

/-- Slashes and dots at the end of a path name nothing but the same place. -/
theorem exists_pieces_dropTail (cs : List Char) :
    ∃ n, pieces cs.reverse = pieces (dropTail cs).reverse ++ List.replicate n "." := by
  fun_induction dropTail cs with
  | case1 c rest ih =>
    obtain ⟨n, ih⟩ := ih
    refine ⟨n, ?_⟩
    rw [List.reverse_cons, pieces_append_slash, ih]
  | case2 rest ih =>
    obtain ⟨n, ih⟩ := ih
    refine ⟨n + 1, ?_⟩
    have hdot : ('.' :: '/' :: rest).reverse = rest.reverse ++ '/' :: ['.'] := by simp
    rw [List.reverse_cons, pieces_append_slash] at ih
    rw [hdot, pieces_append, ih, List.append_assoc, List.replicate_succ']
    rfl
  | case3 cs => exact ⟨0, (List.append_nil _).symm⟩

theorem dropTail_suffix (cs : List Char) : dropTail cs <:+ cs := by
  fun_induction dropTail cs with
  | case1 c rest ih | case2 rest ih => exact ih.trans (List.suffix_cons ..)
  | case3 cs => exact List.suffix_refl _

/-- The first character of a path stays. -/
theorem getLast?_dropTail (cs : List Char) : (dropTail cs).getLast? = cs.getLast? := by
  fun_induction dropTail cs with
  | case1 c rest ih | case2 rest ih => rw [ih, List.getLast?_cons_cons]
  | case3 cs => rfl

/-- A path cut at its last slash, read backwards. -/
theorem dropWhile_slash (rev : List Char) :
    rev.dropWhile (· != '/') = [] ∨
      ∃ last above, rev = last ++ '/' :: above ∧ '/' ∉ last ∧ rev.dropWhile (· != '/') = '/' :: above := by
  induction rev with
  | nil => exact Or.inl rfl
  | cons c rev ih =>
    by_cases hc : c = '/'
    · subst hc
      exact Or.inr ⟨[], rev, rfl, List.not_mem_nil, rfl⟩
    · have hdrop : (c :: rev).dropWhile (· != '/') = rev.dropWhile (· != '/') := by
        rw [List.dropWhile_cons, if_pos (by simpa using hc)]
      rw [hdrop]
      refine ih.imp_right ?_
      rintro ⟨last, above, rfl, hlast, h⟩
      refine ⟨c :: last, above, rfl, ?_, h⟩
      rw [List.mem_cons, not_or]
      exact ⟨Ne.symm hc, hlast⟩

/-- A path whose last name is no dot has nothing to drop at its end. -/
theorem dropTail_reverse {path : String} (hdot : (names path).getLast? ≠ some ".") :
    dropTail path.toList.reverse = path.toList.reverse ∧ path.toList.getLast? ≠ some '/' := by
  have hslash : path.toList.getLast? ≠ some '/' := by
    intro hlast
    apply hdot
    rw [names_eq, hlast]
    exact List.getLast?_concat
  refine ⟨?_, hslash⟩
  unfold dropTail
  split
  · next c rest hrev =>
    refine absurd ?_ hslash
    rw [List.getLast?_eq_head?_reverse, hrev]
    rfl
  · next rest hrev =>
    refine absurd ?_ hdot
    have hcs : path.toList = rest.reverse ++ '/' :: ['.'] := by
      rw [← List.reverse_reverse path.toList, hrev]
      simp
    rw [names_eq, if_neg (by simpa using hslash), hcs, pieces_append]
    exact List.getLast?_concat
  · rfl

/-- The path of a folder names what the path inside it names, up to the last name and some dots. -/
theorem names_parent? {path folder : String} (hp : parent? path = some folder) (hne : folder ≠ "")
    (hdot : (names path).getLast? ≠ some ".") :
    (∃ n last, names path = pieces folder.toList ++ List.replicate n "." ++ [last]) ∧
      isAbsolute folder = isAbsolute path ∧ ∀ c ∈ folder.toList, c ∈ path.toList := by
  obtain ⟨htail, hslash⟩ := dropTail_reverse hdot
  unfold parent? at hp
  rw [htail] at hp
  have hfolder : folder = String.ofList (dropTail (path.toList.reverse.dropWhile (· != '/'))).reverse := by
    split at hp
    · cases hp
    · cases hp
    · exact (Option.some.inj hp).symm
  rcases dropWhile_slash path.toList.reverse with hnone | ⟨last, above, hrev, hlast, hdrop⟩
  · rw [hnone] at hfolder
    exact absurd hfolder hne
  rw [hdrop] at hfolder
  have hcs : path.toList = above.reverse ++ '/' :: last.reverse := by
    rw [← List.reverse_reverse path.toList, hrev]
    simp
  have hlast' : last.reverse ≠ [] := by
    intro hnil
    rw [hcs, hnil] at hslash
    exact hslash List.getLast?_concat
  have hchars : folder.toList = (dropTail ('/' :: above)).reverse := by
    rw [hfolder, String.toList_ofList]
  refine ⟨?_, ?_, ?_⟩
  · obtain ⟨n, hn⟩ := exists_pieces_dropTail ('/' :: above)
    rw [List.reverse_cons, pieces_append_slash] at hn
    refine ⟨n, String.ofList last.reverse, ?_⟩
    rw [names_eq, if_neg (by simpa using hslash), hcs, pieces_append, hn, hchars,
      pieces_of_notMem (by simpa using hlast) hlast']
  · unfold isAbsolute
    rw [hchars, List.head?_reverse, getLast?_dropTail, hcs, ← List.head?_reverse, List.reverse_cons]
    cases above.reverse with
    | nil => rfl
    | cons c cs => rfl
  · intro c hc
    rw [hchars, List.mem_reverse] at hc
    have hmem := (dropTail_suffix ('/' :: above)).subset hc
    rw [← List.mem_reverse, hrev]
    exact List.mem_append_right last hmem

end Path

/-! ## Following and making folders -/

namespace FileTree

section
variable {t : FileTree} {here there place : Location} {name : String} {rest xs ys : List String}

/-- A name is followed from a folder, up, down, or nowhere. -/
theorem exists_next_of_follow (h : t.follow here (name :: rest) = .ok place) :
    t.entryAt? here = some .folder ∧ ∃ next, (∀ names, t.follow here (name :: names) = t.follow next names) ∧
      (name = "." ∧ next = here ∨ name = ".." ∧ next = here.dropLast ∨
        name ≠ "." ∧ name ≠ ".." ∧ ¬maxNameBytes < name.utf8ByteSize ∧ next = here ++ [name]) := by
  rw [follow] at h
  split at h
  · cases h
  · cases h
  · next hfolder =>
    refine ⟨hfolder, ?_⟩
    have hfollow : ∀ names, t.follow here (name :: names) =
        if name = "." then t.follow here names
        else if name = ".." then t.follow here.dropLast names
        else if maxNameBytes < name.utf8ByteSize then .error .nameTooLong
        else t.follow (here ++ [name]) names := by
      intro names
      rw [follow, hfolder]
    split at h
    · next hdot => exact ⟨here, fun names => by rw [hfollow, if_pos hdot], Or.inl ⟨hdot, rfl⟩⟩
    · next hdot =>
      split at h
      · next hup =>
        exact ⟨here.dropLast, fun names => by rw [hfollow, if_neg hdot, if_pos hup],
          Or.inr (Or.inl ⟨hup, rfl⟩)⟩
      · next hup =>
        split at h
        · cases h
        · next hlong =>
          exact ⟨here ++ [name], fun names => by rw [hfollow, if_neg hdot, if_neg hup, if_neg hlong],
            Or.inr (Or.inr ⟨hdot, hup, hlong, rfl⟩)⟩

/-- Names that lead to a place lead to what stands between first. -/
theorem exists_follow_of_append (h : t.follow here (xs ++ ys) = .ok place) :
    ∃ there, t.follow here xs = .ok there ∧ t.follow there ys = .ok place := by
  induction xs generalizing here with
  | nil => exact ⟨here, rfl, h⟩
  | cons name xs ih =>
    obtain ⟨-, next, hnext, -⟩ := exists_next_of_follow h
    rw [List.cons_append, hnext] at h
    rw [hnext]
    exact ih h

theorem follow_append (h : t.follow here xs = .ok there) (ys : List String) :
    t.follow here (xs ++ ys) = t.follow there ys := by
  induction xs generalizing here with
  | nil =>
    obtain rfl : here = there := Except.ok.inj h
    rfl
  | cons name xs ih =>
    obtain ⟨-, next, hnext, -⟩ := exists_next_of_follow h
    rw [hnext] at h
    rw [List.cons_append, hnext]
    exact ih h

/-- A place from which more names are followed is a folder. -/
theorem folder_of_follow (hne : xs ≠ []) (h : t.follow here xs = .ok place) :
    t.entryAt? here = some .folder := by
  cases xs with
  | nil => exact absurd rfl hne
  | cons name xs => exact (exists_next_of_follow h).1

theorem follow_dot (h : t.follow here ["."] = .ok place) :
    place = here ∧ t.entryAt? here = some .folder := by
  have hfolder := folder_of_follow (List.cons_ne_nil _ _) h
  rw [follow, hfolder] at h
  exact ⟨(Except.ok.inj h).symm, hfolder⟩

/-- Dots at the end lead from a folder to itself. -/
theorem follow_dots {n : Nat} (h : t.follow here (List.replicate n ".") = .ok there) :
    there = here := by
  induction n with
  | zero => exact (Except.ok.inj h).symm
  | succ n ih =>
    rw [List.replicate_succ'] at h
    obtain ⟨mid, hmid, hdot⟩ := exists_follow_of_append h
    obtain ⟨rfl, -⟩ := follow_dot hdot
    exact ih hmid

/-- Folders that names lead through need not be made. -/
theorem makeFoldersFrom_of_follow (h : t.follow here xs = .ok there)
    (hfolder : t.entryAt? there = some .folder) : t.makeFoldersFrom here xs = (t, none) := by
  induction xs generalizing here with
  | nil => rfl
  | cons name xs ih =>
    obtain ⟨-, next, hnext, hstep⟩ := exists_next_of_follow h
    rw [hnext] at h
    have hfolder' : t.entryAt? next = some .folder := by
      cases xs with
      | nil =>
        obtain rfl : next = there := Except.ok.inj h
        exact hfolder
      | cons name' xs => exact folder_of_follow (List.cons_ne_nil _ _) h
    rw [makeFoldersFrom]
    rcases hstep with ⟨hdot, rfl⟩ | ⟨hup, rfl⟩ | ⟨hdot, hup, hlong, rfl⟩
    · rw [if_pos hdot]
      exact ih h
    · rw [if_neg (by rw [hup]; decide), if_pos hup]
      exact ih h
    · rw [if_neg hdot, if_neg hup, if_neg hlong]
      dsimp only
      rw [hfolder']
      exact ih h

end

/-! ## The folder of a file -/

theorem lookup_of_readBytes {t : FileTree} {path : String} {bytes : List UInt8}
    (h : t.readBytes path = .ok bytes) :
    ∃ place, t.locate path = .ok place ∧ t.entryAt? place = some (.file bytes) := by
  unfold readBytes at h
  split at h
  · cases h
  · cases h
  · next bytes' hlookup =>
    cases h
    unfold lookup at hlookup
    split at hlookup
    · cases hlookup
    · next place hplace =>
      split at hlookup
      · next e he =>
        cases hlookup
        exact ⟨place, hplace, he⟩
      · cases hlookup

theorem exists_of_readBytes {t : FileTree} {path : String} {bytes : List UInt8}
    (h : t.readBytes path = .ok bytes) : t.exists? path = true := by
  obtain ⟨place, hplace, hentry⟩ := lookup_of_readBytes h
  unfold exists? lookup
  rw [hplace]
  dsimp only
  rw [hentry]

/-- A path that leads to a place does not hold the character that ends paths. -/
theorem follow_of_locate {t : FileTree} {path : String} {place : Location}
    (h : t.locate path = .ok place) :
    path.toList.contains '\x00' = false ∧
      t.follow (t.startOf path) (Path.names path) = .ok place := by
  unfold locate at h
  split at h
  · cases h
  · split at h
    · cases h
    · next hnul => exact ⟨by simpa using hnul, h⟩

/-- **The folder of a file is there.** -/
theorem makeFolders_parent {t : FileTree} {path folder : String} {bytes : List UInt8}
    (h : t.readBytes path = .ok bytes) (hp : Path.parent? path = some folder) (hne : folder ≠ "") :
    t.makeFolders folder = (t, none) := by
  obtain ⟨place, hplace, hentry⟩ := lookup_of_readBytes h
  obtain ⟨hnul, hfollow⟩ := follow_of_locate hplace
  have hdot : (Path.names path).getLast? ≠ some "." := by
    intro hlast
    obtain ⟨front, hfront⟩ := List.getLast?_eq_some_iff.1 hlast
    rw [hfront] at hfollow
    obtain ⟨there, -, hthere⟩ := exists_follow_of_append hfollow
    obtain ⟨rfl, hfolder⟩ := follow_dot hthere
    rw [hentry] at hfolder
    cases hfolder
  obtain ⟨⟨n, last, hnames⟩, habs, hsub⟩ := Path.names_parent? hp hne hdot
  rw [hnames] at hfollow
  obtain ⟨there, hthere, hlast⟩ := exists_follow_of_append hfollow
  have hfolder := folder_of_follow (List.cons_ne_nil _ _) hlast
  obtain ⟨there', hpieces, hdots⟩ := exists_follow_of_append hthere
  obtain rfl := follow_dots hdots
  have hstart : t.startOf folder = t.startOf path := by
    unfold startOf
    rw [habs]
  have hfree : folder.toList.contains '\x00' = false := by
    rw [List.contains_eq_mem, decide_eq_false_iff_not] at hnul ⊢
    exact fun hmem => hnul (hsub _ hmem)
  have hall : t.follow (t.startOf folder) (Path.names folder) = .ok there := by
    rw [hstart, Path.names_eq]
    split
    · rw [follow_append hpieces, follow, hfolder]
      rfl
    · exact hpieces
  unfold makeFolders
  rw [hfree]
  exact makeFoldersFrom_of_follow hall hfolder

/-- A file that can be read can be written. -/
theorem write_of_readBytes {t : FileTree} {path : String} {bytes : List UInt8}
    (h : t.readBytes path = .ok bytes) (bytes' : List UInt8) :
    ∃ t', t.write path bytes' = .ok t' := by
  obtain ⟨place, hplace, hentry⟩ := lookup_of_readBytes h
  unfold write
  rw [hplace]
  dsimp only
  rw [hentry]
  exact ⟨_, rfl⟩

end FileTree
end CommandShell
