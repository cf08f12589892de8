import CommandShell.Path
import CommandShell.Text.Lines

/-!
# A tree of files

Files and folders by the names that lead to them from the root. Every operation takes a path, which
is followed from the root or from the working folder, and tells why it fails.

    (t.write p bs).readBytes p = bs
-/

namespace CommandShell

/-! ## Algorithm -/

inductive FileEntry where
  | folder
  | file (bytes : List UInt8)
deriving DecidableEq

/-- Why a path cannot be used. -/
inductive FileProblem where
  | missing
  /-- A file stands where a folder is needed. -/
  | notFolder
  | isFolder
  /-- The bytes of a file are no text. -/
  | notText
  | nameTooLong
  /-- A path holds the character that ends paths. -/
  | nulInPath
deriving DecidableEq

def FileProblem.message : FileProblem → String
  | missing => "No such file or directory (os error 2)"
  | notFolder => "Not a directory (os error 20)"
  | isFolder => "Is a directory (os error 21)"
  | notText => "stream did not contain valid UTF-8"
  | nameTooLong => "File name too long (os error 36)"
  | nulInPath => "file name contained an unexpected NUL byte"

/-- Results are equal if both failed, or both did not, with equal values. -/
instance decidableEqExcept {ε α : Type} [DecidableEq ε] [DecidableEq α] : DecidableEq (Except ε α)
  | .error a, .error b => decidable_of_iff (a = b) (by rw [Except.error.injEq])
  | .ok a, .ok b => decidable_of_iff (a = b) (by rw [Except.ok.injEq])
  | .error _, .ok _ => isFalse nofun
  | .ok _, .error _ => isFalse nofun

/-- The most bytes that one name has. -/
def maxNameBytes : Nat := 255

/-- The names that lead from the root to an entry. -/
abbrev Location := List String

structure FileTree where
  /-- The entries, the latest first; the root is always there. -/
  entries : List (Location × FileEntry) := []
  /-- The folder that relative paths start from. -/
  workingFolder : Location := []

namespace FileTree

/-- What stands at a location. -/
def entryAt? (t : FileTree) (place : Location) : Option FileEntry :=
  if place.isEmpty then some .folder else (t.entries.find? fun e => e.1 = place).map (·.2)

/-- Puts an entry at a location. -/
def put (t : FileTree) (place : Location) (e : FileEntry) : FileTree :=
  { t with entries := (place, e) :: t.entries }

/-- Follows names from a location. All but the last have to lead to folders. -/
def follow (t : FileTree) (here : Location) : List String → Except FileProblem Location
  | [] => .ok here
  | name :: rest =>
    match t.entryAt? here with
    | none => .error .missing
    | some (.file _) => .error .notFolder
    | some .folder =>
      if name = "." then t.follow here rest
      else if name = ".." then t.follow here.dropLast rest
      else if maxNameBytes < name.utf8ByteSize then .error .nameTooLong
      else t.follow (here ++ [name]) rest

/-- Where a path starts. -/
def startOf (t : FileTree) (path : String) : Location :=
  if Path.isAbsolute path then [] else t.workingFolder

/-- The location that a path names. -/
def locate (t : FileTree) (path : String) : Except FileProblem Location :=
  if path.isEmpty then .error .missing
  else if path.toList.contains '\x00' then .error .nulInPath
  else t.follow (t.startOf path) (Path.names path)

/-- The entry that a path names. -/
def lookup (t : FileTree) (path : String) : Except FileProblem FileEntry :=
  match t.locate path with
  | .error p => .error p
  | .ok place =>
    match t.entryAt? place with
    | some e => .ok e
    | none => .error .missing

def exists? (t : FileTree) (path : String) : Bool :=
  match t.lookup path with
  | .ok _ => true
  | .error _ => false

def readBytes (t : FileTree) (path : String) : Except FileProblem (List UInt8) :=
  match t.lookup path with
  | .error p => .error p
  | .ok .folder => .error .isFolder
  | .ok (.file bytes) => .ok bytes

/-- The text of a file. -/
def readText (t : FileTree) (path : String) : Except FileProblem String :=
  match t.readBytes path with
  | .error p => .error p
  | .ok bytes =>
    match Text.decodeBytes bytes with
    | some s => .ok s
    | none => .error .notText

/-- Sets the content of a file, which need not exist yet; its folder has to. -/
def write (t : FileTree) (path : String) (bytes : List UInt8) : Except FileProblem FileTree :=
  match t.locate path with
  | .error p => .error p
  | .ok place =>
    match t.entryAt? place with
    | some .folder => .error .isFolder
    | _ => .ok (t.put place (.file bytes))

/-- Follows names and makes the folders that are missing. Folders that were made stay, also if a
later name fails. -/
def makeFoldersFrom (t : FileTree) (here : Location) : List String → FileTree × Option FileProblem
  | [] => (t, none)
  | name :: rest =>
    if name = "." then t.makeFoldersFrom here rest
    else if name = ".." then t.makeFoldersFrom here.dropLast rest
    else if maxNameBytes < name.utf8ByteSize then (t, some .nameTooLong)
    else
      let place := here ++ [name]
      match t.entryAt? place with
      | some .folder => t.makeFoldersFrom place rest
      | some (.file _) => (t, some .notFolder)
      | none => (t.put place .folder).makeFoldersFrom place rest

/-- Makes a folder and all folders that it stands in, where they are missing. -/
def makeFolders (t : FileTree) (path : String) : FileTree × Option FileProblem :=
  if path.toList.contains '\x00' then (t, some .nulInPath)
  else t.makeFoldersFrom (t.startOf path) (Path.names path)

/-! ## Lemmas -/

@[simp] theorem entryAt?_put_self (t : FileTree) (place : Location) (bytes : List UInt8) :
    place ≠ [] → (t.put place (.file bytes)).entryAt? place = some (.file bytes) := by
  intro h
  simp [entryAt?, put, h]

theorem entryAt?_put_of_ne (t : FileTree) {place other : Location} (e : FileEntry) (h : place ≠ other) :
    (t.put place e).entryAt? other = t.entryAt? other := by
  simp [entryAt?, put, h]

theorem startOf_put (t : FileTree) (place : Location) (e : FileEntry) (path : String) :
    (t.put place e).startOf path = t.startOf path := rfl

/-- An entry that is put where no folder was leaves every path that led somewhere as it was. -/
theorem follow_put {t : FileTree} {place : Location} {e : FileEntry} (h : t.entryAt? place ≠ some .folder)
    {here there : Location} {names : List String} (hf : t.follow here names = .ok there) :
    (t.put place e).follow here names = .ok there := by
  induction names generalizing here with
  | nil => exact hf
  | cons name rest ih =>
    rw [follow] at hf ⊢
    split at hf
    · cases hf
    · cases hf
    · next hh =>
      have hne : place ≠ here := fun e => h (e ▸ hh)
      rw [entryAt?_put_of_ne t e hne, hh]
      dsimp only
      split <;> rename_i hn
      · rw [if_pos hn] at hf
        exact ih hf
      · rw [if_neg hn] at hf
        split <;> rename_i hn'
        · rw [if_pos hn'] at hf
          exact ih hf
        · rw [if_neg hn'] at hf
          split <;> rename_i hl
          · rw [if_pos hl] at hf
            cases hf
          · rw [if_neg hl] at hf
            exact ih hf

/-- What was written is read back. -/
theorem readBytes_write {t t' : FileTree} {path : String} {bytes : List UInt8}
    (h : t.write path bytes = .ok t') : t'.readBytes path = .ok bytes := by
  unfold write at h
  split at h
  · cases h
  · next place hl =>
    split at h
    · cases h
    · next hp =>
      cases h
      have hfolder : t.entryAt? place ≠ some .folder := hp
      have hne : place ≠ [] := by
        rintro rfl
        exact hfolder (by simp [entryAt?])
      unfold locate at hl
      split at hl
      · cases hl
      · split at hl
        · cases hl
        · next he hc =>
          have hf := follow_put (e := .file bytes) hfolder hl
          rw [← startOf_put t place (.file bytes) path] at hf
          rw [readBytes, lookup, locate, if_neg he, if_neg hc, hf]
          simp [entryAt?_put_self t place bytes hne]

end FileTree
end CommandShell
