import CommandShell.SettingsFiles

/-!
# Which file decides a setting

Files are merged in the order of their precedence, each setting by itself: the last file that sets it
decides. A location that comes up twice is merged at its first place. So a file counts with less than
its precedence if a lower location has the same path, also the file that the command line names.

    l.settings.get f = the last of the searched paths that sets f
-/

namespace CommandShell

/-! ## Settings one by one -/

/-- One of the settings, with the type of its values. -/
inductive Setting : Type → Type where
  | prompt : Setting String
  | push : Setting String
  | pop : Setting String
  | clear : Setting String
  | historyEnabled : Setting Bool
  | historyPath : Setting String
  | historyMaxEntries : Setting Nat
  | cancelDelay : Setting Nat
  | cancelInterval : Setting Nat
  | maxSuggestions : Setting Nat

namespace Settings

def get {α : Type} (s : Settings) : Setting α → Option α
  | .prompt => s.prompt
  | .push => s.stack.push
  | .pop => s.stack.pop
  | .clear => s.stack.clear
  | .historyEnabled => s.history.enabled
  | .historyPath => s.history.path
  | .historyMaxEntries => s.history.maxEntries
  | .cancelDelay => s.cancel.delay
  | .cancelInterval => s.cancel.interval
  | .maxSuggestions => s.suggestions.max

variable {α : Type}

/-- A setting is overridden only where the later settings set it. -/
theorem get_mergedWith (s later : Settings) (f : Setting α) :
    (s.mergedWith later).get f = (later.get f).or (s.get f) := by
  cases f <;> rfl

theorem get_default (f : Setting α) : ({} : Settings).get f = none := by
  cases f <;> rfl

end Settings

namespace FileTree

section
variable {α : Type}

/-- What the file at a path sets a setting to; nothing without a file. -/
def setting? (t : FileTree) (read : SettingsReader) (f : Setting α) (path : String) : Option α :=
  if t.exists? path then
    match t.readSettings read path with
    | .ok s => s.get f
    | .error _ => none
  else none

/-- What the last file to set a setting sets it to. -/
def lastSet? (t : FileTree) (read : SettingsReader) (f : Setting α) : List String → Option α
  | [] => none
  | path :: rest => (t.lastSet? read f rest).or (t.setting? read f path)

variable {t : FileTree} {read : SettingsReader} {f : Setting α}

theorem lastSet?_append (ps qs : List String) :
    t.lastSet? read f (ps ++ qs) = (t.lastSet? read f qs).or (t.lastSet? read f ps) := by
  induction ps with
  | nil =>
    rw [List.nil_append, lastSet?, Option.or_none]
  | cons path ps ih =>
    rw [List.cons_append, lastSet?, lastSet?, ih, Option.or_assoc]

theorem lastSet?_eq_none_iff {ps : List String} :
    t.lastSet? read f ps = none ↔ ∀ path ∈ ps, t.setting? read f path = none := by
  induction ps with
  | nil => exact iff_of_true rfl fun path h => absurd h List.not_mem_nil
  | cons path ps ih => rw [lastSet?, Option.or_eq_none_iff, ih, List.forall_mem_cons, and_comm]

/-! ## Merging files -/

/-- The first path of several is passed over without a file, and merged first with one. -/
theorem collectSettings_cons_eq_ok {path : String} {rest : List String} {files : List (String × Settings)} :
    t.collectSettings read (path :: rest) = .ok files ↔
      (t.exists? path = false ∧ t.collectSettings read rest = .ok files) ∨
      (t.exists? path = true ∧ ∃ s later, t.readSettings read path = .ok s ∧
        t.collectSettings read rest = .ok later ∧ files = (path, s) :: later) := by
  rw [collectSettings]
  by_cases hfile : t.exists? path = true
  · rw [if_pos hfile]
    cases hread : t.readSettings read path with
    | error e => simp [hfile]
    | ok s =>
      cases hrest : t.collectSettings read rest with
      | error e => simp [hfile, Except.map]
      | ok later =>
        simp only [Except.map, Except.ok.injEq, hfile, Bool.true_eq_false, false_and, false_or, true_and]
        constructor
        · rintro rfl
          exact ⟨s, later, rfl, rfl, rfl⟩
        · rintro ⟨s', later', rfl, rfl, rfl⟩
          rfl
  · rw [if_neg hfile]
    simp [hfile]

/-- Files that can all be read are merged. -/
theorem exists_collectSettings {ps : List String}
    (h : ∀ path ∈ ps, t.exists? path = true → (t.readSettings read path).isOk = true) :
    ∃ files, t.collectSettings read ps = .ok files := by
  induction ps with
  | nil => exact ⟨[], rfl⟩
  | cons path ps ih =>
    rw [List.forall_mem_cons] at h
    obtain ⟨later, hlater⟩ := ih h.2
    by_cases hfile : t.exists? path = true
    · have hok := h.1 hfile
      cases hread : t.readSettings read path with
      | error e =>
        rw [hread] at hok
        cases hok
      | ok s => exact ⟨_, collectSettings_cons_eq_ok.2 (Or.inr ⟨hfile, s, later, hread, hlater, rfl⟩)⟩
    · exact ⟨later, collectSettings_cons_eq_ok.2 (Or.inl ⟨by simpa using hfile, hlater⟩)⟩

/-- Each setting of merged files has the value that the last file sets it to. -/
theorem get_foldl_collectSettings {ps : List String} {files : List (String × Settings)}
    (h : t.collectSettings read ps = .ok files) (a : Settings) :
    ((files.map (·.2)).foldl Settings.mergedWith a).get f = (t.lastSet? read f ps).or (a.get f) := by
  induction ps generalizing files a with
  | nil =>
    obtain rfl : [] = files := Except.ok.inj h
    rfl
  | cons path ps ih =>
    rw [lastSet?, setting?]
    rcases collectSettings_cons_eq_ok.1 h with ⟨hnone, hrest⟩ | ⟨hfile, s, later, hread, hrest, rfl⟩
    · rw [ih hrest, if_neg (by simp [hnone]), Option.or_none]
    · rw [List.map_cons, List.foldl_cons, ih hrest, if_pos hfile, hread, Settings.get_mergedWith,
        Option.or_assoc]

end

end FileTree

/-! ## Places that come up again -/

namespace Path

theorem distinct_append (ps qs : List String) :
    distinct (ps ++ qs) = distinct ps ++ (distinct qs).filter fun q => ps.all fun p => parts q != parts p := by
  induction ps with
  | nil => exact (List.filter_eq_self.2 fun _ _ => rfl).symm
  | cons p ps ih =>
    rw [List.cons_append, distinct, distinct, ih, List.filter_append, List.filter_filter, List.cons_append]
    rfl

theorem distinct_eq_self {ps : List String} (h : ps.Pairwise fun p q => parts p ≠ parts q) :
    distinct ps = ps := by
  induction ps with
  | nil => rfl
  | cons p ps ih =>
    rw [List.pairwise_cons] at h
    rw [distinct, ih h.2, List.filter_eq_self.2]
    intro q hq
    simpa using (h.1 q hq).symm

theorem pairwise_distinct (ps : List String) : (distinct ps).Pairwise fun p q => parts p ≠ parts q := by
  induction ps with
  | nil => exact List.Pairwise.nil
  | cons p ps ih =>
    rw [distinct, List.pairwise_cons]
    refine ⟨fun q hq => ?_, ih.filter _⟩
    have hne := (List.mem_filter.1 hq).2
    exact Ne.symm (by simpa using hne)

/-- Paths that were made distinct before give nothing new. -/
theorem distinct_distinct_append (ps qs : List String) : distinct (distinct ps ++ qs) = distinct (ps ++ qs) := by
  rw [distinct_append, distinct_append, distinct_eq_self (pairwise_distinct ps)]
  congr 2
  funext q
  rw [Bool.eq_iff_iff, List.all_eq_true, List.all_eq_true]
  constructor
  · intro h p hp
    obtain ⟨p', hp', hparts⟩ := exists_mem_distinct hp
    rw [← hparts]
    exact h p' hp'
  · exact fun h p hp => h p (mem_of_mem_distinct hp)

end Path

/-! ## Loaded settings -/

namespace SettingsSources

/-- Where settings are looked for, in the order of their precedence. -/
def locations (s : SettingsSources) : List String :=
  s.standardLocations ++ s.explicit.toList

theorem searchPaths_eq (s : SettingsSources) : s.searchPaths = Path.distinct s.locations :=
  Path.distinct_distinct_append s.standardLocations s.explicit.toList

section
variable {s : SettingsSources} {t : FileTree} {read : SettingsReader}

theorem load_eq_ok (hexplicit : ∀ path ∈ s.explicit, t.exists? path = true) {files : List (String × Settings)}
    (h : t.collectSettings read s.searchPaths = .ok files) : s.load read t = .ok ⟨s.searchPaths, files⟩ := by
  have hnone : (s.explicit.filter fun path => !t.exists? path) = none := by
    rw [Option.filter_eq_none_iff]
    intro path hpath
    simp [hexplicit path hpath]
  unfold load
  rw [hnone]
  dsimp only
  rw [FileTree.mergePaths, h]
  rfl

end

/-- **The searched paths decide by their first places.** All settings are loaded, and each has the value
of the last searched path that sets it, whatever reader tells what the files say. So with places that are
all different the highest location that sets a setting decides. Otherwise that location decides unless a
lower one has the same path; then its file counts at that lower place, if it is found there at all. -/
theorem setting_by_first_places (s : SettingsSources) (read : SettingsReader) (t : FileTree)
    (hexplicit : ∀ path ∈ s.explicit, t.exists? path = true)
    (hread : ∀ path ∈ s.locations, t.exists? path = true → (t.readSettings read path).isOk = true) :
    ∃ l, s.load read t = .ok l ∧ ∀ {α : Type} (f : Setting α),
      l.settings.get f = t.lastSet? read f s.searchPaths ∧
      ((∀ path ∈ s.locations, t.setting? read f path = none) → l.settings.get f = none) ∧
      (s.locations.Pairwise (fun p q => Path.parts p ≠ Path.parts q) →
        l.settings.get f = t.lastSet? read f s.locations) ∧
      ∀ lower path higher v, s.locations = lower ++ path :: higher → t.setting? read f path = some v →
        (∀ q ∈ higher, t.setting? read f q = none) →
        (l.settings.get f = some v ↔
          (∀ q ∈ lower, Path.parts q ≠ Path.parts path) ∨ t.lastSet? read f (Path.distinct lower) = some v) := by
  have hsub : ∀ path ∈ s.searchPaths, path ∈ s.locations := by
    intro path hpath
    rw [searchPaths_eq] at hpath
    exact Path.mem_of_mem_distinct hpath
  obtain ⟨files, hfiles⟩ := FileTree.exists_collectSettings fun path hpath => hread path (hsub path hpath)
  refine ⟨⟨s.searchPaths, files⟩, load_eq_ok hexplicit hfiles, fun {α} f => ?_⟩
  have hget : (LoadedSettings.settings ⟨s.searchPaths, files⟩).get f = t.lastSet? read f s.searchPaths := by
    unfold LoadedSettings.settings
    rw [FileTree.get_foldl_collectSettings hfiles, Settings.get_default, Option.or_none]
  rw [hget]
  refine ⟨rfl, ?_, ?_, ?_⟩
  · intro hnone
    exact FileTree.lastSet?_eq_none_iff.2 fun path hpath => hnone path (hsub path hpath)
  · intro hdistinct
    rw [searchPaths_eq, Path.distinct_eq_self hdistinct]
  · intro lower path higher v hlocations hpath hhigher
    -- no searched path behind `path` sets `f`
    have hbehind : ∀ keep : String → Bool, t.lastSet? read f (((Path.distinct higher).filter fun q =>
        Path.parts q != Path.parts path).filter keep) = none := by
      intro keep
      rw [FileTree.lastSet?_eq_none_iff]
      intro q hq
      have hmem := (List.mem_filter.1 (List.mem_filter.1 hq).1).1
      exact hhigher q (Path.mem_of_mem_distinct hmem)
    rw [searchPaths_eq, hlocations, Path.distinct_append, FileTree.lastSet?_append, Path.distinct]
    by_cases hfree : ∀ q ∈ lower, Path.parts q ≠ Path.parts path
    · have hkeep : (lower.all fun q => Path.parts path != Path.parts q) = true := by
        rw [List.all_eq_true]
        intro q hq
        simpa using (hfree q hq).symm
      rw [List.filter_cons_of_pos (by exact hkeep), FileTree.lastSet?, hbehind, hpath]
      exact iff_of_true rfl (Or.inl hfree)
    · have hdrop : ¬ (lower.all fun q => Path.parts path != Path.parts q) = true := by
        rw [List.all_eq_true]
        intro hall
        exact hfree fun q hq => Ne.symm (by simpa using hall q hq)
      rw [List.filter_cons_of_neg (by exact hdrop), hbehind, Option.none_or]
      exact (or_iff_right hfree).symm

/-- Three files set the prompt or the history; the system's and the user's are missing. -/
theorem setting_by_first_places_three :
    let s : SettingsSources :=
      { userFolder := some "/home/u", environment := some "e.json", explicit := some "c.json" }
    let object (members : String) := "\x7b" ++ members ++ "\x7d"
    let file (members : String) : FileEntry := .file (Text.encodeText (object members))
    let t : FileTree := { entries := [
      ([".cmdshell"], .folder),
      ([".cmdshell", "config.json"],
        file ("\"prompt\": \"p> \", \"history\": " ++ object "\"enabled\": false, \"max_entries\": 7")),
      (["e.json"], file ("\"prompt\": \"e> \", \"history\": " ++ object "\"path\": \"h\"")),
      (["c.json"], file ("\"history\": " ++ object "\"max_entries\": 9"))] }
    (∀ path ∈ s.explicit, t.exists? path = true) ∧
      (∀ path ∈ s.locations, t.exists? path = true → (t.readSettings Settings.ofText? path).isOk = true) ∧
      ∃ l, s.load Settings.ofText? t = .ok l ∧ l.settings.get .prompt = some "e> " ∧
        l.settings.get .historyEnabled = some false ∧ l.settings.get .historyPath = some "h" ∧
        l.settings.get .historyMaxEntries = some 9 ∧ l.settings.get .maxSuggestions = none := by
  intro s object file t
  have hexplicit : ∀ path ∈ s.explicit, t.exists? path = true := by decide +kernel
  have hread : ∀ path ∈ s.locations, t.exists? path = true →
      (t.readSettings Settings.ofText? path).isOk = true := by
    decide +kernel
  obtain ⟨l, hl, hget⟩ := setting_by_first_places s Settings.ofText? t hexplicit hread
  refine ⟨hexplicit, hread, l, hl, ?_⟩
  rw [(hget .prompt).1, (hget .historyEnabled).1, (hget .historyPath).1, (hget .historyMaxEntries).1,
    (hget .maxSuggestions).1]
  decide +kernel

/-- The command line names the file of the working folder, and the one that the environment names wins. -/
theorem explicit_file_overridden :
    let s : SettingsSources := { environment := some "env.json", explicit := some ".cmdshell/config.json" }
    let prompt (text : String) : FileEntry :=
      .file (Text.encodeText ("\x7b\"prompt\":\"" ++ text ++ "\"\x7d"))
    let t : FileTree := { entries := [
      ([".cmdshell"], .folder),
      ([".cmdshell", "config.json"], prompt "project> "),
      (["env.json"], prompt "env> ")] }
    (∀ path ∈ s.explicit, t.exists? path = true) ∧
      (∀ path ∈ s.locations, t.exists? path = true → (t.readSettings Settings.ofText? path).isOk = true) ∧
      s.locations.getLast? = s.explicit ∧
      t.setting? Settings.ofText? .prompt ".cmdshell/config.json" = some "project> " ∧
      t.lastSet? Settings.ofText? .prompt s.locations = some "project> " ∧
      (s.load Settings.ofText? t).map (·.settings.get .prompt) = .ok (some "env> ") := by
  decide +kernel

end SettingsSources
end CommandShell
