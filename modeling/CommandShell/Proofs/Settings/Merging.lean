import CommandShell.Proofs.Settings.Precedence

/-!
# Merging settings files

The files among a list of paths are merged in its order. Each of the settings has the value that the last
file to set it gives, whatever the other files and the other settings say; so it makes no difference if
some paths that stand side by side are merged first.

    (t.mergePaths read ps).get f = the last of ps that sets f
    t.mergePaths read (ps ++ qs) = t.mergePaths read ps, then t.mergePaths read qs over it
-/

namespace CommandShell

/-! ## Settings over settings -/

namespace Settings

/-- Settings are known by each of them. -/
theorem ext_get {a b : Settings} (h : ∀ {α : Type} (f : Setting α), a.get f = b.get f) : a = b := by
  obtain ⟨prompt, ⟨push, pop, clear⟩, ⟨enabled, path, maxEntries⟩, ⟨delay, interval⟩, ⟨max⟩⟩ := a
  obtain ⟨prompt', ⟨push', pop', clear'⟩, ⟨enabled', path', maxEntries'⟩, ⟨delay', interval'⟩,
    ⟨max'⟩⟩ := b
  obtain rfl : prompt = prompt' := h .prompt
  obtain rfl : push = push' := h .push
  obtain rfl : pop = pop' := h .pop
  obtain rfl : clear = clear' := h .clear
  obtain rfl : enabled = enabled' := h .historyEnabled
  obtain rfl : path = path' := h .historyPath
  obtain rfl : maxEntries = maxEntries' := h .historyMaxEntries
  obtain rfl : delay = delay' := h .cancelDelay
  obtain rfl : interval = interval' := h .cancelInterval
  obtain rfl : max = max' := h .maxSuggestions
  rfl

theorem default_mergedWith (s : Settings) : ({} : Settings).mergedWith s = s :=
  ext_get fun f => by rw [get_mergedWith, get_default, Option.or_none]

/-- Several settings over some are first merged with each other, and then put over these. -/
theorem foldl_mergedWith (s : Settings) (ss : List Settings) :
    ss.foldl mergedWith s = s.mergedWith (ss.foldl mergedWith {}) := by
  induction ss generalizing s with
  | nil => exact (mergedWith_default s).symm
  | cons a ss ih =>
    rw [List.foldl_cons, List.foldl_cons, ih, ih (({} : Settings).mergedWith a), default_mergedWith,
      mergedWith_assoc]

end Settings

namespace FileTree

variable {t : FileTree} {read : SettingsReader}

/-! ## The last file that sets a setting -/

theorem lastSet?_eq_some_iff {α : Type} {f : Setting α} {ps : List String} {v : α} :
    t.lastSet? read f ps = some v ↔ ∃ lower path higher, ps = lower ++ path :: higher ∧
      t.setting? read f path = some v ∧ ∀ q ∈ higher, t.setting? read f q = none := by
  constructor
  · intro h
    induction ps with
    | nil => cases h
    | cons path ps ih =>
      rw [lastSet?, Option.or_eq_some_iff] at h
      rcases h with h | ⟨hnone, hpath⟩
      · obtain ⟨lower, q, higher, rfl, hq, hhigher⟩ := ih h
        exact ⟨path :: lower, q, higher, rfl, hq, hhigher⟩
      · exact ⟨[], path, ps, rfl, hpath, lastSet?_eq_none_iff.1 hnone⟩
  · rintro ⟨lower, path, higher, rfl, hpath, hhigher⟩
    rw [lastSet?_append, lastSet?, lastSet?_eq_none_iff.2 hhigher, hpath]
    rfl

/-! ## Files in the order of their paths -/

theorem readSettings_isOk_iff {path : String} :
    (t.readSettings read path).isOk = true ↔
      ∃ text s, t.readText path = .ok text ∧ read text = some s := by
  unfold readSettings
  cases t.readText path with
  | error p => simp [Except.isOk, Except.toBool]
  | ok text =>
    cases hs : read text <;> simp [hs, Except.isOk, Except.toBool]

/-- Files are collected exactly if each of them can be read. -/
theorem exists_collectSettings_iff {ps : List String} :
    (∃ files, t.collectSettings read ps = .ok files) ↔
      ∀ path ∈ ps, t.exists? path = true → (t.readSettings read path).isOk = true := by
  refine ⟨?_, exists_collectSettings⟩
  rintro ⟨files, h⟩
  induction ps generalizing files with
  | nil => exact fun path hpath => absurd hpath List.not_mem_nil
  | cons path ps ih =>
    rw [List.forall_mem_cons]
    rcases collectSettings_cons_eq_ok.1 h with ⟨hnone, hrest⟩ | ⟨-, s, later, hread, hrest, -⟩
    · exact ⟨fun hfile => absurd (hnone.symm.trans hfile) Bool.false_ne_true, ih _ hrest⟩
    · exact ⟨fun _ => by rw [hread]; rfl, ih _ hrest⟩

theorem paths_collectSettings {ps : List String} {files : List (String × Settings)}
    (h : t.collectSettings read ps = .ok files) : files.map (·.1) = ps.filter t.exists? := by
  induction ps generalizing files with
  | nil =>
    obtain rfl : [] = files := Except.ok.inj h
    rfl
  | cons path ps ih =>
    rcases collectSettings_cons_eq_ok.1 h with ⟨hnone, hrest⟩ | ⟨hfile, s, later, -, hrest, rfl⟩
    · rw [List.filter_cons_of_neg (by simp [hnone]), ih hrest]
    · rw [List.filter_cons_of_pos hfile, List.map_cons, ih hrest]

theorem collectSettings_append (ps qs : List String) :
    t.collectSettings read (ps ++ qs) = (do
      let files ← t.collectSettings read ps
      let later ← t.collectSettings read qs
      pure (files ++ later)) := by
  induction ps with
  | nil =>
    rw [List.nil_append, collectSettings]
    cases t.collectSettings read qs <;> rfl
  | cons path ps ih =>
    rw [List.cons_append, collectSettings, collectSettings]
    by_cases hfile : t.exists? path = true
    · rw [if_pos hfile, if_pos hfile]
      cases t.readSettings read path with
      | error e => rfl
      | ok s =>
        rw [ih]
        cases t.collectSettings read ps with
        | error e => rfl
        | ok files => cases t.collectSettings read qs <;> rfl
    · rw [if_neg hfile, if_neg hfile, ih]

/-! ## Merged paths -/

theorem mergePaths_eq_ok_iff {ps : List String} {l : LoadedSettings} :
    t.mergePaths read ps = .ok l ↔ ∃ files, t.collectSettings read ps = .ok files ∧ l = ⟨ps, files⟩ := by
  unfold mergePaths
  cases t.collectSettings read ps with
  | error e => simp [Except.map]
  | ok files => simp [Except.map, eq_comm]

/-- Of paths that are merged together, the settings of those behind go over those of the others. -/
theorem mergePaths_append (ps qs : List String) :
    (t.mergePaths read (ps ++ qs)).map (·.settings) =
      (t.mergePaths read ps).bind fun l =>
        ((t.mergePaths read qs).map (·.settings)).map l.settings.mergedWith := by
  unfold mergePaths
  rw [collectSettings_append]
  cases t.collectSettings read ps with
  | error e => rfl
  | ok files =>
    cases t.collectSettings read qs with
    | error e => rfl
    | ok later =>
      show Except.ok (LoadedSettings.settings ⟨ps ++ qs, files ++ later⟩) = .ok _
      unfold LoadedSettings.settings
      rw [List.map_append, List.foldl_append, Settings.foldl_mergedWith]

/-- Groups of paths are merged, and then their settings. -/
def mergeGroups (t : FileTree) (read : SettingsReader) (pss : List (List String)) :
    Except SettingsError Settings :=
  (pss.mapM (t.mergePaths read)).map fun ls => (ls.map (·.settings)).foldl Settings.mergedWith {}

theorem mergeGroups_eq (pss : List (List String)) :
    t.mergeGroups read pss = (t.mergePaths read pss.flatten).map (·.settings) := by
  induction pss with
  | nil => rfl
  | cons ps pss ih =>
    rw [List.flatten_cons, mergePaths_append, ← ih, mergeGroups, mergeGroups, List.mapM_cons]
    cases t.mergePaths read ps with
    | error e => rfl
    | ok l =>
      cases pss.mapM (t.mergePaths read) with
      | error e => rfl
      | ok ls =>
        -- the fold over the groups starts from the first one instead of the defaults
        show Except.ok ((l :: ls).map (·.settings) |>.foldl Settings.mergedWith {}) = .ok _
        rw [List.map_cons, List.foldl_cons, Settings.default_mergedWith, Settings.foldl_mergedWith]

/-- **The last file that sets a setting decides.** Some paths are merged exactly if every file among them can
be read as settings, by whatever reader. Each setting then has the value of the last file that sets it, by
itself, and stays open if none does; all paths were searched, and those with a file were loaded, in order. If
groups of paths that stand side by side are merged first and then their settings, the result is the same. -/
theorem mergePaths_by_last_file (t : FileTree) (read : SettingsReader) (ps : List String) :
    ((∃ l, t.mergePaths read ps = .ok l) ↔ ∀ path ∈ ps, t.exists? path = true →
      ∃ text s, t.readText path = .ok text ∧ read text = some s) ∧
    (∀ l, t.mergePaths read ps = .ok l →
      l.searched = ps ∧ l.paths = ps.filter t.exists? ∧
      ∀ {α : Type} (f : Setting α),
        (∀ v, l.settings.get f = some v ↔ ∃ lower path higher, ps = lower ++ path :: higher ∧
          t.setting? read f path = some v ∧ ∀ q ∈ higher, t.setting? read f q = none) ∧
        (l.settings.get f = none ↔ ∀ path ∈ ps, t.setting? read f path = none)) ∧
    ∀ pss : List (List String), pss.flatten = ps →
      t.mergeGroups read pss = (t.mergePaths read ps).map (·.settings) := by
  refine ⟨?_, fun l hl => ?_, ?_⟩
  · simp only [mergePaths_eq_ok_iff, ← readSettings_isOk_iff]
    rw [← exists_collectSettings_iff]
    constructor
    · rintro ⟨l, files, hfiles, -⟩
      exact ⟨files, hfiles⟩
    · rintro ⟨files, hfiles⟩
      exact ⟨_, files, hfiles, rfl⟩
  · obtain ⟨files, hfiles, rfl⟩ := mergePaths_eq_ok_iff.1 hl
    refine ⟨rfl, paths_collectSettings hfiles, fun f => ?_⟩
    have hget : (LoadedSettings.settings ⟨ps, files⟩).get f = t.lastSet? read f ps := by
      unfold LoadedSettings.settings
      rw [get_foldl_collectSettings hfiles, Settings.get_default, Option.or_none]
    rw [hget]
    exact ⟨fun v => lastSet?_eq_some_iff, lastSet?_eq_none_iff⟩
  · rintro pss rfl
    exact mergeGroups_eq pss

/-- A low and a high file with a missing one between them, and with the high one and the missing one merged
first. -/
theorem mergePaths_by_last_file_missing :
    let object (members : String) := "\x7b" ++ members ++ "\x7d"
    let file (members : String) : FileEntry := .file (Text.encodeText (object members))
    let t : FileTree := { entries := [
      (["low.json"], file ("\"prompt\": \"low> \", \"history\": " ++ object "\"max_entries\": 7")),
      (["high.json"], file "\"prompt\": \"high> \"")] }
    let ps := ["low.json", "missing.json", "high.json"]
    ∃ l, t.mergePaths Settings.ofText? ps = .ok l ∧ l.paths = ["low.json", "high.json"] ∧
      l.settings.get .prompt = some "high> " ∧ l.settings.get .historyMaxEntries = some 7 ∧
      l.settings.get .push = none ∧
      t.mergeGroups Settings.ofText? [["low.json"], ["missing.json", "high.json"]] = .ok l.settings := by
  intro object file t ps
  obtain ⟨hread, hprompt, hlow, hhigher, hpush, hpaths⟩ :
      (∀ path ∈ ps, t.exists? path = true → (t.readSettings Settings.ofText? path).isOk = true) ∧
        t.setting? Settings.ofText? .prompt "high.json" = some "high> " ∧
        t.setting? Settings.ofText? .historyMaxEntries "low.json" = some 7 ∧
        (∀ q ∈ ["missing.json", "high.json"], t.setting? Settings.ofText? .historyMaxEntries q = none) ∧
        (∀ path ∈ ps, t.setting? Settings.ofText? .push path = none) ∧
        ps.filter t.exists? = ["low.json", "high.json"] := by
    decide +kernel
  obtain ⟨hok, hmerged, hgroups⟩ := mergePaths_by_last_file t Settings.ofText? ps
  obtain ⟨l, hl⟩ := hok.2 fun path hpath hfile => readSettings_isOk_iff.1 (hread path hpath hfile)
  obtain ⟨-, hloaded, hget⟩ := hmerged l hl
  refine ⟨l, hl, hloaded.trans hpaths, ?_, ?_, (hget .push).2.2 hpush, ?_⟩
  · exact ((hget .prompt).1 _).2
      ⟨["low.json", "missing.json"], "high.json", [], rfl, hprompt, fun q hq => absurd hq List.not_mem_nil⟩
  · exact ((hget .historyMaxEntries).1 _).2 ⟨[], "low.json", _, rfl, hlow, hhigher⟩
  · rw [hgroups [["low.json"], ["missing.json", "high.json"]] rfl, hl]
    rfl

end FileTree
end CommandShell
