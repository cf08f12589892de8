import CommandShell.Proofs.History.Stored

/-!
# Saving and loading the history

Adding lines and merging loaded lists keep the entries distinct and free of blank ones, and every such list of
entries comes about. So each saved entry is a line of its own in the file, and loading drops none of them:

    f.load (f.save t h.entries) = the last f.maxEntries entries of h
    saving these once more writes the same bytes

An entry with a line feed would be read back as two, and a return at its end as a part of the line end.
-/

namespace CommandShell

/-! ## What a history can hold -/

namespace History

/-- A history after some lines were added and some loaded lists merged, in any order. -/
inductive Reached : History → Prop where
  | empty : Reached {}
  | add {h : History} (hr : Reached h) (line : String) : Reached (h.add line)
  | mergeLoaded {h : History} (hr : Reached h) (loaded : List String) : Reached (h.mergeLoaded loaded)

/-- No entry is there twice, and none is blank. -/
structure Tidy (h : History) : Prop where
  nodup : h.entries.Nodup
  notBlank : ∀ x ∈ h.entries, Text.allBlank x = false

theorem Tidy.empty : Tidy {} :=
  ⟨List.nodup_nil, fun _ hx => absurd hx List.not_mem_nil⟩

theorem tidy_dedupe (xs : List String) : Tidy ⟨dedupe xs⟩ :=
  ⟨nodup_dedupe xs, fun _ hx => (mem_dedupe.1 hx).2⟩

theorem Tidy.dedupe_entries {h : History} (ht : h.Tidy) : dedupe h.entries = h.entries :=
  dedupe_eq_self ht.nodup ht.notBlank

theorem Tidy.mergeLoaded (h : History) (loaded : List String) : (h.mergeLoaded loaded).Tidy :=
  tidy_dedupe (loaded ++ h.entries)

theorem Tidy.add {h : History} (ht : h.Tidy) (line : String) : (h.add line).Tidy := by
  -- adding a line is removing repetitions with the line put behind
  have hadd : h.add line = ⟨dedupe (h.entries ++ [line])⟩ := by
    have h1 := addAll_dedupe h.entries [line]
    rwa [ht.dedupe_entries] at h1
  rw [hadd]
  exact tidy_dedupe _

/-- The histories that come about are those with distinct entries that are not blank. -/
theorem reached_iff_tidy {h : History} : h.Reached ↔ h.Tidy := by
  constructor
  · intro hr
    induction hr with
    | empty => exact Tidy.empty
    | add _ line ih => exact ih.add line
    | mergeLoaded _ loaded _ => exact Tidy.mergeLoaded _ loaded
  · -- merging such entries into the empty history gives them back
    intro ht
    have hmerge : ({} : History).mergeLoaded h.entries = h := by
      unfold mergeLoaded
      rw [List.append_nil, ht.dedupe_entries]
    exact hmerge ▸ Reached.empty.mergeLoaded h.entries

end History

/-! ## Entries on one line -/

/-- The text has no line feed in it and no return at its end: it is a line. -/
def Text.OnOneLine (s : String) : Prop :=
  '\n' ∉ s.toList ∧ s.toList.getLast? ≠ some '\r'

theorem Text.withoutReturn_eq_self {s : String} (h : s.toList.getLast? ≠ some '\r') : withoutReturn s = s := by
  have hdrop : dropReturn '\r' s.toList.reverse = s.toList.reverse := by
    rw [← List.head?_reverse] at h
    cases hs : s.toList.reverse with
    | nil => rfl
    | cons c rest =>
      rw [hs, List.head?_cons] at h
      rw [dropReturn, if_neg fun hc => h (congrArg some hc)]
  unfold withoutReturn
  rw [hdrop, List.reverse_reverse, String.ofList_toList]

theorem lastEntries_lastEntries {α : Type} (n : Nat) (xs : List α) :
    lastEntries n (lastEntries n xs) = lastEntries n xs := by
  have hlength : (lastEntries n xs).length - n = 0 := by
    rw [lastEntries_length]
    omega
  rw [lastEntries, hlength, List.drop_zero]

namespace HistoryFile

/-- Entries on lines of their own are the lines that are read back. -/
theorem lines_textOf_of_onOneLine {es : List String} (hne : ∀ e ∈ es, e ≠ "")
    (hes : ∀ e ∈ es, Text.OnOneLine e) : Text.lines (textOf es) = es := by
  rw [lines_textOf hne]
  have hline : ∀ e ∈ es, Text.lines (e ++ "\n") = [e] := by
    intro e he
    rw [Text.lines_feed (hes e he).1, Text.withoutReturn_eq_self (hes e he).2]
  rw [List.flatMap_def, List.map_congr_left hline, ← List.flatMap_def, List.flatMap_singleton']

theorem entriesOf_textOf {es : List String} (ht : History.Tidy ⟨es⟩) (hes : ∀ e ∈ es, Text.OnOneLine e) :
    entriesOf (textOf es) = es := by
  have hne : ∀ e ∈ es, e ≠ "" := by
    rintro e he rfl
    exact absurd (ht.notBlank "" he) (by decide)
  rw [entriesOf, lines_textOf_of_onOneLine hne hes]
  exact ht.dedupe_entries

/-! ## Saving and loading -/

/-- A save that succeeds leaves the text of the last entries, whatever stood there before. -/
theorem readBytes_of_save {f : HistoryFile} {t : FileTree} {es : List String} (h : (f.save t es).2 = none) :
    (f.save t es).1.readBytes f.path = .ok (Text.encodeText (textOf (lastEntries f.maxEntries es))) := by
  unfold save at h ⊢
  split at h
  · cases h
  · split at h
    · next hw => exact FileTree.readBytes_write hw
    · cases h

/-- **What was saved is loaded.** Whatever lines were added and whatever lists merged, and whatever the file
held before: if the entries are lines and the save succeeds, the next load gives the last of them, as many as
the limit allows, in order; and saving the loaded entries again succeeds and writes the same bytes. -/
theorem load_save_round_trip (f : HistoryFile) (t : FileTree) {h : History} (hreached : h.Reached)
    (hlines : ∀ x ∈ h.entries, Text.OnOneLine x) (hsave : (f.save t h.entries).2 = none) :
    ∃ dropped kept bytes, h.entries = dropped ++ kept ∧ kept.length = min f.maxEntries h.entries.length ∧
      f.load (f.save t h.entries).1 = .ok kept ∧
      (f.save t h.entries).1.readBytes f.path = .ok bytes ∧
      (f.save (f.save t h.entries).1 kept).2 = none ∧
      (f.save (f.save t h.entries).1 kept).1.readBytes f.path = .ok bytes := by
  have ht := History.reached_iff_tidy.1 hreached
  have hsub := lastEntries_subset f.maxEntries h.entries
  have hkept : History.Tidy ⟨lastEntries f.maxEntries h.entries⟩ :=
    ⟨ht.nodup.sublist (List.drop_sublist _ _), fun x hx => ht.notBlank x (hsub hx)⟩
  have hread := readBytes_of_save hsave
  refine ⟨_, lastEntries f.maxEntries h.entries, _, (List.take_append_drop _ _).symm,
    lastEntries_length _ _, ?_, hread, ?_⟩
  · rw [load_of_readBytes hread, Text.decodeBytes_encodeText]
    exact congrArg _ (entriesOf_textOf hkept fun x hx => hlines x (hsub hx))
  · have hagain := save_of_readBytes hread (lastEntries f.maxEntries h.entries)
    rwa [lastEntries_lastEntries] at hagain

/-- The folder is made, and of three entries the limit leaves two. -/
theorem load_save_round_trip_limit :
    let h := ((({} : History).add "echo b").mergeLoaded ["echo a", "echo b"]).add "say \"x\t\""
    let f : HistoryFile := ⟨"d/h", 2⟩
    let t := (f.save {} h.entries).1
    h.entries = ["echo a", "echo b", "say \"x\t\""] ∧ (f.save {} h.entries).2 = none ∧
      f.load t = .ok ["echo b", "say \"x\t\""] ∧
      (f.save t ["echo b", "say \"x\t\""]).1.readBytes "d/h" = t.readBytes "d/h" := by
  intro h f t
  obtain ⟨hentries, hsave⟩ :
      h.entries = ["echo a", "echo b", "say \"x\t\""] ∧ (f.save {} h.entries).2 = none := by decide +kernel
  have hlines : ∀ x ∈ h.entries, Text.OnOneLine x := by
    rw [hentries]
    simp [Text.OnOneLine]
  obtain ⟨dropped, kept, bytes, heq, hlength, hload, hbytes, -, hagain⟩ := load_save_round_trip f {}
    (((History.Reached.empty.add "echo b").mergeLoaded ["echo a", "echo b"]).add "say \"x\t\"") hlines hsave
  have hkept : kept = ["echo b", "say \"x\t\""] := by
    have hdrop : (dropped ++ kept).drop dropped.length = kept := List.drop_left
    have hdropped : dropped.length = 1 := by
      have := congrArg List.length heq
      rw [hentries] at hlength this
      simp [f] at hlength this
      omega
    rw [← heq, hdropped, hentries] at hdrop
    exact hdrop.symm
  rw [hkept] at hload hagain
  exact ⟨hentries, hsave, hload, hagain.trans hbytes.symm⟩

end HistoryFile
end CommandShell
