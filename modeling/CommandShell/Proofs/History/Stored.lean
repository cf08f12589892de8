import CommandShell.Proofs.Files.Folders
import CommandShell.Proofs.History.LateLoad

/-!
# The stored history

Saving writes each entry with a line end behind it, so the lines of the file are the lines of the
entries. A session whose history file is a text saves the old lines with its own behind them, and an
old line goes only by the limit. A file that is no text is not loaded, but written over all the same.

    (f.save t es).1.readBytes f.path = the bytes of textOf (lastEntries f.maxEntries es)
-/

namespace CommandShell

/-! ## Lines and line ends -/

namespace Text

section
variable {α : Type} [DecidableEq α] {feed ret : α}

/-- A line end separates what stands in front of it from what follows. -/
theorem cutLinesFrom_append (line a b : List α) :
    cutLinesFrom feed ret line (a ++ feed :: b) =
      cutLinesFrom feed ret line (a ++ [feed]) ++ cutLines feed ret b := by
  induction a generalizing line with
  | nil =>
    rw [List.nil_append, List.nil_append, cutLinesFrom, cutLinesFrom, if_pos rfl, if_pos rfl]
    rfl
  | cons c a ih =>
    rw [List.cons_append, List.cons_append, cutLinesFrom, cutLinesFrom]
    by_cases hc : c = feed
    · rw [if_pos hc, if_pos hc, ih, List.cons_append]
    · rw [if_neg hc, if_neg hc, ih]

theorem cutLinesFrom_concat {a : List α} (h : feed ∉ a) (line : List α) :
    cutLinesFrom feed ret line (a ++ [feed]) = [(dropReturn ret (a.reverse ++ line)).reverse] := by
  induction a generalizing line with
  | nil =>
    rw [List.nil_append, cutLinesFrom, if_pos rfl]
    rfl
  | cons c a ih =>
    rw [List.mem_cons, not_or] at h
    rw [List.cons_append, cutLinesFrom, if_neg (Ne.symm h.1), ih h.2, List.reverse_cons, List.append_assoc]
    rfl

theorem dropReturn_subset (line : List α) : dropReturn ret line ⊆ line := by
  cases line with
  | nil => exact List.Subset.refl _
  | cons c line =>
    rw [dropReturn]
    split
    · exact List.subset_cons_self c line
    · exact List.Subset.refl _

theorem notMem_of_mem_cutLinesFrom {s line piece : List α} (hline : feed ∉ line)
    (h : piece ∈ cutLinesFrom feed ret line s) : feed ∉ piece := by
  induction s generalizing line with
  | nil =>
    rw [cutLinesFrom] at h
    split at h
    · cases h
    · obtain rfl := List.mem_singleton.1 h
      simpa using hline
  | cons c s ih =>
    rw [cutLinesFrom] at h
    split at h
    · rcases List.mem_cons.1 h with rfl | h
      · rw [List.mem_reverse]
        exact fun hmem => hline (dropReturn_subset line hmem)
      · exact ih List.not_mem_nil h
    · next hc => exact ih (by rw [List.mem_cons, not_or]; exact ⟨Ne.symm hc, hline⟩) h

end

theorem lines_append (a b : String) : lines (a ++ "\n" ++ b) = lines (a ++ "\n") ++ lines b := by
  have hab : (a ++ "\n" ++ b).toList = a.toList ++ '\n' :: b.toList := by
    rw [String.append_assoc, String.toList_append, String.toList_append]
    rfl
  have ha : (a ++ "\n").toList = a.toList ++ ['\n'] := String.toList_append
  unfold lines cutLines
  rw [hab, ha, cutLinesFrom_append, List.map_append]
  rfl

/-- A line as it is read back: a return at its end belongs to the line end behind it. -/
def withoutReturn (s : String) : String :=
  String.ofList (dropReturn '\r' s.toList.reverse).reverse

theorem lines_feed {s : String} (h : '\n' ∉ s.toList) : lines (s ++ "\n") = [withoutReturn s] := by
  unfold lines cutLines
  have hcut : cutLinesFrom '\n' '\r' [] (s ++ "\n").toList = [(dropReturn '\r' s.toList.reverse).reverse] := by
    rw [String.toList_append, ← List.append_nil s.toList.reverse]
    exact cutLinesFrom_concat h []
  rw [hcut]
  rfl

theorem notMem_of_mem_lines {text line : String} (h : line ∈ lines text) : '\n' ∉ line.toList := by
  obtain ⟨piece, hpiece, rfl⟩ := List.mem_map.1 h
  rw [String.toList_ofList]
  exact notMem_of_mem_cutLinesFrom List.not_mem_nil hpiece

theorem allBlank_withoutReturn (s : String) : allBlank (withoutReturn s) = allBlank s := by
  have hr : isBlank '\r' = true := by decide
  unfold allBlank withoutReturn
  rw [String.toList_ofList, List.all_reverse, ← List.all_reverse (l := s.toList)]
  cases s.toList.reverse with
  | nil => rfl
  | cons c cs =>
    rw [dropReturn]
    split
    · next hc => rw [List.all_cons, hc, hr, Bool.true_and]
    · rfl

end Text

/-! ## Lists of entries -/

theorem exists_last_place {α : Type} {x : α} {xs : List α} (h : x ∈ xs) :
    ∃ before behind, xs = before ++ x :: behind ∧ x ∉ behind := by
  obtain ⟨as, bs, hxs, hx⟩ := List.eq_append_cons_of_mem (List.mem_reverse.2 h)
  refine ⟨bs.reverse, as.reverse, ?_, by simpa using hx⟩
  rw [← List.reverse_reverse xs, hxs]
  simp

/-- An entry is among the last `n` if fewer than `n` follow it. -/
theorem mem_lastEntries_iff {α : Type} {x : α} {before behind : List α} (h : x ∉ behind) (n : Nat) :
    x ∈ lastEntries n (before ++ x :: behind) ↔ behind.length < n := by
  unfold lastEntries
  rw [List.length_append, List.length_cons]
  by_cases hn : behind.length < n
  · have hdrop : before.length + (behind.length + 1) - n ≤ before.length := by omega
    rw [List.drop_append_of_le_length hdrop]
    simp [hn]
  · have hdrop : before.length + (behind.length + 1) - n = before.length + (1 + (behind.length - n)) := by omega
    rw [hdrop, List.drop_length_add_append, Nat.add_comm 1, List.drop_succ_cons]
    exact iff_of_false (fun hmem => h (List.mem_of_mem_drop hmem)) hn

/-- The last place of an entry decides whether a limit cuts it. -/
theorem mem_lastEntries_dedupe_iff {x : String} {before behind : List String} (hx : Text.allBlank x = false)
    (h : x ∉ behind) (n : Nat) :
    x ∈ lastEntries n (dedupe (before ++ x :: behind)) ↔ (dedupe behind).length < n := by
  have hhead : dedupe (x :: behind) = x :: dedupe behind := by
    rw [dedupe, if_neg (by simp [hx, h])]
  rw [dedupe_append, hhead]
  exact mem_lastEntries_iff (fun hmem => h (mem_dedupe.1 hmem).1) n

theorem lastEntries_subset {α : Type} (n : Nat) (xs : List α) : lastEntries n xs ⊆ xs :=
  List.drop_subset _ xs

namespace HistoryFile

/-! ## The text of entries -/

theorem textOf_cons {x : String} {es : List String} (h : ∀ e ∈ x :: es, e ≠ "") :
    textOf (x :: es) = x ++ "\n" ++ textOf es := by
  have hx : x ≠ "" := h x List.mem_cons_self
  cases es with
  | nil =>
    unfold textOf
    simp [hx]
  | cons y es =>
    have hy : y ≠ "" := h y (List.mem_cons_of_mem _ List.mem_cons_self)
    have hbody : ∀ (z : String) (zs : List String), z ≠ "" →
        textOf (z :: zs) = String.intercalate "\n" (z :: zs) ++ "\n" := by
      intro z zs hz
      unfold textOf
      have hne : String.intercalate "\n" (z :: zs) ≠ "" := by
        cases zs with
        | nil => rwa [String.intercalate_singleton]
        | cons z' zs =>
          rw [String.intercalate_cons_cons]
          simp [hz]
      simp [hne]
    rw [hbody x _ hx, hbody y _ hy, String.intercalate_cons_cons, String.append_assoc]

/-- The lines of what is written are those of the entries. -/
theorem lines_textOf {es : List String} (h : ∀ e ∈ es, e ≠ "") :
    Text.lines (textOf es) = es.flatMap fun e => Text.lines (e ++ "\n") := by
  induction es with
  | nil => rfl
  | cons x es ih =>
    rw [textOf_cons h, Text.lines_append, ih fun e he => h e (List.mem_cons_of_mem x he)]
    rfl

/-- An entry on one line is read back. -/
theorem mem_entriesOf_textOf {es : List String} (h : ∀ e ∈ es, Text.allBlank e = false) {x : String}
    (hx : x ∈ es) (hfeed : '\n' ∉ x.toList) : Text.withoutReturn x ∈ entriesOf (textOf es) := by
  have hne : ∀ e ∈ es, e ≠ "" := by
    rintro e he rfl
    exact absurd (h "" he) (by decide)
  unfold entriesOf
  rw [mem_dedupe, Text.allBlank_withoutReturn, lines_textOf hne, List.mem_flatMap]
  refine ⟨⟨x, hx, ?_⟩, h x hx⟩
  rw [Text.lines_feed hfeed]
  exact List.mem_singleton_self _

/-! ## Loading and saving -/

section
variable {f : HistoryFile} {t : FileTree} {bytes : List UInt8}

/-- A file that is there is loaded if its bytes are a text. -/
theorem load_of_readBytes (h : t.readBytes f.path = .ok bytes) :
    f.load t = match Text.decodeBytes bytes with
      | some text => .ok (entriesOf text)
      | none => .error (.unreadable f.path .notText) := by
  unfold load FileTree.readText
  rw [if_pos (FileTree.exists_of_readBytes h), h]
  dsimp only
  cases Text.decodeBytes bytes with
  | none => rfl
  | some text => rfl

theorem withFolder_of_readBytes (h : t.readBytes f.path = .ok bytes) : f.withFolder t = (t, none) := by
  unfold withFolder
  split
  · rfl
  · rfl
  · next folder hempty hfolder =>
    have hne : folder ≠ "" := by
      rintro rfl
      exact hempty rfl
    rw [FileTree.makeFolders_parent h hfolder hne]

/-- A file that is there is saved, whatever it holds. -/
theorem save_of_readBytes (h : t.readBytes f.path = .ok bytes) (es : List String) :
    (f.save t es).2 = none ∧ (f.save t es).1.readBytes f.path =
      .ok (Text.encodeText (textOf (lastEntries f.maxEntries es))) := by
  obtain ⟨t', ht'⟩ := FileTree.write_of_readBytes h
    (Text.encodeText (textOf (lastEntries f.maxEntries es)))
  unfold save
  rw [withFolder_of_readBytes h]
  dsimp only
  rw [ht']
  exact ⟨rfl, FileTree.readBytes_write ht'⟩

end

end HistoryFile

/-! ## Sessions -/

section
variable {σ ε : Type}

open HistoryFile

/-- **A session keeps the history that it could load.** The file holds afterwards exactly the last
entries of its old lines, the entries from before and the typed lines. So an old line that is not blank
is cut if the limit is reached by the entries behind its last place, and is read back by the next load
otherwise. A file that is no text cannot be loaded, and the session overwrites it with its own lines. -/
theorem session_keeps_loaded_history (source : LineSource σ ε) (e : Engine) (o : InteractionOptions)
    (f : HistoryFile) (session : Session) (h : History) (s : σ) {files files' : FileTree}
    {bytes : List UInt8} {run : SessionRun σ ε} (hbytes : files.readBytes f.path = .ok bytes)
    (hrun : runInteractive source e o (some f) files session h s = (run, files'))
    (hend : run.ending = .finished) :
    ∃ saved : List String,
      files'.readBytes f.path = .ok (Text.encodeText (textOf saved)) ∧
      f.load files' = .ok (entriesOf (textOf saved)) ∧
      (∀ text, Text.decodeBytes bytes = some text →
        saved = lastEntries f.maxEntries
          (dedupe (Text.lines text ++ h.entries ++ typedLines run.events)) ∧
        ∀ x ∈ Text.lines text, Text.allBlank x = false →
          (x ∈ saved → Text.withoutReturn x ∈ entriesOf (textOf saved)) ∧
          ∃ before behind, Text.lines text ++ h.entries ++ typedLines run.events = before ++ x :: behind ∧
            x ∉ behind ∧ (x ∈ saved ↔ (dedupe behind).length < f.maxEntries)) ∧
      (Text.decodeBytes bytes = none →
        f.load files = .error (.unreadable f.path .notText) ∧
        saved = lastEntries f.maxEntries (h.addAll (enteredLines run.events)).entries ∧
        files'.readBytes f.path ≠ .ok bytes) := by
  have hsession : runSession source e o (f.load files).toOption session h s = run := by
    rw [← runInteractive_fst, hrun]
  have hfiles : (f.save files run.state.history.entries).1 = files' := by
    rw [runInteractive_of_finished hsession hend] at hrun
    exact (Prod.mk.inj hrun).2
  subst hfiles
  have hhistory := history_runSession hsession hend
  obtain ⟨-, hsaved⟩ := save_of_readBytes hbytes run.state.history.entries
  refine ⟨lastEntries f.maxEntries run.state.history.entries, hsaved, ?_, ?_, ?_⟩
  · rw [load_of_readBytes hsaved, Text.decodeBytes_encodeText]
  · intro text htext
    have hall : run.state.history.entries =
        dedupe (Text.lines text ++ h.entries ++ typedLines run.events) := by
      rw [hhistory, load_of_readBytes hbytes, htext]
      show ((h.mergeLoaded (dedupe (Text.lines text))).addAll _).entries = _
      rw [History.entries_addAll_mergeLoaded, List.append_assoc, dedupe_dedupe_append, ← List.append_assoc,
        typedLines, dedupe_append_filter_notBlank]
    rw [hall]
    refine ⟨rfl, fun x hx hblank => ⟨fun hmem => ?_, ?_⟩⟩
    · refine mem_entriesOf_textOf (fun y hy => ?_) hmem (Text.notMem_of_mem_lines hx)
      exact (mem_dedupe.1 (lastEntries_subset _ _ hy)).2
    · have hmem : x ∈ Text.lines text ++ h.entries ++ typedLines run.events :=
        List.mem_append_left _ (List.mem_append_left _ hx)
      obtain ⟨before, behind, hplace, hlast⟩ := exists_last_place hmem
      refine ⟨before, behind, hplace, hlast, ?_⟩
      rw [hplace]
      exact mem_lastEntries_dedupe_iff hblank hlast _
  · intro hnone
    have hload : f.load files = .error (.unreadable f.path .notText) := by
      rw [load_of_readBytes hbytes, hnone]
    refine ⟨hload, ?_, ?_⟩
    · rw [hhistory, hload]
      rfl
    · rw [hsaved]
      intro heq
      rw [← Except.ok.inj heq, Text.decodeBytes_encodeText] at hnone
      cases hnone

end

/-- Two lines are typed, one of them again; of the old ones the limit leaves the last. -/
theorem session_keeps_loaded_history_limit :
    let e : Engine := { table := Builtin.table, converters := Builtin.converters }
    let old := Text.encodeText "echo a\necho b\n\necho c\r\n"
    let files : FileTree := { entries := [(["h"], .file old)] }
    let keys : List Editor.Key := [.paste "echo x", .enter, .paste "echo b", .enter, .control 'd']
    let r := runInteractive (Editor.keySource 80 10) e { prompt := "> " } (some ⟨"h", 3⟩) files
      (e.start .empty) {} keys
    files.readBytes "h" = .ok old ∧ r.1.ending = .finished ∧
      r.2.readBytes "h" = .ok (Text.encodeText "echo c\necho x\necho b\n") := by
  rw [Builtin.table_eq]
  intro e old files keys r
  have hbytes : files.readBytes "h" = .ok old := by decide +kernel
  obtain ⟨hend, hlines⟩ :
      r.1.ending = .finished ∧ enteredLines r.1.events = ["echo x", "echo b"] := by decide +kernel
  obtain ⟨saved, hsaved, -, htext, -⟩ := session_keeps_loaded_history (Editor.keySource 80 10) e
    { prompt := "> " } ⟨"h", 3⟩ (e.start .empty) {} keys hbytes (rfl : _ = (r.1, r.2)) hend
  obtain ⟨hall, -⟩ := htext _ (Text.decodeBytes_encodeText _)
  refine ⟨hbytes, hend, ?_⟩
  rw [hsaved, hall, typedLines, hlines]
  decide +kernel

/-- One byte of the file is no text: the load fails, and the session leaves nothing of the old line. -/
theorem session_overwrites_unreadable_history :
    let e : Engine := { table := Builtin.table, converters := Builtin.converters }
    let old : List UInt8 := [0x6f, 0x6c, 0x64, 0x0a, 0xff, 0x0a]
    let files : FileTree := { entries := [(["h"], .file old)] }
    let f : HistoryFile := ⟨"h", 1000⟩
    let r := runInteractive (Editor.keySource 80 10) e { prompt := "> " } (some f) files (e.start .empty) {}
      [.paste "echo x", .enter, .control 'd']
    files.readBytes f.path = .ok old ∧ f.load files = .error (.unreadable f.path .notText) ∧
      r.1.ending = .finished ∧ r.2.readBytes f.path = .ok (Text.encodeText "echo x\n") ∧
      r.2.readBytes f.path ≠ .ok old := by
  rw [Builtin.table_eq]
  decide +kernel

end CommandShell
