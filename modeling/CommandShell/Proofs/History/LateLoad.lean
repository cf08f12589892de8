import CommandShell.Editor.Console
import CommandShell.Proofs.BuiltTable
import CommandShell.Proofs.History.Entries

/-!
# Loading the history beside a session

The history file is loaded while lines are read already, and its entries are merged at whichever turn
finds them, or behind the last line. One thing is the same at every moment: the history with what still
waits merged. A turn only adds its line to that, so the turn of the merge does not show in the end.

    the history after a session = dedupe (loaded ++ history before ++ lines)
-/

namespace CommandShell

/-! ## The history that a state stands for -/

namespace Interaction

/-- The history, with the loaded entries merged that still wait. -/
def settledHistory (i : Interaction) : History :=
  match i.pending with
  | some loaded => i.history.mergeLoaded loaded
  | none => i.history

theorem history_mergePending (i : Interaction) : i.mergePending.history = i.settledHistory := by
  unfold mergePending settledHistory
  cases i.pending with
  | none => rfl
  | some loaded => rfl

theorem settledHistory_mergePending (i : Interaction) :
    i.mergePending.settledHistory = i.settledHistory := by
  unfold mergePending
  split
  · next loaded hp =>
    unfold settledHistory
    rw [hp]
  · rfl

/-- A turn may merge what waits at its begin. -/
theorem settledHistory_beginTurn (o : InteractionOptions) (i : Interaction) :
    (i.beginTurn o).settledHistory = i.settledHistory := by
  unfold beginTurn
  split
  · exact i.settledHistory_mergePending
  · rfl

/-- A line that is taken is added, whether or not entries still wait. -/
theorem settledHistory_accept (e : Engine) (o : InteractionOptions) (i : Interaction) (line : String) :
    (i.accept e o line).1.settledHistory = i.settledHistory.add line := by
  by_cases hb : Text.allBlank line = true
  · rw [History.add_of_blank _ hb]
    unfold accept
    rw [if_pos hb]
    rfl
  · have hstate : (i.accept e o line).1.settledHistory =
        settledHistory { i with history := i.history.add line } := by
      unfold accept
      rw [if_neg hb]
      rfl
    rw [hstate]
    unfold settledHistory
    dsimp only
    split
    · exact History.add_mergeLoaded ..
    · rfl

end Interaction

/-! ## The lines of a run -/

section
variable {σ ε : Type}

theorem enteredLines_append (xs ys : List (SessionEvent ε)) :
    enteredLines (xs ++ ys) = enteredLines xs ++ enteredLines ys :=
  List.filterMap_append

theorem enteredLines_source (shown : List ε) : enteredLines (shown.map SessionEvent.source) = [] := by
  unfold enteredLines
  rw [List.filterMap_map, List.filterMap_eq_nil_iff]
  intro x _
  rfl

theorem enteredLines_engine (events : List Event) :
    enteredLines (events.map (SessionEvent.engine (ε := ε))) = [] := by
  unfold enteredLines
  rw [List.filterMap_map, List.filterMap_eq_nil_iff]
  intro x _
  rfl

/-- Of the events of a line one is its entering. -/
theorem enteredLines_lineEvents (line : String) (step : Option Step) :
    enteredLines (lineEvents (ε := ε) line step) = [line] := by
  cases step with
  | none => rfl
  | some step =>
    have htail : enteredLines (ε := ε)
        (if step.outcome = .rejected then [.prefilled line] else []) = [] := by
      split <;> rfl
    have hline : lineEvents (ε := ε) line (some step) =
        [.entered line] ++ step.events.map .engine ++
          (if step.outcome = .rejected then [.prefilled line] else []) := rfl
    rw [hline, enteredLines_append, enteredLines_append, enteredLines_engine, htail]
    rfl

/-- The events of a turn that read a line. -/
theorem enteredLines_turn (shown : List ε) (line : String) (step : Option Step) :
    enteredLines (shown.map .source ++ lineEvents line step) = [line] := by
  rw [enteredLines_append, enteredLines_source, enteredLines_lineEvents, List.nil_append]

/-! ## Runs -/

/-- What the turns of a session add to the history are the lines that were read. -/
theorem settledHistory_converse (source : LineSource σ ε) (e : Engine) (o : InteractionOptions)
    (i : Interaction) (s : σ) :
    (converse source e o i s).state.settledHistory =
      i.settledHistory.addAll (enteredLines (converse source e o i s).events) := by
  fun_induction converse source e o i s with
  | case1 i s hstop => rfl
  | case2 i s hrun i' q message hread | case3 i s hrun i' q hread =>
    dsimp only
    rw [enteredLines_source, ← i.settledHistory_beginTurn o]
    rfl
  | case4 i s hrun i' q line hread taken events message hcrash =>
    dsimp only
    rw [enteredLines_turn, i'.settledHistory_accept e o line, i.settledHistory_beginTurn o]
    rfl
  | case5 i s hrun i' q line hread taken events hgoes ih =>
    unfold SessionRun.after
    dsimp only
    rw [ih, enteredLines_append, enteredLines_turn, i'.settledHistory_accept e o line,
      i.settledHistory_beginTurn o]
    rfl

theorem ending_settled (r : SessionRun σ ε) : r.settled.ending = r.ending := by
  unfold SessionRun.settled
  split <;> rfl

theorem events_settled (r : SessionRun σ ε) : r.settled.events = r.events := by
  unfold SessionRun.settled
  split <;> rfl

theorem history_settled {r : SessionRun σ ε} (hend : r.ending = .finished) :
    r.settled.state.history = r.state.settledHistory := by
  unfold SessionRun.settled
  rw [hend]
  exact r.state.history_mergePending

/-- The history after a session that came to its end: what was there before, with the loaded entries in
front if there are any, and then the lines. -/
theorem history_runSession {source : LineSource σ ε} {e : Engine} {o : InteractionOptions}
    {loaded : Option (List String)} {session : Session} {h : History} {s : σ} {run : SessionRun σ ε}
    (hrun : runSession source e o loaded session h s = run) (hend : run.ending = .finished) :
    run.state.history = (loaded.elim h h.mergeLoaded).addAll (enteredLines run.events) := by
  subst hrun
  unfold runSession at hend ⊢
  rw [ending_settled] at hend
  rw [history_settled hend, events_settled, settledHistory_converse]
  cases loaded with
  | none => rfl
  | some loaded => rfl

/-- A whole session is the session beside the load of its file. -/
theorem runInteractive_fst (source : LineSource σ ε) (e : Engine) (o : InteractionOptions)
    (f : HistoryFile) (files : FileTree) (session : Session) (h : History) (s : σ) :
    (runInteractive source e o (some f) files session h s).1 =
      runSession source e o (f.load files).toOption session h s := by
  unfold runInteractive
  dsimp only
  split <;> rfl

/-- A session that came to its end saves its history. -/
theorem runInteractive_of_finished {source : LineSource σ ε} {e : Engine} {o : InteractionOptions}
    {f : HistoryFile} {files : FileTree} {session : Session} {h : History} {s : σ} {run : SessionRun σ ε}
    (hrun : runSession source e o (f.load files).toOption session h s = run)
    (hend : run.ending = .finished) :
    runInteractive source e o (some f) files session h s =
      (run, (f.save files run.state.history.entries).1) := by
  subst hrun
  unfold runInteractive
  dsimp only [Option.bind_some]
  rw [hend]

/-- The lines of a session that are not blank. -/
def typedLines (events : List (SessionEvent ε)) : List String :=
  (enteredLines events).filter fun line => !Text.allBlank line

/-- **A late load does not show.** Whichever turn finds the history loaded, the session ends with the
loaded entries, those from before and the lines that were typed, each at its last place; so a loaded
entry stands in front unless it was typed again, and another turn would have left the same to be saved. -/
theorem late_load_invisible (source : LineSource σ ε) (e : Engine) (o : InteractionOptions)
    (loaded : List String) (session : Session) (h : History) (s : σ) {run : SessionRun σ ε}
    (hrun : runSession source e o (some loaded) session h s = run) (hend : run.ending = .finished) :
    run.state.history.entries = dedupe (loaded ++ h.entries ++ typedLines run.events) ∧
      (run.state.history.entries.Nodup ∧ ∀ x ∈ run.state.history.entries, Text.allBlank x = false) ∧
      (∀ x ∈ typedLines run.events, x ∈ run.state.history.entries) ∧
      (∃ old, run.state.history.entries = old ++ dedupe (h.entries ++ typedLines run.events) ∧
        ∀ x, x ∈ old ↔ x ∈ loaded ∧ Text.allBlank x = false ∧ x ∉ h.entries ++ typedLines run.events) ∧
      (∀ turn run', runSession source e { o with loadedAt := turn } (some loaded) session h s = run' →
        run'.ending = .finished → enteredLines run'.events = enteredLines run.events →
        run'.state.history = run.state.history) ∧
      ∀ (f : HistoryFile) files, f.load files = .ok loaded →
        runInteractive source e o (some f) files session h s =
          (run, (f.save files (dedupe (loaded ++ h.entries ++ typedLines run.events))).1) := by
  have hhistory : ∀ {o : InteractionOptions} {run : SessionRun σ ε},
      runSession source e o (some loaded) session h s = run → run.ending = .finished →
      run.state.history = ⟨dedupe (loaded ++ h.entries ++ enteredLines run.events)⟩ := by
    intro o run hrun hend
    rw [history_runSession hrun hend]
    exact History.addAll_dedupe (loaded ++ h.entries) (enteredLines run.events)
  have hentries : run.state.history.entries =
      dedupe (loaded ++ h.entries ++ typedLines run.events) := by
    rw [hhistory hrun hend, typedLines, dedupe_append_filter_notBlank]
  refine ⟨hentries, ?_, ?_, ?_, ?_, ?_⟩
  · rw [hentries]
    exact ⟨nodup_dedupe _, fun x hx => (mem_dedupe.1 hx).2⟩
  · intro x hx
    rw [hentries, mem_dedupe]
    exact ⟨List.mem_append_right _ hx, by simpa using (List.mem_filter.1 hx).2⟩
  · refine ⟨(dedupe loaded).filter fun x => !(h.entries ++ typedLines run.events).contains x, ?_, ?_⟩
    · rw [hentries, List.append_assoc, dedupe_append]
    · intro x
      rw [List.mem_filter, mem_dedupe, and_assoc]
      simp
  · intro turn run' hrun' hend' hlines
    rw [hhistory hrun' hend', hhistory hrun hend, hlines]
  · intro f files hload
    have hpending : runSession source e o (f.load files).toOption session h s = run := by
      rw [hload]
      exact hrun
    rw [runInteractive_of_finished hpending hend, hentries]

end

/-- A loaded entry is typed again before the second turn finds the load; a blank line and a further one
follow. -/
theorem late_load_invisible_twice :
    let e : Engine := { table := Builtin.table, converters := Builtin.converters }
    let keys : List Editor.Key :=
      [.paste "echo o", .enter, .char ' ', .enter, .paste "echo x", .enter, .control 'd']
    let run (turn : Nat) := runSession (Editor.keySource 80 10) e { prompt := "> ", loadedAt := turn }
      (some ["echo o", "echo p"]) (e.start .empty) {} keys
    (run 1).ending = .finished ∧ (run 9).ending = .finished ∧
      (run 1).state.history.entries = ["echo p", "echo o", "echo x"] ∧
      (run 9).state.history = (run 1).state.history := by
  rw [Builtin.table_eq]
  intro e keys run
  obtain ⟨hend, hlines⟩ :
      (run 1).ending = .finished ∧ enteredLines (run 1).events = ["echo o", " ", "echo x"] := by decide +kernel
  obtain ⟨hend', hlines'⟩ :
      (run 9).ending = .finished ∧ enteredLines (run 9).events = ["echo o", " ", "echo x"] := by decide +kernel
  obtain ⟨hentries, -, -, -, htiming, -⟩ := late_load_invisible _ e _ _ _ _ _
    (rfl : runSession (Editor.keySource 80 10) e { prompt := "> ", loadedAt := 1 } (some ["echo o", "echo p"])
      (e.start .empty) {} keys = run 1) hend
  refine ⟨hend, hend', ?_, htiming 9 (run 9) rfl hend' (hlines'.trans hlines.symm)⟩
  rw [hentries, typedLines, hlines]
  decide +kernel

end CommandShell
