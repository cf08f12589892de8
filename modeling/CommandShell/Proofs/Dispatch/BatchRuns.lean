import CommandShell.Batch
import CommandShell.Proofs.Dispatch.HandlerArguments
import CommandShell.Proofs.Dispatch.SavedPrefix
import CommandShell.Proofs.Text.Bytes

/-!
# Batch runs

A batch run shows and carries out the lines of its input, each once and in order, up to the first one that
asks the shell to end; a line that is no text ends the run as well, and so does one that breaks the program
off.

    run.events  = each line behind its prompt, then what it does      (shown)
    run.session = the session after these lines                       (sessionAfter)
    exit code   = the one that the last line asks for, or 1 if some line failed, or 0
-/

namespace CommandShell

/-- The line that an event shows. -/
def Event.echoed : Event → Option String
  | echo _ line => some line
  | _ => none

theorem BatchRun.after_after (events events' : List Event) (r : BatchRun) :
    (r.after events').after events = r.after (events ++ events') := by
  unfold after
  rw [List.append_assoc]

namespace Engine

/-! ## Lines of a run -/

/-- Among some lines, this one is carried out in the session `s'` that those before it left. -/
def CarriesOut (e : Engine) (s : Session) (lines : List String) (s' : Session) (line : String) : Prop :=
  ∃ front back, lines = front ++ line :: back ∧ s' = e.sessionAfter s front

/-- A line behind some others: the prompt with the stack that they made, the line, and what it does. -/
def shownBehind (e : Engine) (prompt : String) (s : Session) (front : List String) (line : String) :
    List Event :=
  .echo (promptFor prompt (e.stackAfter s.stack front)) line ::
    (e.dispatch (e.sessionAfter s front) line).events

/-- Some lines, one after the other. -/
def shown (e : Engine) (prompt : String) (s : Session) (lines : List String) : List Event :=
  lines.zipIdx.flatMap fun (line, i) => e.shownBehind prompt s (lines.take i) line

/-- Some line fails. -/
def Fails (e : Engine) (s : Session) (lines : List String) : Prop :=
  ∃ s' line, e.CarriesOut s lines s' line ∧ (e.dispatch s' line).outcome.isFailure = true

/-- A line asks the shell to end with a code: what it runs asks so, canceled or not. -/
def AsksExit (e : Engine) (s : Session) (line : String) (code : Int32) : Prop :=
  ∃ p, e.planned s line = some (.ok p) ∧ (e.respond p).exit = some code

/-- A line does not end a run. -/
structure Passes (e : Engine) (s : Session) (line : String) : Prop where
  stays : ∀ code, ¬e.AsksExit s line code
  unbroken : ∀ message, (e.dispatch s line).outcome ≠ .crashed message

/-- None of the lines ends a run. -/
def AllPass (e : Engine) (s : Session) (lines : List String) : Prop :=
  ∀ s' line, e.CarriesOut s lines s' line → e.Passes s' line

/-- How a run stops that carried out some lines, with the rest of the input. -/
inductive Stops (e : Engine) (s : Session) : List String → List (Option String) → BatchRun → Prop
  /-- All lines are carried out; the code tells whether one failed. -/
  | over {ran : List String} {r : BatchRun} {failed : Bool} (pass : e.AllPass s ran)
    (ending : r.ending = .finished failed) (failed_iff : failed = true ↔ e.Fails s ran)
    (code_eq : r.exitCode failed = if failed then 1 else 0) : Stops e s ran [] r
  /-- The last line is the first one that asks to end, with this code. -/
  | exited {ran : List String} {last : String} {rest : List (Option String)} {r : BatchRun} {failed : Bool}
    {code : Int32} (pass : e.AllPass s ran) (asks : e.AsksExit (e.sessionAfter s ran) last code)
    (ending : r.ending = .finished failed) (code_eq : r.exitCode failed = code) :
    Stops e s (ran ++ [last]) rest r
  | unreadable {ran : List String} {rest : List (Option String)} {r : BatchRun} (pass : e.AllPass s ran)
    (ending : r.ending = .unreadable) : Stops e s ran (none :: rest) r
  /-- A converter broke off the program at the last line. -/
  | crashed {ran : List String} {last : String} {rest : List (Option String)} {r : BatchRun}
    {message : String} (pass : e.AllPass s ran)
    (crash : (e.dispatch (e.sessionAfter s ran) last).outcome = .crashed message)
    (ending : r.ending = .crashed message) : Stops e s (ran ++ [last]) rest r

/-! ## One line -/

theorem carriesOut_cons {e : Engine} {s s' : Session} {first line : String} {rest : List String} :
    e.CarriesOut s (first :: rest) s' line ↔
      (s' = s ∧ line = first) ∨ e.CarriesOut (e.dispatch s first).session rest s' line := by
  constructor
  · rintro ⟨front, back, hlines, hs'⟩
    cases front with
    | nil =>
      cases hlines
      exact Or.inl ⟨hs', rfl⟩
    | cons x front =>
      cases hlines
      exact Or.inr ⟨front, back, rfl, hs'⟩
  · rintro (⟨rfl, rfl⟩ | ⟨front, back, rfl, hs'⟩)
    · exact ⟨[], rest, rfl, rfl⟩
    · exact ⟨first :: front, back, rfl, hs'⟩

theorem not_carriesOut_nil {e : Engine} {s s' : Session} {line : String} : ¬e.CarriesOut s [] s' line := by
  rintro ⟨front, back, h, -⟩
  exact List.append_ne_nil_of_right_ne_nil front (List.cons_ne_nil line back) h.symm

theorem allPass_nil (e : Engine) (s : Session) : e.AllPass s [] :=
  fun _ _ h => absurd h not_carriesOut_nil

theorem allPass_cons {e : Engine} {s : Session} {line : String} {rest : List String} :
    e.AllPass s (line :: rest) ↔ e.Passes s line ∧ e.AllPass (e.dispatch s line).session rest := by
  unfold AllPass
  simp only [carriesOut_cons]
  constructor
  · exact fun h => ⟨h s line (Or.inl ⟨rfl, rfl⟩), fun s' l hl => h s' l (Or.inr hl)⟩
  · rintro ⟨hline, hrest⟩ s' l (⟨rfl, rfl⟩ | hl)
    · exact hline
    · exact hrest s' l hl

theorem not_fails_nil (e : Engine) (s : Session) : ¬e.Fails s [] :=
  fun ⟨_, _, h, _⟩ => not_carriesOut_nil h

theorem fails_cons {e : Engine} {s : Session} {line : String} {rest : List String} :
    e.Fails s (line :: rest) ↔
      (e.dispatch s line).outcome.isFailure = true ∨ e.Fails (e.dispatch s line).session rest := by
  unfold Fails
  simp only [carriesOut_cons]
  constructor
  · rintro ⟨s', l, ⟨rfl, rfl⟩ | hl, hf⟩
    · exact Or.inl hf
    · exact Or.inr ⟨s', l, hl, hf⟩
  · rintro (hf | ⟨s', l, hl, hf⟩)
    · exact ⟨s, line, Or.inl ⟨rfl, rfl⟩, hf⟩
    · exact ⟨s', l, Or.inr hl, hf⟩

theorem shown_cons (e : Engine) (prompt : String) (s : Session) (line : String) (rest : List String) :
    e.shown prompt s (line :: rest) =
      .echo (promptFor prompt s.stack) line ::
        ((e.dispatch s line).events ++ e.shown prompt (e.dispatch s line).session rest) := by
  have hbehind : ∀ front x, e.shownBehind prompt s (line :: front) x =
      e.shownBehind prompt (e.dispatch s line).session front x := by
    intro front x
    unfold shownBehind
    rw [stackAfter_cons, stack_dispatch]
    rfl
  unfold shown
  rw [List.zipIdx_cons, List.flatMap_cons, List.zipIdx_succ, List.flatMap_map]
  simp only [List.take_succ_cons, hbehind]
  rfl

theorem shown_append (e : Engine) (prompt : String) (s : Session) (front back : List String) :
    e.shown prompt s (front ++ back) =
      e.shown prompt s front ++ e.shown prompt (e.sessionAfter s front) back := by
  induction front generalizing s with
  | nil => rfl
  | cons line front ih =>
    rw [List.cons_append, shown_cons, ih, shown_cons, List.cons_append, List.append_assoc]
    rfl

/-- Nothing that a line does shows a line. -/
theorem Accounts.filterMap_echoed {e : Engine} {s : Session} {line : String} {step : Step}
    (h : e.Accounts s line step) : step.events.filterMap Event.echoed = [] := by
  cases h with
  | empty | crashed => rfl
  | stackChanged => split <;> rfl
  | @completed _ p | @canceled _ p => cases p <;> rfl
  | rejected => simp [Event.echoed]
  | @failed _ p => cases p <;> simp [Plan.ran, Event.echoed]

/-- Each line is shown once, in order. -/
theorem filterMap_echoed_shown (e : Engine) (prompt : String) (s : Session) (lines : List String) :
    (e.shown prompt s lines).filterMap Event.echoed = lines := by
  induction lines generalizing s with
  | nil => rfl
  | cons line rest ih =>
    rw [shown_cons, List.filterMap_cons, List.filterMap_append, (e.accounts_dispatch s line).filterMap_echoed,
      ih]
    rfl

/-! ## One line -/

/-- What a run asks of the shell stands, canceled or not. -/
theorem exit_run (e : Engine) (s : Session) (signal : Nat) (p : Plan) :
    let s' := s.applyExit (e.respond p).exit
    (e.run s signal p).session.running = s'.running ∧ (e.run s signal p).session.exitCode = s'.exitCode := by
  unfold run
  dsimp only
  split
  · exact ⟨rfl, rfl⟩
  · cases (e.respond p).result <;> exact ⟨rfl, rfl⟩

/-- A line that makes a plan runs it; any other leaves the shell running and its exit code as they were. -/
theorem dispatch_planned_cases (e : Engine) (s : Session) (line : String) :
    (∃ p s' signal, e.planned s line = some (.ok p) ∧ e.dispatch s line = e.run s' signal p ∧
        s'.running = s.running) ∨
      ((∀ p, e.planned s line ≠ some (.ok p)) ∧ (e.dispatch s line).session.running = s.running) := by
  rcases e.dispatch_cases s line with ⟨f, ht, hd⟩ | ⟨ht, hd⟩ | ⟨tokens, ht, hc, hd⟩ |
    ⟨tokens, ht, hne, hno, hd⟩
  · rw [hd, Session.session_refuse, planned_of_error ht]
    exact Or.inr ⟨fun _ hp => (by cases hp), rfl⟩
  · have hplanned : e.planned s line = none := by
      rw [planned, ht]
      exact if_pos (Or.inl rfl)
    rw [hd, hplanned]
    exact Or.inr ⟨fun _ hp => (by cases hp), rfl⟩
  · have hplanned : e.planned s line = none := by
      rw [planned, ht]
      exact if_pos (Or.inr hc)
    rw [hd, hplanned]
    exact Or.inr ⟨fun _ hp => (by cases hp), rfl⟩
  · rw [hd, planned_of_not_controls ht hne hno]
    unfold execute
    dsimp only
    cases hp : e.plan s (s.stack ++ tokens) with
    | error r =>
      rw [Session.session_refuse]
      exact Or.inr ⟨fun _ hp => (by cases hp), rfl⟩
    | ok p => exact Or.inl ⟨p, _, _, rfl, rfl, rfl⟩

/-- The shell ends exactly on lines that ask so, with the code that they ask for. -/
theorem exit_dispatch_cases (e : Engine) (s : Session) (line : String) :
    (∃ code, e.AsksExit s line code ∧ (e.dispatch s line).session.running = false ∧
        (e.dispatch s line).session.exitCode = code) ∨
      ((∀ code, ¬e.AsksExit s line code) ∧ (e.dispatch s line).session.running = s.running) := by
  rcases e.dispatch_planned_cases s line with ⟨p, s', signal, hp, hd, hs'⟩ | ⟨hno, hd⟩
  · have hasks : ∀ code, e.AsksExit s line code ↔ (e.respond p).exit = some code := by
      intro code
      unfold AsksExit
      rw [hp]
      simp
    obtain ⟨hrunning, hcode⟩ := e.exit_run s' signal p
    rw [hd, hrunning, hcode]
    cases hexit : (e.respond p).exit with
    | none =>
      refine Or.inr ⟨fun code h => ?_, hs'⟩
      have := (hasks code).1 h
      rw [hexit] at this
      cases this
    | some code => exact Or.inl ⟨code, (hasks code).2 hexit, rfl, rfl⟩
  · exact Or.inr ⟨fun code ⟨p, hp, _⟩ => hno p hp, hd⟩

theorem Passes.running {e : Engine} {s : Session} {line : String} (h : e.Passes s line)
    (hs : s.running = true) : (e.dispatch s line).session.running = true := by
  rcases e.exit_dispatch_cases s line with ⟨code, hasks, -⟩ | ⟨-, hrunning⟩
  · exact absurd hasks (h.stays code)
  · rw [hrunning, hs]

/-! ## Runs -/

variable {e : Engine} {s : Session} {line : String}

/-- The run goes on behind a line that passes. -/
theorem runLines_of_passes (hs : s.running = true) (h : e.Passes s line) (prompt : String) (failed : Bool)
    (rest : List (Option String)) :
    e.runLines prompt s failed (some line :: rest) =
      (e.runLines prompt (e.dispatch s line).session (failed || (e.dispatch s line).outcome.isFailure)
        rest).after (.echo (promptFor prompt s.stack) line :: (e.dispatch s line).events) := by
  rw [runLines]
  unfold echoAndDispatch
  dsimp only
  split
  · next message hcrash => exact absurd hcrash (h.unbroken message)
  · rw [if_pos (h.running hs)]

/-- Lines that all pass are shown and carried out, and the run goes on behind them. -/
theorem runLines_of_allPass {ran : List String} (hs : s.running = true) (h : e.AllPass s ran)
    (prompt : String) (failed : Bool) (rest : List (Option String)) :
    (e.sessionAfter s ran).running = true ∧
    ∃ failed', (failed' = true ↔ failed = true ∨ e.Fails s ran) ∧
      e.runLines prompt s failed (ran.map some ++ rest) =
        (e.runLines prompt (e.sessionAfter s ran) failed' rest).after (e.shown prompt s ran) := by
  induction ran generalizing s failed with
  | nil => exact ⟨hs, failed, by simp [not_fails_nil], rfl⟩
  | cons line ran ih =>
    obtain ⟨hline, hran⟩ := allPass_cons.1 h
    obtain ⟨hrunning, failed', hfailed, hrun⟩ :=
      ih (hline.running hs) hran (failed || (e.dispatch s line).outcome.isFailure)
    refine ⟨hrunning, failed', ?_, ?_⟩
    · rw [hfailed, Bool.or_eq_true, fails_cons, or_assoc]
    · rw [List.map_cons, List.cons_append, runLines_of_passes hs hline, hrun, BatchRun.after_after,
        shown_cons]
      rfl

/-- Some lines of an input pass, up to its end, a line that is no text or the first line that does not. -/
theorem exists_allPass (e : Engine) (s : Session) (lines : List (Option String)) :
    ∃ ran rest, lines = ran.map some ++ rest ∧ e.AllPass s ran ∧
      (rest = [] ∨ (∃ rest', rest = none :: rest') ∨
        ∃ last rest', rest = some last :: rest' ∧ ¬e.Passes (e.sessionAfter s ran) last) := by
  induction lines generalizing s with
  | nil => exact ⟨[], [], rfl, e.allPass_nil s, Or.inl rfl⟩
  | cons first lines ih =>
    cases first with
    | none => exact ⟨[], _, rfl, e.allPass_nil s, Or.inr (Or.inl ⟨lines, rfl⟩)⟩
    | some line =>
      by_cases hline : e.Passes s line
      · obtain ⟨ran, rest, rfl, hran, hrest⟩ := ih (e.dispatch s line).session
        exact ⟨line :: ran, rest, rfl, allPass_cons.2 ⟨hline, hran⟩, hrest⟩
      · exact ⟨[], _, rfl, e.allPass_nil s, Or.inr (Or.inr ⟨line, lines, rfl, hline⟩)⟩

/-- A line that does not pass is the last one of the run. -/
theorem runLines_of_not_passes (h : ¬e.Passes s line) (prompt : String) (failed : Bool)
    (rest : List (Option String)) :
    let run := e.runLines prompt s failed (some line :: rest)
    run.events = e.shown prompt s [line] ∧ run.session = (e.dispatch s line).session ∧
      ((∃ code failed', e.AsksExit s line code ∧ run.ending = .finished failed' ∧
          run.exitCode failed' = code) ∨
        ∃ message, (e.dispatch s line).outcome = .crashed message ∧ run.ending = .crashed message) := by
  have hshown : e.shown prompt s [line] =
      .echo (promptFor prompt s.stack) line :: (e.dispatch s line).events := by
    rw [shown_cons]
    exact congrArg _ (List.append_nil _)
  rw [hshown, runLines]
  unfold echoAndDispatch
  dsimp only
  split
  · next message hcrash => exact ⟨rfl, rfl, Or.inr ⟨message, hcrash, rfl⟩⟩
  · next hcrash =>
    rcases e.exit_dispatch_cases s line with ⟨code, hasks, hrunning, hcode⟩ | ⟨hstays, -⟩
    · rw [hrunning]
      refine ⟨rfl, rfl, Or.inl ⟨code, _, hasks, rfl, ?_⟩⟩
      unfold BatchRun.exitCode Session.exitRequested
      rw [if_neg Bool.false_ne_true, hrunning]
      exact hcode
    · exact absurd ⟨hstays, hcrash⟩ h

theorem exists_stops (hs : s.running = true) (prompt : String) (lines : List (Option String)) :
    let run := e.runLines prompt s false lines
    ∃ ran rest, lines = ran.map some ++ rest ∧ e.Stops s ran rest run ∧
      run.events = e.shown prompt s ran ∧ run.session = e.sessionAfter s ran := by
  intro run
  obtain ⟨ran, rest, hlines, hpass, hrest⟩ := e.exists_allPass s lines
  obtain ⟨hrunning, failed, hfailed, hrun⟩ := runLines_of_allPass hs hpass prompt false rest
  replace hfailed : failed = true ↔ e.Fails s ran := by simpa using hfailed
  replace hrun : run = (e.runLines prompt (e.sessionAfter s ran) failed rest).after
      (e.shown prompt s ran) := by
    rw [← hrun, ← hlines]
  clear_value run
  have hevents := congrArg BatchRun.events hrun
  have hsession := congrArg BatchRun.session hrun
  have hending := congrArg BatchRun.ending hrun
  rcases hrest with rfl | ⟨rest, rfl⟩ | ⟨last, rest, rfl, hlast⟩
  · refine ⟨ran, [], hlines, .over hpass hending hfailed ?_, ?_, hsession⟩
    · unfold BatchRun.exitCode Session.exitRequested
      rw [hsession]
      change (if !(e.sessionAfter s ran).running then _ else _) = _
      rw [hrunning]
      rfl
    · rw [hevents]
      exact List.append_nil _
  · refine ⟨ran, _, hlines, .unreadable hpass hending, ?_, hsession⟩
    rw [hevents]
    exact List.append_nil _
  · obtain ⟨hevents', hsession', hstop⟩ := runLines_of_not_passes hlast prompt failed rest
    refine ⟨ran ++ [last], rest, ?_, ?_, ?_, ?_⟩
    · rw [hlines, List.map_append, List.append_assoc]
      rfl
    · rcases hstop with ⟨code, failed', hasks, hend, hcode⟩ | ⟨message, hcrash, hend⟩
      · refine .exited hpass hasks (hending.trans hend) ?_
        rw [← hcode, hrun]
        rfl
      · exact .crashed hpass hcrash (hending.trans hend)
    · rw [hevents, shown_append, ← hevents']
      rfl
    · unfold sessionAfter
      rw [hsession, List.foldl_append]
      exact hsession'

/-- **A batch run carries out the lines up to the first one that asks to end.** It shows each of them once,
in order, right before it is carried out, with the prompt of the stack that the lines before it made, and its
code is the one asked for, or else tells whether a line failed. A line that is no text stops it with an error,
and so does one that breaks the program off. The lines of a text in bytes are those of the text. -/
theorem batch_runs_lines (hs : s.running = true) (prompt : String) (input : List UInt8) :
    let run := e.runBatch prompt s input
    (∃ ran rest, inputLines input = ran.map some ++ rest ∧ e.Stops s ran rest run ∧
      run.events = e.shown prompt s ran ∧ run.events.filterMap Event.echoed = ran ∧
      run.session = e.sessionAfter s ran) ∧
    ∀ text, input = Text.encodeText text → inputLines input = (Text.lines text).map some := by
  refine ⟨?_, ?_⟩
  · obtain ⟨ran, rest, hlines, hstops, hevents, hsession⟩ := exists_stops hs prompt (inputLines input)
    refine ⟨ran, rest, hlines, hstops, hevents, ?_, hsession⟩
    unfold runBatch
    rw [hevents, filterMap_echoed_shown]
  · rintro text rfl
    exact Text.decodeBytes_cutLines text

/-- A line that fails, then one that asks to end, and one behind it. -/
theorem batch_runs_lines_exit :
    let e : Engine := { table := Builtin.table, converters := Builtin.converters }
    let s := e.start .empty
    let run := e.runBatch "> " s (Text.encodeText "connect db 70000\nexit 3\necho never\n")
    s.running = true ∧ run.ending = .finished true ∧ run.exitCode true = 3 ∧
      run.events = e.shown "> " s ["connect db 70000", "exit 3"] ∧
      run.session = e.sessionAfter s ["connect db 70000", "exit 3"] := by
  rw [Builtin.table_eq]
  intro e s run
  obtain ⟨hechoed, hending, hcode⟩ : run.events.filterMap Event.echoed = ["connect db 70000", "exit 3"] ∧
      run.ending = .finished true ∧ run.exitCode true = 3 := by decide +kernel
  obtain ⟨ran, rest, -, -, hevents, hran, hsession⟩ :=
    (batch_runs_lines (e := e) (s := s) rfl "> " (Text.encodeText "connect db 70000\nexit 3\necho never\n")).1
  obtain rfl : ["connect db 70000", "exit 3"] = ran := hechoed.symm.trans hran
  exact ⟨rfl, hending, hcode, hevents, hsession⟩

/-- A number of seconds that no duration can hold breaks the program off: the line behind it, which asks to
end with a code, is not reached. -/
theorem batch_breaks_off_sleep :
    let e : Engine := { table := Builtin.table, converters := Builtin.converters }
    let s := e.start .empty
    let run := e.runBatch "> " s (Text.encodeText "sleep 1e30\nexit 3\n")
    inputLines (Text.encodeText "sleep 1e30\nexit 3\n") = [some "sleep 1e30", some "exit 3"] ∧
      (∀ code, ¬e.AsksExit s "sleep 1e30" code) ∧
      run.ending = .crashed Duration.tooLongMessage ∧
      run.events.filterMap Event.echoed = ["sleep 1e30"] := by
  rw [Builtin.table_eq]
  intro e s run
  obtain ⟨hlines, hending, hechoed, hrunning⟩ :
      inputLines (Text.encodeText "sleep 1e30\nexit 3\n") = [some "sleep 1e30", some "exit 3"] ∧
        run.ending = .crashed Duration.tooLongMessage ∧ run.events.filterMap Event.echoed = ["sleep 1e30"] ∧
        (e.dispatch s "sleep 1e30").session.running = true := by decide +kernel
  refine ⟨hlines, ?_, hending, hechoed⟩
  rcases e.exit_dispatch_cases s "sleep 1e30" with ⟨code, -, hended, -⟩ | ⟨hstays, -⟩
  · rw [hrunning] at hended
    cases hended
  · exact hstays

end Engine
end CommandShell
