import LifePlan.CommandLine
import LifePlan.Proofs.Session.Step

/-!
# What a whole session does to the user's files

A session first opens its plan or ends (`opening_cases`); when that is so can be told without running it
(`opens`). From then on it takes inputs until it is closed, and those that come after that are not looked at
(`Reads`). So the data file holds the plan that the session left with, if it was to be saved and could be. If it
was not to be saved, the file holds what it held before; if saving failed, it does so too, or it holds the beginning
of what was to be written. The history is given to its keeper once, or not at all if the session did not come to its
first line (`run_durable`).
-/

namespace LifePlan

namespace Session

/-! ## The opening -/

/-- Whether nothing worse than a fault keeps the history from being loaded. -/
def historyOpens (setup : Setup) (store : Store) : Bool :=
  match setup.keeper.load store setup.settings.historyFile with
  | .ok _ => true
  | .error (.failure (.fault _)) => true
  | .error _ => false

/-- Whether the data file holds a plan, or there is no such file and a new one is wanted. Of the answers the
first one with a meaning counts. -/
def dataOpens (setup : Setup) (store : Store) (clock : Clock) (answers : List String) : Bool :=
  match store.search setup.settings.dataFile with
  | .error _ => false
  | .ok (some _) => (Archive.load store setup.settings.dataFile clock).toOption.isSome
  | .ok none => setup.settings.assumeYes || answers.findSome? meaning? == some true

/-- Whether the plan of a session is opened. The clock has been read twice by then. -/
def opens (setup : Setup) (store : Store) (clock : Clock) (answers : List String) : Bool :=
  historyOpens setup store && dataOpens setup store (Plan.fresh clock).2 answers

/-- A session whose plan is to be opened or not: it goes on to greet the user, or it ends otherwise than by
leaving. Before that nothing happens to files or history. -/
def Resolves (s : Session) (opened : Bool) (s' : Session) : Prop :=
  ∃ before, Frame s before ∧
    if opened = true then s' = before.greet
    else ∃ ending, ending ≠ .left true ∧ s' = before.finish ending

/-- What is resolved after a frame is resolved before it. -/
theorem Resolves.of_frame {s t s' : Session} {opened : Bool} (h : Frame s t)
    (hresolves : Resolves t opened s') : Resolves s opened s' := by
  obtain ⟨before, hframe, hcases⟩ := hresolves
  exact ⟨before, h.trans hframe, hcases⟩

/-- A session that has been greeted or has ended is not asking. -/
theorem phase_of_resolves {s s' : Session} {opened : Bool} (h : Resolves s opened s') : s'.phase ≠ .asking := by
  obtain ⟨before, -, hcases⟩ := h
  rcases opened with _ | _
  · obtain ⟨ending, -, rfl⟩ := hcases
    exact fun h => by cases h
  · obtain rfl := hcases
    rw [greet]
    rcases before.setup.isUsual with _ | isUsual
    · exact fun h => by cases h
    · exact fun h => by cases h

/-- Answers that come when nothing is asked are left. -/
theorem answerAll_of_ne {s : Session} (h : s.phase ≠ .asking) (answers : List String) :
    s.answerAll answers = (s, answers) := by
  rcases answers with _ | ⟨a, answers⟩
  · rw [answerAll, if_neg h]
  · rw [answerAll, if_neg h]

/-- A session that has ended before its plan was opened stays as it is. -/
theorem resolves_finish (s : Session) {ending : Ending} (hending : ending ≠ .left true)
    (answers : List String) : Resolves s false ((s.finish ending).answerAll answers).1 := by
  have hresolves : Resolves s false (s.finish ending) := ⟨s, .refl s, ending, hending, rfl⟩
  rw [answerAll_of_ne (phase_of_resolves hresolves)]
  exact hresolves

/-- A session that has been greeted asks no more. -/
theorem resolves_greet (s : Session) (answers : List String) :
    Resolves s true (s.greet.answerAll answers).1 := by
  have hresolves : Resolves s true s.greet := ⟨s, .refl s, rfl⟩
  rw [answerAll_of_ne (phase_of_resolves hresolves)]
  exact hresolves

/-- **The question is settled by the first answer that means something**, and in the negative if there is
none. -/
theorem resolves_answerAll {s : Session} (h : s.phase = .asking) (answers : List String) :
    Resolves s (answers.findSome? meaning? == some true) (s.answerAll answers).1 := by
  induction answers generalizing s with
  | nil =>
    rw [answerAll, if_pos h]
    exact ⟨s, .refl s, .escaped .endOfAnswers, (fun h => by cases h), rfl⟩
  | cons a answers ih =>
    rw [answerAll, if_pos h, List.findSome?_cons, answer]
    -- an answer without a meaning leaves the session asking; the other two settle the question
    rcases meaning? a with _ | _ | _
    · have hframe : Frame s (s.display .yesOrNo).ask := (frame_display s _).trans <|
        (frame_phase _ .asking).trans (frame_display _ _)
      exact (ih rfl).of_frame hframe
    · exact resolves_finish s (fun h => by cases h) answers
    · exact resolves_greet s answers

/-- Whether the plan can be opened is decided by the data file, the settings and the answers. -/
theorem resolves_openPlan {s t : Session} (hframe : Frame s t) {clock : Clock}
    (hclock : t.interpreter.clock = clock) (answers : List String) :
    Resolves s (dataOpens s.setup s.store clock answers) (t.openPlan.answerAll answers).1 := by
  have hresolves : Resolves t (dataOpens t.setup t.store clock answers) (t.openPlan.answerAll answers).1 := by
    rw [openPlan, dataOpens, settings, hclock]
    rcases t.store.search t.setup.settings.dataFile with trouble | _ | entry
    · exact resolves_finish t (fun h => by cases h) answers
    · simp only
      by_cases hyes : t.setup.settings.assumeYes = true
      · rw [if_pos hyes, hyes, Bool.true_or]
        exact resolves_greet t answers
      · rw [if_neg hyes, Bool.eq_false_iff.mpr hyes, Bool.false_or]
        have hask : Frame t t.ask := (frame_phase t .asking).trans (frame_display _ _)
        exact (resolves_answerAll rfl answers).of_frame hask
    · simp only
      rcases Archive.load t.store t.setup.settings.dataFile clock with cause | ⟨plan, clock⟩
      · exact resolves_finish t (fun h => by cases h) answers
      · have hloaded := frame_interpreter t { t.interpreter with plan := plan, clock := clock }
        exact (resolves_greet _ answers).of_frame hloaded
  rw [hframe.setup, hframe.store] at hresolves
  exact hresolves.of_frame hframe

/-- A session before anything has happened. -/
def new (setup : Setup) (store : Store) (clock : Clock) : Session :=
  ⟨setup, store, ⟨(Plan.fresh clock).1, (Plan.fresh clock).2, none, some []⟩, .reading, []⟩

/-- A session when the question, if it is put, has been answered. -/
def opening (setup : Setup) (store : Store) (clock : Clock) (answers : List String) : Session :=
  ((start setup store clock).answerAll answers).1

/-- **A session is opened or ends**, and which of the two is known before it starts. -/
theorem resolves_opening (setup : Setup) (store : Store) (clock : Clock) (answers : List String) :
    Resolves (new setup store clock) (opens setup store clock answers)
      (opening setup store clock answers) := by
  have hbegin : start setup store clock = (new setup store clock).begin := rfl
  rw [opening, opens, historyOpens, hbegin, begin]
  have hkeeper : (new setup store clock).setup.keeper.load (new setup store clock).store
      (new setup store clock).settings.historyFile =
        setup.keeper.load store setup.settings.historyFile := rfl
  rw [hkeeper]
  rcases setup.keeper.load store setup.settings.historyFile with cause | lines
  · rcases cause with (fault | misuse) | _ | _ | _ | _ | message
    · simp only [Bool.true_and]
      exact resolves_openPlan (frame_display _ _) rfl answers
    all_goals
      simp only [Bool.false_and]
      exact resolves_finish (new setup store clock) (fun h => by cases h) answers
  · have hloaded := frame_interpreter (new setup store clock)
      { (new setup store clock).interpreter with
        history := (new setup store clock).interpreter.history.map (· ++ lines) }
    simp only [Bool.true_and]
    exact resolves_openPlan hloaded rfl answers

/-- The session as the greeting leaves it: it asks for the first line, if it is known where the usual files are,
and otherwise it has ended. -/
theorem greet_cases (s : Session) :
    (s.setup.isUsual.isSome = true ∧ ∃ s', Frame s s' ∧ s.greet = s'.promptNext) ∨
      (s.setup.isUsual.isSome = false ∧ s.greet = s.finish (.escaped .homeless)) := by
  rw [greet]
  rcases s.setup.isUsual with _ | isUsual
  · exact .inr ⟨rfl, rfl⟩
  · exact .inl ⟨rfl, _, frame_display s _, rfl⟩

/-- Whether the session comes to its first line: its plan is opened and the user is greeted. -/
def begins (setup : Setup) (store : Store) (clock : Clock) (answers : List String) : Bool :=
  opens setup store clock answers && setup.isUsual.isSome

/-- **The opening changes no file and keeps no history.** After it the session has asked for the first line, or
it has ended otherwise than by leaving. -/
theorem opening_cases (setup : Setup) (store : Store) (clock : Clock) (answers : List String) :
    let s := opening setup store clock answers
    s.setup = setup ∧ s.store = store ∧ s.timesKept = 0 ∧
      ((begins setup store clock answers = true ∧ s.phase = .reading ∧ s.timesAsked = 1) ∨
        (begins setup store clock answers = false ∧ s.timesAsked = 0 ∧
          ∃ ending, ending ≠ .left true ∧ s.phase = .ended ending)) := by
  intro s
  obtain ⟨before, hframe, hcases⟩ := resolves_opening setup store clock answers
  have hkept : before.timesKept = 0 := hframe.kept
  have hasked : before.timesAsked = 0 := hframe.asked
  change if opens setup store clock answers = true then s = before.greet
    else ∃ ending, ending ≠ .left true ∧ s = before.finish ending at hcases
  rw [begins]
  by_cases hopens : opens setup store clock answers = true
  · rw [if_pos hopens] at hcases
    rw [hcases, hopens, Bool.true_and]
    rcases greet_cases before with ⟨husual, s', hgreeted, hgreet⟩ | ⟨husual, hgreet⟩
    · rw [hframe.setup] at husual
      rw [hgreet]
      refine ⟨hgreeted.setup.trans hframe.setup, hgreeted.store.trans hframe.store, ?_,
        .inl ⟨husual, rfl, ?_⟩⟩
      · exact (timesKept_note _ _).trans (hgreeted.kept.trans hkept)
      · exact (timesAsked_note _ _).trans (congrArg (· + 1) (hgreeted.asked.trans hasked))
    · rw [hframe.setup] at husual
      rw [hgreet]
      exact ⟨hframe.setup, hframe.store, hkept,
        .inr ⟨husual, hasked, .escaped .homeless, (fun h => by cases h), rfl⟩⟩
  · rw [if_neg hopens] at hcases
    obtain ⟨ending, hending, hfinish⟩ := hcases
    rw [hfinish, Bool.eq_false_iff.mpr hopens, Bool.false_and]
    exact ⟨hframe.setup, hframe.store, hkept, .inr ⟨rfl, hasked, ending, hending, rfl⟩⟩

/-! ## The inputs -/

/-- The inputs that take a session to its end: each of them comes when a line is asked for, and none comes
after the last. -/
inductive Reads : Session → List Input → Session → Prop
  | stop {s : Session} (h : s.phase ≠ .reading) : Reads s [] s
  | next {s s' : Session} {i : Input} {inputs : List Input} (h : s.phase = .reading)
      (hrest : Reads (s.react i) inputs s') : Reads s (i :: inputs) s'

/-- A session that asks for no line takes no input. -/
theorem Reads.of_ne {s s' : Session} {inputs : List Input} (h : Reads s inputs s')
    (hphase : s.phase ≠ .reading) : inputs = [] ∧ s' = s := by
  cases h with
  | stop => exact ⟨rfl, rfl⟩
  | next hreading => exact absurd hreading hphase

/-- What comes after the inputs that were read is left as it is. -/
theorem Reads.readAll_append {s s' : Session} {inputs : List Input} (h : Reads s inputs s')
    (others : List Input) : s.readAll (inputs ++ others) = (s', others) := by
  induction h with
  | stop hphase =>
    rcases others with _ | ⟨i, others⟩
    · rw [List.nil_append, readAll, if_neg hphase]
    · rw [List.nil_append, readAll, if_neg hphase]
  | next hphase hrest ih => rw [List.cons_append, readAll, if_pos hphase, ih]

/-- A closed session has ended. -/
theorem phase_close (s : Session) (ending : Ending) : (s.close ending).phase ≠ .reading := by
  rw [close]
  exact fun h => by cases h

/-- **A script is read up to the input that ends the session**, or to its end and the end of input. -/
theorem reads_readAll (s : Session) (script : List Input) :
    ∃ inputs, Reads s inputs (s.readAll script).1 ∧
      (script = inputs ++ (s.readAll script).2 ∨
        inputs = script ++ [.endOfInput] ∧ (s.readAll script).2 = []) := by
  induction script generalizing s with
  | nil =>
    rw [readAll]
    by_cases hphase : s.phase = .reading
    · rw [if_pos hphase]
      exact ⟨[.endOfInput], .next hphase (.stop (phase_close _ _)), .inr ⟨rfl, rfl⟩⟩
    · rw [if_neg hphase]
      exact ⟨[], .stop hphase, .inl rfl⟩
  | cons i script ih =>
    rw [readAll]
    by_cases hphase : s.phase = .reading
    · rw [if_pos hphase]
      obtain ⟨inputs, hreads, hscript⟩ := ih (s.react i)
      refine ⟨i :: inputs, .next hphase hreads, ?_⟩
      rcases hscript with hscript | ⟨hscript, hrest⟩
      · exact .inl (congrArg (i :: ·) hscript)
      · exact .inr ⟨congrArg (i :: ·) hscript, hrest⟩
    · rw [if_neg hphase]
      exact ⟨[], .stop hphase, .inl rfl⟩

/-- **A session that reads to its end settles what becomes of the data file**, gives the history to its keeper
once, and asks for as many lines as there are inputs, the first of which it has asked for already. -/
theorem settles_reads {s s' : Session} {inputs : List Input} (h : Reads s inputs s')
    (hphase : s.phase = .reading) (hspares : s.setup.SparesData) :
    Settles s.store s' ∧ s'.setup = s.setup ∧ s'.timesKept = s.timesKept + 1 ∧
      s'.timesAsked + 1 = s.timesAsked + inputs.length := by
  induction h with
  | stop hended => exact absurd hphase hended
  | @next s s' i inputs _ hrest ih =>
    obtain ⟨before, hframe, hcases⟩ := react_cases s i
    have hbefore : before.setup.SparesData := by
      rw [hframe.setup]
      exact hspares
    -- either the next line is asked for, and the rest is read as before, or no more is read
    rcases hcases with hnext | ⟨ending, hclose⟩
    · rw [hnext] at ih
      obtain ⟨hsettles, hsetup, hkept, hasked⟩ := ih rfl hbefore
      have hkeptNext : before.promptNext.timesKept = before.timesKept := timesKept_note _ _
      have haskedNext : before.promptNext.timesAsked = before.timesAsked + 1 := timesAsked_note _ _
      rw [hkeptNext, hframe.kept] at hkept
      rw [haskedNext, hframe.asked] at hasked
      refine ⟨?_, hsetup.trans hframe.setup, hkept, ?_⟩
      · rw [← hframe.store]
        exact hsettles
      · rw [hasked, List.length_cons]
        omega
    · rw [hclose] at hrest
      obtain ⟨rfl, rfl⟩ := hrest.of_ne (phase_close before ending)
      obtain ⟨hsettles, hsetup, hkept, hasked⟩ := settles_close hbefore ending
      rw [hframe.store] at hsettles
      refine ⟨hsettles, hsetup.trans hframe.setup, ?_, ?_⟩
      · rw [hkept, hframe.kept]
      · rw [hasked, hframe.asked]
        rfl

/-! ## History and data side by side -/

/-- To keep the history in a file does not touch the data file, if the two names never lead to the same
place. -/
theorem sparesData_fileKeeper {setup : Setup} (hkeeper : setup.keeper = fileKeeper)
    (hapart : ∀ store : Store, (store.locate setup.settings.dataFile).toOption ≠
      (store.locate setup.settings.historyFile).toOption) : setup.SparesData := by
  intro before lines
  rw [hkeeper]
  change (Store.left (HistoryFile.save before setup.settings.historyFile lines)).find? _ = _
  have hwrite : (Store.left (Archive.write before (.history "save") setup.settings.historyFile
      (HistoryFile.print lines))).find? setup.settings.dataFile = before.find? setup.settings.dataFile := by
    rw [Archive.left_write]
    exact Store.find?_left_write_of_ne before _ (hapart before)
  unfold HistoryFile.save
  split
  · split
    · rfl
    · exact hwrite
  · rfl

/-- A session with both files in the directory where the program runs, in which a new plan is made without
asking. -/
def sideBySide (isUsual : Option Bool) : Setup :=
  ⟨⟨⟨0, ["plan.dat"]⟩, ⟨0, ["plan.his"]⟩, ⟨0, ["lipla.xml"]⟩, "WARNING", true, true⟩, isUsual, fileKeeper⟩

/-- The two files are apart. -/
theorem sparesData_sideBySide (isUsual : Option Bool) : (sideBySide isUsual).SparesData := by
  refine sparesData_fileKeeper rfl fun store => ?_
  have hdata : store.locate ⟨0, ["plan.dat"]⟩ = .ok ["plan.dat"] := rfl
  have hhistory : store.locate ⟨0, ["plan.his"]⟩ = .ok ["plan.his"] := rfl
  change (store.locate ⟨0, ["plan.dat"]⟩).toOption ≠ (store.locate ⟨0, ["plan.his"]⟩).toOption
  rw [hdata, hhistory]
  decide

/-! ## Whole sessions -/

/-- After the opening, the inputs that are read settle everything else. -/
theorem settles_of_reads {setup : Setup} (hspares : setup.SparesData) {store : Store} {clock : Clock}
    {answers : List String} {inputs : List Input} {s : Session}
    (h : Reads (opening setup store clock answers) inputs s) :
    Settles store s ∧ s.setup = setup ∧
      s.timesKept = (if begins setup store clock answers then 1 else 0) ∧ s.timesAsked = inputs.length := by
  obtain ⟨hsetup, hstore, hkept, ⟨hbegins, hphase, hasked⟩ | ⟨hbegins, hasked, ending, hending, hphase⟩⟩ :=
    opening_cases setup store clock answers
  · rw [← hsetup] at hspares
    obtain ⟨hsettles, hsetup', hkept', hasked'⟩ := settles_reads h hphase hspares
    rw [hstore] at hsettles
    refine ⟨hsettles, hsetup'.trans hsetup, ?_, by omega⟩
    rw [hkept', hkept, hbegins, if_pos rfl]
  · have hended : (opening setup store clock answers).phase ≠ .reading := by
      rw [hphase]
      exact fun h => by cases h
    obtain ⟨rfl, rfl⟩ := h.of_ne hended
    refine ⟨.untouched ending hphase hending ?_, hsetup, ?_, hasked⟩
    · rw [hstore]
    · rw [hkept, hbegins, if_neg Bool.false_ne_true]

/-- **What a whole session leaves behind**, if keeping the history does not touch the data file.

The session ends. If it ends with a plan that is to be saved, the history is given to its keeper, which leaves the
data file as it was, and then the plan is saved and is loaded as it was held; or saving it failed, and the data file
is as it was before or holds the beginning of what was to be written. If the session ends in any other way, the data
file is as it was before. The history is given to its keeper once if the session came to its first line, and never
otherwise. As many inputs are taken as lines were asked for, and what comes after them makes no difference. -/
theorem run_durable {setup : Setup} (hspares : setup.SparesData) (store : Store) (clock : Clock)
    (answers : List String) (script : List Input) :
    let file := setup.settings.dataFile
    let final := (run setup store clock answers script).1
    let rest := (run setup store clock answers script).2
    let kept := final.keptFrom store
    (∃ ending, final.phase = .ended ending) ∧
    (final.phase = .ended (.left true) →
      kept.find? file = store.find? file ∧
        (Archive.save kept file final.interpreter.plan = .ok final.store ∧
            (∀ later, Archive.load final.store file later = .ok (final.interpreter.plan, later)) ∨
          (∃ fault, Archive.save kept file final.interpreter.plan = .error (.fault fault, final.store)) ∧
            (final.store.find? file = store.find? file ∨
              ∃ length, final.store.read file =
                .ok ((Archive.encode final.interpreter.plan.write).extract 0 length)))) ∧
    (final.phase ≠ .ended (.left true) → final.store.find? file = store.find? file) ∧
    final.timesKept = (if begins setup store clock answers then 1 else 0) ∧
    ∃ inputs,
      (script = inputs ++ rest ∨ inputs = script ++ [.endOfInput] ∧ rest = []) ∧
        final.timesAsked = inputs.length ∧
          ∀ others, run setup store clock answers (inputs ++ others) = (final, others) := by
  intro file final rest kept
  obtain ⟨inputs, hreads, hinputs⟩ := reads_readAll (opening setup store clock answers) script
  change Reads _ inputs final at hreads
  change script = inputs ++ rest ∨ inputs = script ++ [.endOfInput] ∧ rest = [] at hinputs
  obtain ⟨hsettles, hsetup, hkept, hasked⟩ := settles_of_reads hspares hreads
  have hfile : final.settings.dataFile = file := congrArg (·.settings.dataFile) hsetup
  have hbefore : kept.find? file = store.find? file := by
    change (final.keptFrom store).find? file = _
    rw [keptFrom, settings, hsetup]
    exact hspares store final.history
  have hothers : ∀ others, run setup store clock answers (inputs ++ others) = (final, others) :=
    fun others => hreads.readAll_append others
  cases hsettles with
  | saved hphase hsave =>
    rw [hfile] at hsave
    refine ⟨⟨_, hphase⟩, fun _ => ⟨hbefore, .inl ⟨hsave, Archive.load_of_save hsave⟩⟩,
      fun hne => absurd hphase hne, hkept, inputs, hinputs, hasked, hothers⟩
  | unsaved fault hphase hsave =>
    rw [hfile] at hsave
    refine ⟨⟨_, hphase⟩, fun _ => ⟨hbefore, .inr ⟨⟨fault, hsave⟩, ?_⟩⟩, fun hne => absurd hphase hne, hkept,
      inputs, hinputs, hasked, hothers⟩
    rcases Archive.write_eq_error hsave with hsame | hbeginning
    · exact .inl (hsame ▸ hbefore)
    · exact .inr hbeginning
  | untouched ending hphase hending hdata =>
    rw [hfile] at hdata
    refine ⟨⟨_, hphase⟩, fun hleft => ?_, fun _ => hdata, hkept, inputs, hinputs, hasked, hothers⟩
    exact absurd (Phase.ended.inj (hphase.symm.trans hleft)) hending

/-- A session that is left with its plan: it is saved and loaded as it was held, the history was given to its
keeper once, and the last of the three lines is not read. -/
theorem run_durable_exit :
    let final := (run (sideBySide (some false)) .empty ⟨⟨0, 0⟩⟩ []
      [.line "add goal walk", .line "exit", .line "exit!"]).1
    (sideBySide (some false)).SparesData ∧ final.phase = .ended (.left true) ∧
      (∀ later, Archive.load final.store ⟨0, ["plan.dat"]⟩ later = .ok (final.interpreter.plan, later)) ∧
        final.timesKept = 1 ∧
          ∃ inputs, final.timesAsked = inputs.length ∧ ∀ others,
            run (sideBySide (some false)) .empty ⟨⟨0, 0⟩⟩ [] (inputs ++ others) = (final, others) := by
  intro final
  have hspares := sparesData_sideBySide (some false)
  have hphase : final.phase = .ended (.left true) := by decide
  obtain ⟨-, hleft, -, hkept, inputs, -, hasked, hothers⟩ := run_durable hspares .empty ⟨⟨0, 0⟩⟩ []
    [.line "add goal walk", .line "exit", .line "exit!"]
  refine ⟨hspares, hphase, ?_, hkept, inputs, hasked, hothers⟩
  obtain ⟨-, ⟨-, hload⟩ | ⟨⟨fault, hfault⟩, -⟩⟩ := hleft hphase
  · exact hload
  · cases hfault

/-- A disk that becomes full behind three bytes of the data file: the session ends as it was to end, and these bytes
are what is left. -/
example :
    let full : Store :=
      { Store.empty with
        disk := fun place _ => if place = ["plan.dat"] then .cut 3 "No space left on device" else .taken }
    let final := (run (sideBySide (some false)) full ⟨⟨0, 0⟩⟩ [] [.line "exit"]).1
    final.phase = .ended (.left true) ∧
      (final.store.read ⟨0, ["plan.dat"]⟩).toOption = some (Archive.encode "\x7b\n ".toList) := by
  decide +kernel

/-- Where it is not known which files are the usual ones, the session ends at the greeting: its plan has been
opened, and its history is not kept. -/
theorem opens_not_kept :
    (sideBySide none).SparesData ∧ opens (sideBySide none) .empty ⟨⟨0, 0⟩⟩ [] = true ∧
      (run (sideBySide none) .empty ⟨⟨0, 0⟩⟩ [] [.line "exit"]).1.phase = .ended (.escaped .homeless) ∧
        (run (sideBySide none) .empty ⟨⟨0, 0⟩⟩ [] [.line "exit"]).1.timesKept = 0 :=
  ⟨sparesData_sideBySide none, by decide, by decide, by decide⟩

end Session

end LifePlan
