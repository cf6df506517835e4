import LifePlan.Proofs.Interpreter.Alike
import LifePlan.Proofs.Session.Durability

/-!
# Inputs that may be left out

Two sessions that differ at most in their histories and in what they have shown react alike to every input
(`alike_react`). So the inputs that leave nothing behind may be left out of a script (`Thinned`): lines without
a trace, lines without text while a description is awaited, and a change that is given up, with all that came in
between. Which they are is told by the session with the whole script. The session with the thinned script ends
in the same way and with the same plan (`run_thinned`).
-/

namespace LifePlan

/-- A keeper is impartial if it is not a matter of the lines whether it is misuse to keep them under some name. -/
def Keeper.Impartial (keeper : Keeper) : Prop :=
  ∀ store file lines lines' misuse,
    (∃ left, keeper.save store file lines = .error (.misuse misuse, left)) →
      ∃ left, keeper.save store file lines' = .error (.misuse misuse, left)

/-- A history file is misused if and only if there is room for it and its name has a null character. -/
theorem HistoryFile.save_eq_misuse {s : Store} {file : FileName} {lines : List String} {misuse : Misuse} :
    (∃ left, save s file lines = .error (.misuse misuse, left)) ↔
      hasRoom s file = true ∧ file.hasNull = true ∧ misuse = .nullInName := by
  have hwrite := @Archive.write_eq_misuse s (.history "save") file (print lines) misuse
  rw [save]
  by_cases hroom : hasRoom s file = true
  · rw [if_pos hroom, ← hwrite]
    split
    · next hfailed => simp [hroom, hfailed]
    · simp [hroom]
  · simp [hroom]

/-- It is not a matter of the lines whether a history file is misused. -/
theorem impartial_fileKeeper : fileKeeper.Impartial :=
  fun _ _ _ _ _ hsave => HistoryFile.save_eq_misuse.mpr (HistoryFile.save_eq_misuse.mp hsave)

namespace Session

variable {s t : Session}

/-! ## Sessions that are alike -/

/-- Two sessions differ at most in the lines of their histories and in what they have shown; their files are the
same as long as they read. -/
structure Alike (s t : Session) : Prop where
  setup : t.setup = s.setup
  phase : t.phase = s.phase
  interpreter : s.interpreter.Alike t.interpreter
  store : s.phase = .reading → t.store = s.store

/-- Every session is like itself. -/
theorem Alike.refl (s : Session) : Alike s s := ⟨rfl, rfl, .refl s.interpreter, fun _ => rfl⟩

/-- The same holds the other way round. -/
theorem Alike.symm (h : Alike s t) : Alike t s :=
  ⟨h.setup.symm, h.phase.symm, h.interpreter.symm, fun hphase => (h.store (h.phase.symm.trans hphase)).symm⟩

/-- What is like a session that is like another one is like that. -/
theorem Alike.trans {u : Session} (h : Alike s t) (h' : Alike t u) : Alike s u :=
  ⟨h'.setup.trans h.setup, h'.phase.trans h.phase, h.interpreter.trans h'.interpreter,
    fun hphase => (h'.store (h.phase.trans hphase)).trans (h.store hphase)⟩

/-- What is shown makes no difference. -/
theorem alike_display (s : Session) (d : Display) : s.Alike (s.display d) :=
  ⟨rfl, rfl, .refl s.interpreter, fun _ => rfl⟩

/-- However much is shown makes no difference. -/
theorem alike_displays (s : Session) (ds : List Display) : s.Alike (ds.foldl display s) := by
  induction ds generalizing s with
  | nil => exact .refl s
  | cons d ds ih => exact (alike_display s d).trans (ih (s.display d))

/-- An interpreter that is like the one before makes no difference. -/
theorem alike_interpreter {interpreter : Interpreter} (h : s.interpreter.Alike interpreter) :
    s.Alike { s with interpreter := interpreter } := ⟨rfl, rfl, h, fun _ => rfl⟩

/-- A session that reads makes no difference when it asks for the next line. -/
theorem alike_promptNext (hreading : s.phase = .reading) : s.Alike s.promptNext :=
  ⟨rfl, hreading.symm, .refl s.interpreter, fun _ => rfl⟩

/-! ## The end -/

/-- What becomes of an ending when something was to be written: it is another one only if that was misuse. -/
def endingOf (ending : Ending) : Except (Failure × Store) Store → Ending
  | .error (.misuse misuse, _) => .escaped (.failure (.misuse misuse))
  | _ => ending

/-- Without misuse the ending stays. -/
theorem endingOf_eq_self {ending : Ending} {result : Except (Failure × Store) Store}
    (h : ∀ misuse left, result ≠ .error (.misuse misuse, left)) : endingOf ending result = ending := by
  rcases result with ⟨fault | misuse, left⟩ | store
  · rfl
  · exact absurd rfl (h misuse left)
  · rfl

/-- What becomes of an ending depends only on what is misuse. -/
theorem endingOf_congr {ending : Ending} {result result' : Except (Failure × Store) Store}
    (h : ∀ misuse, (∃ left, result = .error (.misuse misuse, left)) ↔
      ∃ left, result' = .error (.misuse misuse, left)) :
    endingOf ending result = endingOf ending result' := by
  by_cases hmisuse : ∃ misuse left, result = .error (.misuse misuse, left)
  · obtain ⟨misuse, left, hresult⟩ := hmisuse
    obtain ⟨left', hresult'⟩ := (h misuse).mp ⟨left, hresult⟩
    rw [hresult, hresult']
    rfl
  · rw [endingOf_eq_self fun misuse left hresult => hmisuse ⟨misuse, left, hresult⟩]
    refine (endingOf_eq_self fun misuse left hresult' => ?_).symm
    exact hmisuse ⟨misuse, (h misuse).mpr ⟨left, hresult'⟩⟩

/-- To save the history changes the files and the ending. -/
theorem saveHistory_eq (s : Session) (ending : Ending) :
    ∃ store transcript,
      s.saveHistory ending =
        ({ s with store := store, transcript := transcript },
          endingOf ending (s.setup.keeper.save s.store s.settings.historyFile s.history)) := by
  rw [saveHistory]
  rcases s.setup.keeper.save s.store s.settings.historyFile s.history with ⟨fault | misuse, store⟩ | store
  · exact ⟨_, _, rfl⟩
  · exact ⟨_, _, rfl⟩
  · exact ⟨_, _, rfl⟩

/-- So does to save the plan. -/
theorem savePlan_eq (s : Session) (ending : Ending) :
    ∃ store transcript,
      s.savePlan ending =
        ({ s with store := store, transcript := transcript },
          endingOf ending (Archive.save s.store s.settings.dataFile s.interpreter.plan)) := by
  rw [savePlan]
  rcases Archive.save s.store s.settings.dataFile s.interpreter.plan with ⟨fault | misuse, store⟩ | store
  · exact ⟨_, _, rfl⟩
  · exact ⟨_, _, rfl⟩
  · exact ⟨_, _, rfl⟩

/-- How a session ends that is closed: an exit becomes another ending if the plan is saved under a name that is
none. -/
def closing (s : Session) (ending : Ending) : Ending :=
  let kept := endingOf ending (s.setup.keeper.save s.store s.settings.historyFile s.history)
  if kept = .left true ∧ s.settings.dataFile.hasNull then .escaped (.failure (.misuse .nullInName)) else kept

/-- **To close a session ends it**, and changes neither what it was set up with nor its interpreter. -/
theorem close_eq (s : Session) (ending : Ending) :
    ∃ store transcript,
      s.close ending =
        { s with store := store, transcript := transcript, phase := .ended (s.closing ending) } := by
  obtain ⟨store, transcript, hhistory⟩ := s.saveHistory_eq ending
  rw [close, hhistory, closing]
  generalize endingOf ending (s.setup.keeper.save s.store s.settings.historyFile s.history) = kept
  by_cases hleft : kept = .left true
  · obtain ⟨store', transcript', hplan⟩ := savePlan_eq { s with store := store, transcript := transcript } kept
    refine ⟨store', transcript', ?_⟩
    simp only [if_pos hleft, hplan]
    -- whether saving is misuse is told by the name alone, whatever the files are by now
    have hmisuse (misuse : Misuse) :
        (∃ left, Archive.save store s.settings.dataFile s.interpreter.plan = .error (.misuse misuse, left)) ↔
          s.settings.dataFile.hasNull = true ∧ misuse = .nullInName := Archive.write_eq_misuse
    by_cases hnull : s.settings.dataFile.hasNull = true
    · rw [if_pos ⟨hleft, hnull⟩]
      obtain ⟨left, hsave⟩ := (hmisuse .nullInName).mpr ⟨hnull, rfl⟩
      change finish _ (endingOf kept (Archive.save store s.settings.dataFile s.interpreter.plan)) = _
      rw [hsave]
      rfl
    · rw [if_neg fun h => hnull h.2]
      have hsave (misuse : Misuse) (left : Store) :
          Archive.save store s.settings.dataFile s.interpreter.plan ≠ .error (.misuse misuse, left) :=
        fun h => hnull ((hmisuse misuse).mp ⟨left, h⟩).1
      change finish _ (endingOf kept (Archive.save store s.settings.dataFile s.interpreter.plan)) = _
      rw [endingOf_eq_self hsave]
      rfl
  · refine ⟨store, transcript, ?_⟩
    simp only [if_neg hleft, if_neg fun h : kept = .left true ∧ _ => hleft h.1]
    rfl

/-- Sessions that are alike are closed alike. -/
theorem alike_close (h : s.Alike t) (hreading : s.phase = .reading) (himpartial : s.setup.keeper.Impartial)
    (ending : Ending) : (s.close ending).Alike (t.close ending) := by
  have hclosing : t.closing ending = s.closing ending := by
    have hkept : endingOf ending (t.setup.keeper.save t.store t.settings.historyFile t.history) =
        endingOf ending (s.setup.keeper.save s.store s.settings.historyFile s.history) := by
      rw [settings, settings, h.setup, h.store hreading]
      exact endingOf_congr fun misuse =>
        ⟨himpartial _ _ _ _ misuse, himpartial _ _ _ _ misuse⟩
    rw [closing, closing, hkept, settings, settings, h.setup]
  obtain ⟨store, transcript, hs⟩ := s.close_eq ending
  obtain ⟨store', transcript', ht⟩ := t.close_eq ending
  rw [hs, ht, hclosing]
  exact ⟨h.setup, rfl, h.interpreter, fun hphase => by cases hphase⟩

/-! ## Alike sessions react alike -/

/-- After a line sessions that are alike go on alike. -/
theorem alike_proceed (h : s.Alike t) (hreading : s.phase = .reading) (himpartial : s.setup.keeper.Impartial)
    (outcome : Except Failure Outcome) : (s.proceed outcome).Alike (t.proceed outcome) := by
  have hnext : s.promptNext.Alike t.promptNext := by
    have ht := alike_promptNext (h.phase.trans hreading)
    exact ((alike_promptNext hreading).symm.trans h).trans ht
  have hclose := alike_close h hreading himpartial
  rcases outcome with failure | outcome
  · exact hclose _
  · cases outcome with
    | «continue» => exact hnext
    | awaitingDescription => exact hnext
    | exitSave => exact hclose _
    | exitNoSave => exact hclose _

/-- **Sessions that are alike react alike** to every input. -/
theorem alike_react (h : s.Alike t) (hreading : s.phase = .reading) (himpartial : s.setup.keeper.Impartial)
    (i : Input) : (s.react i).Alike (t.react i) := by
  have hgap : (s.display .gap).Alike (t.display .gap) :=
    ((alike_display s .gap).symm.trans h).trans (alike_display t .gap)
  cases i with
  | line text =>
    have hreply := Interpreter.alike_feedInto h.interpreter s.setup.keeper.keeps text
    have hkeeper : t.setup.keeper = s.setup.keeper := congrArg Setup.keeper h.setup
    rw [react, react, hkeeper]
    generalize s.interpreter.feedInto s.setup.keeper.keeps text = reply at hreply
    generalize t.interpreter.feedInto s.setup.keeper.keeps text = reply' at hreply
    simp only [hreply.outcome, hreply.shown]
    have hstates : Alike { s with interpreter := reply.state } { t with interpreter := reply'.state } :=
      ⟨h.setup, h.phase, hreply.state, h.store⟩
    have hshown : Alike (reply.shown.foldl display { s with interpreter := reply.state })
        (reply.shown.foldl display { t with interpreter := reply'.state }) :=
      ((alike_displays _ _).symm.trans hstates).trans (alike_displays _ _)
    have hdisplays := alike_displays { s with interpreter := reply.state } reply.shown
    refine alike_proceed hshown (hdisplays.phase.trans hreading) ?_ reply.outcome
    rw [hdisplays.setup]
    exact himpartial
  | interrupt =>
    rw [react, react, h.interpreter.pending]
    by_cases hpending : s.interpreter.pending.isSome = true
    · rw [if_pos hpending, if_pos hpending]
      have hcancel : Alike { s.display .gap with interpreter := s.interpreter.cancel }
          { t.display .gap with interpreter := t.interpreter.cancel } :=
        ⟨h.setup, h.phase, h.interpreter.cancel, h.store⟩
      exact alike_proceed hcancel hreading himpartial (.ok .continue)
    · rw [if_neg hpending, if_neg hpending]
      exact alike_close hgap hreading himpartial _
  | endOfInput => exact alike_close hgap hreading himpartial _
  | broken message => exact alike_close h hreading himpartial _

/-- No input changes what the session was set up with. -/
theorem setup_react (s : Session) (i : Input) : (s.react i).setup = s.setup := by
  obtain ⟨s', hframe, hnext | ⟨ending, hclose⟩⟩ := react_cases s i
  · rw [hnext]
    exact hframe.setup
  · obtain ⟨store, transcript, hclosed⟩ := s'.close_eq ending
    rw [hclose, hclosed]
    exact hframe.setup

/-- Sessions that are alike read the same script alike, and leave the same inputs. -/
theorem alike_readAll_self (h : s.Alike t) (himpartial : s.setup.keeper.Impartial) (script : List Input) :
    (s.readAll script).1.Alike (t.readAll script).1 ∧ (s.readAll script).2 = (t.readAll script).2 := by
  induction script generalizing s t with
  | nil =>
    rw [readAll, readAll, h.phase]
    by_cases hreading : s.phase = .reading
    · rw [if_pos hreading, if_pos hreading]
      exact ⟨alike_react h hreading himpartial .endOfInput, rfl⟩
    · rw [if_neg hreading, if_neg hreading]
      exact ⟨h, rfl⟩
  | cons i script ih =>
    rw [readAll, readAll, h.phase]
    by_cases hreading : s.phase = .reading
    · rw [if_pos hreading, if_pos hreading]
      refine ih (alike_react h hreading himpartial i) ?_
      rw [setup_react]
      exact himpartial
    · rw [if_neg hreading, if_neg hreading]
      exact ⟨h, rfl⟩

/-! ## Inputs that leave nothing behind -/

/-- A line after which the session goes on leaves nothing but what it made of the interpreter. -/
theorem alike_react_line {text : String} (hreading : s.phase = .reading) {outcome : Outcome}
    (h : (s.interpreter.feedInto s.setup.keeper.keeps text).outcome = .ok outcome)
    (hstays : outcome = .continue ∨ outcome = .awaitingDescription) :
    Alike { s with interpreter := (s.interpreter.feedInto s.setup.keeper.keeps text).state }
      (s.react (.line text)) := by
  rw [react]
  generalize s.interpreter.feedInto s.setup.keeper.keeps text = reply at h
  have hshown := alike_displays { s with interpreter := reply.state } reply.shown
  have hnext := alike_promptNext (hshown.phase.trans hreading)
  simp only [h]
  rcases hstays with rfl | rfl
  · exact hshown.trans hnext
  · exact hshown.trans hnext

/-- A line without a trace leaves nothing behind. -/
theorem alike_react_traceless {text : String} (hreading : s.phase = .reading)
    (hidle : s.interpreter.pending = none) (h : s.interpreter.Traceless s.setup.keeper.keeps text) :
    s.Alike (s.react (.line text)) := by
  obtain ⟨houtcome, hstate⟩ := Interpreter.alike_of_traceless hidle h
  exact (alike_interpreter hstate).trans (alike_react_line hreading houtcome (.inl rfl))

/-- A line without text leaves nothing behind while a description is awaited. -/
theorem alike_react_wordless {text : String} (hreading : s.phase = .reading)
    (hwaits : s.interpreter.pending.isSome = true) (h : Text.unquote text.toList = []) :
    s.Alike (s.react (.line text)) := by
  obtain ⟨pending, hpending⟩ := Option.isSome_iff_exists.mp hwaits
  have hkept : ¬ s.interpreter.Refuses s.setup.keeper.keeps text := fun hrefuses => by
    rw [hrefuses.idle] at hpending
    cases hpending
  have hfeed : s.interpreter.feedInto s.setup.keeper.keeps text =
      ⟨s.interpreter, .ok .awaitingDescription, []⟩ := by
    rw [Interpreter.feedInto_of_not_refuses hkept, Interpreter.feed_empty hpending (by rw [h])]
  have hline := alike_react_line hreading (congrArg Reply.outcome hfeed) (.inr rfl)
  rw [hfeed] at hline
  exact hline

/-- An interrupt leaves nothing behind but that what waits is given up. -/
theorem alike_react_interrupt (hreading : s.phase = .reading) (hwaits : s.interpreter.pending.isSome = true) :
    Alike { s with interpreter := s.interpreter.cancel } (s.react .interrupt) := by
  rw [react, if_pos hwaits]
  exact ⟨rfl, hreading.symm, .refl _, fun _ => rfl⟩

/-- The inputs with which a change is begun and given up: a line, other ones that come before its description,
and an interrupt. -/
def attempt (text : String) (lines : List String) : List Input :=
  .line text :: (lines.map .line ++ [.interrupt])

/-- What waits is given up after some lines without text. All inputs are read. -/
theorem alike_react_giveUp (hreading : s.phase = .reading) (hwaits : s.interpreter.pending.isSome = true)
    {lines : List String} (hlines : ∀ line ∈ lines, Text.unquote line.toList = []) :
    let inputs := lines.map Input.line ++ [.interrupt]
    Alike { s with interpreter := s.interpreter.cancel } (inputs.foldl react s) ∧
      ∀ script, s.readAll (inputs ++ script) = (inputs.foldl react s).readAll script := by
  induction lines generalizing s with
  | nil =>
    refine ⟨alike_react_interrupt hreading hwaits, fun script => ?_⟩
    simp only [List.map_nil, List.nil_append, List.cons_append, readAll, if_pos hreading, List.foldl_cons,
      List.foldl_nil]
  | cons line lines ih =>
    obtain ⟨hline, hlines⟩ := List.forall_mem_cons.mp hlines
    have hreact := alike_react_wordless hreading hwaits hline
    have hreading' : (s.react (.line line)).phase = .reading := hreact.phase.trans hreading
    have hwaits' : (s.react (.line line)).interpreter.pending.isSome = true := by
      rw [hreact.interpreter.pending]
      exact hwaits
    obtain ⟨halike, hread⟩ := ih hreading' hwaits' hlines
    refine ⟨?_, fun script => ?_⟩
    · have hcancel : Alike { s with interpreter := s.interpreter.cancel }
          { s.react (.line line) with interpreter := (s.react (.line line)).interpreter.cancel } :=
        ⟨hreact.setup, hreact.phase, hreact.interpreter.cancel, hreact.store⟩
      exact hcancel.trans halike
    · simp only [List.map_cons, List.cons_append, readAll, if_pos hreading, List.foldl_cons]
      exact hread script

/-- **A change that is begun and given up leaves nothing behind.** All its inputs are read. -/
theorem alike_react_attempt {text : String} (hreading : s.phase = .reading) (hidle : s.interpreter.pending = none)
    (hawaits : (s.interpreter.feedInto s.setup.keeper.keeps text).outcome = .ok .awaitingDescription)
    {lines : List String} (hlines : ∀ line ∈ lines, Text.unquote line.toList = []) :
    s.Alike ((attempt text lines).foldl react s) ∧
      ∀ script, s.readAll (attempt text lines ++ script) =
        ((attempt text lines).foldl react s).readAll script := by
  obtain ⟨hwaits, hcancel⟩ := Interpreter.alike_of_awaiting hidle hawaits
  have hreact := alike_react_line hreading hawaits (.inr rfl)
  have hreading' : (s.react (.line text)).phase = .reading := hreact.phase.trans hreading
  have hwaits' : (s.react (.line text)).interpreter.pending.isSome = true := by
    rw [hreact.interpreter.pending]
    exact hwaits
  obtain ⟨halike, hread⟩ := alike_react_giveUp hreading' hwaits' hlines
  refine ⟨?_, fun script => ?_⟩
  · have hbegun : s.Alike { s.react (.line text) with
        interpreter := (s.react (.line text)).interpreter.cancel } :=
      ⟨hreact.setup, hreact.phase, hcancel.trans hreact.interpreter.cancel, hreact.store⟩
    exact hbegun.trans halike
  · rw [attempt, List.cons_append, readAll, if_pos hreading]
    exact hread script

/-! ## Thinned scripts -/

/-- What is left of a script when inputs are left out that leave nothing behind. Which they are is told by the
session that takes the whole script. -/
inductive Thinned : Session → List Input → List Input → Prop
  /-- Nothing more is left out. -/
  | rest (s : Session) (script : List Input) : Thinned s script script
  | kept {s : Session} {i : Input} {script script' : List Input} (hreading : s.phase = .reading)
      (hrest : Thinned (s.react i) script script') : Thinned s (i :: script) (i :: script')
  /-- A line without a trace is left out. -/
  | traceless {s : Session} {text : String} {script script' : List Input} (hreading : s.phase = .reading)
      (hidle : s.interpreter.pending = none) (hline : s.interpreter.Traceless s.setup.keeper.keeps text)
      (hrest : Thinned (s.react (.line text)) script script') : Thinned s (.line text :: script) script'
  /-- A line without text is left out where a description is awaited. -/
  | wordless {s : Session} {text : String} {script script' : List Input} (hreading : s.phase = .reading)
      (hwaits : s.interpreter.pending.isSome = true) (hline : Text.unquote text.toList = [])
      (hrest : Thinned (s.react (.line text)) script script') : Thinned s (.line text :: script) script'
  /-- A change that is begun and given up is left out. -/
  | attempt {s : Session} {text : String} {lines : List String} {script script' : List Input}
      (hreading : s.phase = .reading) (hidle : s.interpreter.pending = none)
      (hawaits : (s.interpreter.feedInto s.setup.keeper.keeps text).outcome = .ok .awaitingDescription)
      (hlines : ∀ line ∈ lines, Text.unquote line.toList = [])
      (hrest : Thinned ((Session.attempt text lines).foldl react s) script script') :
      Thinned s (Session.attempt text lines ++ script) script'

/-- **A thinned script is read like the whole one** by a session that is like the one with the whole script. -/
theorem alike_readAll {script script' : List Input} (h : Thinned s script script') (halike : s.Alike t)
    (himpartial : s.setup.keeper.Impartial) :
    (s.readAll script).1.Alike (t.readAll script').1 ∧ (s.readAll script).2 = (t.readAll script').2 := by
  induction h generalizing t with
  | rest s script => exact alike_readAll_self halike himpartial script
  | @kept s i script script' hreading hrest ih =>
    have hreact := alike_react halike hreading himpartial i
    rw [readAll, readAll, if_pos hreading, if_pos (halike.phase.trans hreading)]
    refine ih hreact ?_
    rw [setup_react]
    exact himpartial
  | @traceless s text script script' hreading hidle hline hrest ih =>
    have hreact := alike_react_traceless hreading hidle hline
    rw [readAll, if_pos hreading]
    refine ih (hreact.symm.trans halike) ?_
    rw [hreact.setup]
    exact himpartial
  | @wordless s text script script' hreading hwaits hline hrest ih =>
    have hreact := alike_react_wordless hreading hwaits hline
    rw [readAll, if_pos hreading]
    refine ih (hreact.symm.trans halike) ?_
    rw [hreact.setup]
    exact himpartial
  | @attempt s text lines script script' hreading hidle hawaits hlines hrest ih =>
    obtain ⟨hreact, hread⟩ := alike_react_attempt hreading hidle hawaits hlines
    rw [hread]
    refine ih (hreact.symm.trans halike) ?_
    rw [hreact.setup]
    exact himpartial

/-- A session that was not asking any more ends when its inputs do. -/
theorem ended_of_reads {inputs : List Input} (h : Reads s inputs t) (hphase : s.phase ≠ .asking) :
    ∃ ending, t.phase = .ended ending := by
  induction h with
  | @stop s hstop =>
    rcases hended : s.phase with _ | _ | ending
    · exact absurd hended hphase
    · exact absurd hended hstop
    · exact ⟨ending, rfl⟩
  | @next s s' i inputs hreading hrest ih =>
    refine ih ?_
    obtain ⟨before, -, hnext | ⟨ending, hclose⟩⟩ := react_cases s i
    · rw [hnext]
      exact fun h => by cases h
    · rw [hclose, close]
      exact fun h => by cases h

/-- **Inputs that leave nothing behind may be left out** of a script, if the keeper of the history is impartial.
The session with the thinned script ends, in the same way as with the whole script, with the same plan and the
same clock, and the same inputs are left unread. -/
theorem run_thinned {setup : Setup} (himpartial : setup.keeper.Impartial) (store : Store) (clock : Clock)
    (answers : List String) {script script' : List Input}
    (h : Thinned (opening setup store clock answers) script script') :
    let final := (run setup store clock answers script).1
    let final' := (run setup store clock answers script').1
    (∃ ending, final.phase = .ended ending ∧ final'.phase = .ended ending) ∧
      final'.interpreter.plan = final.interpreter.plan ∧ final'.interpreter.clock = final.interpreter.clock ∧
        (run setup store clock answers script').2 = (run setup store clock answers script).2 := by
  intro final final'
  obtain ⟨hsetup, -, -, hcases⟩ := opening_cases setup store clock answers
  rw [← hsetup] at himpartial
  obtain ⟨halike, hrest⟩ := alike_readAll h (.refl _) himpartial
  have hphase : (opening setup store clock answers).phase ≠ .asking := by
    rcases hcases with ⟨-, hreading, -⟩ | ⟨-, -, ending, -, hended⟩
    · rw [hreading]
      exact fun h => by cases h
    · rw [hended]
      exact fun h => by cases h
  obtain ⟨inputs, hreads, -⟩ := reads_readAll (opening setup store clock answers) script
  obtain ⟨ending, hended⟩ := ended_of_reads hreads hphase
  exact ⟨⟨ending, hended, halike.phase.trans hended⟩, halike.interpreter.plan, halike.interpreter.clock,
    hrest.symm⟩

/-- A session from which a listing, a line that fails, a change that is given up and a line without text are left
out: it is left with the same plan. -/
theorem run_thinned_sideBySide :
    let setup := sideBySide (some false)
    let script : List Input :=
      [.line "show", .line "add goal walk", .line "remove goal 9", .line "add goal", .line "''", .interrupt,
        .line "update goal 1", .line " ", .line "run", .line "exit"]
    let script' : List Input := [.line "add goal walk", .line "update goal 1", .line "run", .line "exit"]
    setup.keeper.Impartial ∧ Thinned (opening setup .empty ⟨⟨0, 0⟩⟩ []) script script' ∧
      (run setup .empty ⟨⟨0, 0⟩⟩ [] script).1.phase = .ended (.left true) ∧
        (run setup .empty ⟨⟨0, 0⟩⟩ [] script').1.interpreter.plan =
          (run setup .empty ⟨⟨0, 0⟩⟩ [] script).1.interpreter.plan := by
  intro setup script script'
  have hthinned : Thinned (opening setup .empty ⟨⟨0, 0⟩⟩ []) script script' := by
    refine .traceless (by decide) (by decide) (.views (by decide) ?_) ?_
    · exact fun hrefuses => absurd hrefuses.refused (by decide)
    refine .kept (by decide) (.traceless (by decide) (by decide)
      (.told "Nothing to remove. Use help for a list of commands" (by decide)) ?_)
    refine @Thinned.attempt _ "add goal" ["''"] _ _ (by decide) (by decide) (by decide) (by decide) ?_
    exact .kept (by decide) (.wordless (by decide) (by decide) (by decide) (.rest _ _))
  obtain ⟨⟨ending, hended, -⟩, hplan, -, -⟩ := run_thinned impartial_fileKeeper .empty ⟨⟨0, 0⟩⟩ [] hthinned
  exact ⟨impartial_fileKeeper, hthinned, by decide, hplan⟩

/-- **A line that the history refuses ends the session**, although it only clears the screen: without it the
session is left with its plan. -/
theorem thinned_null :
    let session := opening (sideBySide (some false)) .empty ⟨⟨0, 0⟩⟩ []
    session.phase = .reading ∧ session.interpreter.pending = none ∧ (resolve "clear \x00").command = .clear ∧
      (run (sideBySide (some false)) .empty ⟨⟨0, 0⟩⟩ [] [.line "clear \x00", .line "exit"]).1.phase ≠
        (run (sideBySide (some false)) .empty ⟨⟨0, 0⟩⟩ [] [.line "exit"]).1.phase := by
  decide

end Session

end LifePlan
