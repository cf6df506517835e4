import LifePlan.Proofs.Session.Durability

/-!
# Data files that hold no plan

A data file that cannot be read, or that is a text but no document of a plan, is a fault that names the file and
says why; bytes that are no text are no fault, though no plan is in them either. Under a name that a file can
have nothing else keeps a plan from being loaded (`load_cases`).

Such a fault ends a session before its first line, and an export before anything is written: it is told once,
with exit code 1, and all files stay as they are (`run_session_of_fault`, `run_export_of_fault`).
-/

namespace LifePlan

namespace Archive

variable {s : Store} {file : FileName} {clock : Clock}

/-! ## What can come of a file -/

/-- What keeps a plan from being loaded, and how it is told: the file cannot be read, or it is a text but no
document of a plan. -/
inductive Unloadable (s : Store) (file : FileName) (clock : Clock) : String → Prop
  | unreadable {trouble : Trouble} (hread : s.read file = .error trouble) (hname : trouble ≠ .nullInName) :
      Unloadable s file clock trouble.title
  | invalid {content : ByteArray} {document : List Char} (hread : s.read file = .ok content)
      (htext : decode content = some document) (hplan : Plan.read? document clock = none) :
      Unloadable s file clock invalidPlan

/-- Trouble with a name that a file can have is a fault. -/
theorem failure_of_ne {task : FileTask} {words : Trouble → String} {trouble : Trouble}
    (h : trouble ≠ .nullInName) :
    failure task file words trouble = .fault (.file task file.text (some (words trouble))) := by
  cases trouble with
  | nullInName => exact absurd rfl h
  | notFound | isADirectory | notADirectory | nameTooLong | disk => rfl

/-- What keeps a plan from being loaded is told as a fault. -/
theorem load_of_unloadable {reason : String} (h : Unloadable s file clock reason) :
    load s file clock = .error (.failure (.fault (.file .loadPlan file.text (some reason)))) := by
  cases h with
  | unreadable hread hname => simp only [load, hread, failure_of_ne hname]
  | invalid hread htext hplan => simp only [load, hread, htext, hplan]

/-- Bytes are no text if and only if they cannot be decoded. -/
theorem decode_eq_none {content : ByteArray} : decode content = none ↔ String.fromUTF8? content = none := by
  rw [decode, Option.map_eq_none_iff]

/-- Bytes that are no text are no fault. -/
theorem load_of_undecodable {content : ByteArray} (hread : s.read file = .ok content)
    (htext : String.fromUTF8? content = none) : load s file clock = .error .undecodable := by
  simp only [load, hread, decode_eq_none.mpr htext]

/-- **Under a name that a file can have, a plan is loaded, or a fault names the file** and says why, whatever the
name leads to; except that bytes that are no text are no fault. -/
theorem load_cases (s : Store) {file : FileName} (hname : file.hasNull = false) (clock : Clock) :
    (∃ loaded, load s file clock = .ok loaded) ∨
    (∃ reason, Unloadable s file clock reason ∧
      load s file clock = .error (.failure (.fault (.file .loadPlan file.text (some reason))))) ∨
    ∃ content, s.read file = .ok content ∧ String.fromUTF8? content = none ∧
      load s file clock = .error .undecodable := by
  rcases hread : s.read file with trouble | content
  · have hnull : trouble ≠ .nullInName := by
      rintro rfl
      rw [Store.read_eq_nullInName.mp hread] at hname
      cases hname
    have hunreadable : Unloadable s file clock trouble.title := .unreadable hread hnull
    exact .inr (.inl ⟨_, hunreadable, load_of_unloadable hunreadable⟩)
  · rcases htext : decode content with _ | document
    · have hbytes := decode_eq_none.mp htext
      exact .inr (.inr ⟨content, rfl, hbytes, load_of_undecodable hread hbytes⟩)
    · rcases hplan : Plan.read? document clock with _ | loaded
      · have hinvalid : Unloadable s file clock invalidPlan := .invalid hread htext hplan
        exact .inr (.inl ⟨_, hinvalid, load_of_unloadable hinvalid⟩)
      · refine .inl ⟨loaded, ?_⟩
        simp only [load, hread, htext, hplan]

/-- A file that is not there is a fault. -/
theorem load_cases_missing :
    ∃ reason, load .empty ⟨0, ["plan.dat"]⟩ ⟨⟨0, 0⟩⟩ =
      .error (.failure (.fault (.file .loadPlan "plan.dat" (some reason)))) := by
  have hread : Store.empty.read ⟨0, ["plan.dat"]⟩ = .error .notFound := rfl
  rcases @load_cases .empty ⟨0, ["plan.dat"]⟩ (by decide) ⟨⟨0, 0⟩⟩ with
    ⟨loaded, hload⟩ | ⟨reason, -, hload⟩ | ⟨content, hcontent, -⟩
  · simp only [load, hread] at hload
    cases hload
  · exact ⟨reason, hload⟩
  · cases hread.symm.trans hcontent

/-- **A file of one byte that is no text** is neither loaded nor told as a fault. -/
theorem load_byte :
    load (Store.empty.put ["plan.dat"] (.file ⟨#[255]⟩)) ⟨0, ["plan.dat"]⟩ ⟨⟨0, 0⟩⟩ = .error .undecodable := by
  refine load_of_undecodable rfl ?_
  decide

end Archive

/-! ## What becomes of the run -/

/-- **An export ends with the fault of its data file**, before anything is written. -/
theorem run_export_of_fault {store : Store} {environment : Bindings String} {clock : Clock}
    {arguments : List String} {settings : Settings} {target : FileName} {fault : Fault}
    (hjob : Job.ofArguments store environment arguments = .exportPlan settings target)
    (hload : Archive.load store settings.dataFile clock = .error (.failure (.fault fault)))
    (input : List String) :
    run store environment clock arguments input =
      ⟨1, [.shown (.notice fault.message)], none, store, []⟩ := by
  rw [run, hjob]
  simp only [exportFile, hload]
  rfl

namespace Session

/-- What is shown when the history is loaded: nothing, or that it cannot be. -/
def historyDisplays (setup : Setup) (store : Store) : List Display :=
  match setup.keeper.load store setup.settings.historyFile with
  | .error (.failure (.fault _)) => [.trouble "Unable to load" setup.settings.historyFile.text]
  | _ => []

/-- A session whose data file is there but cannot be loaded ends before it has asked for anything. -/
theorem openPlan_of_error {s : Session} {entry : StoreEntry} {cause : Escape}
    (hfound : s.store.search s.settings.dataFile = .ok (some entry))
    (hload : Archive.load s.store s.settings.dataFile s.interpreter.clock = .error cause) :
    s.openPlan = s.finish (.escaped cause) := by
  rw [openPlan, hfound]
  simp only [hload]

/-- So does one that has just started. -/
theorem start_of_error {setup : Setup} {store : Store} {clock : Clock} {entry : StoreEntry} {cause : Escape}
    (hhistory : historyOpens setup store = true)
    (hfound : store.search setup.settings.dataFile = .ok (some entry))
    (hload : Archive.load store setup.settings.dataFile (Plan.fresh clock).2 = .error cause) :
    (start setup store clock).phase = .ended (.escaped cause) ∧ (start setup store clock).store = store ∧
      (start setup store clock).transcript = (historyDisplays setup store).map .shown := by
  have hbegin : start setup store clock = (new setup store clock).begin := rfl
  have hkeeper : (new setup store clock).setup.keeper.load (new setup store clock).store
      (new setup store clock).settings.historyFile =
        setup.keeper.load store setup.settings.historyFile := rfl
  rw [historyOpens] at hhistory
  rw [hbegin, begin, historyDisplays, hkeeper]
  generalize setup.keeper.load store setup.settings.historyFile = loaded at hhistory ⊢
  rcases loaded with cause' | lines
  · rcases cause' with (fault | misuse) | _ | _ | _ | _ | message
    · simp only
      rw [openPlan_of_error hfound hload]
      exact ⟨rfl, rfl, rfl⟩
    all_goals cases hhistory
  · simp only
    rw [openPlan_of_error hfound hload]
    exact ⟨rfl, rfl, rfl⟩

end Session

/-- **A session ends with the fault of its data file**, before it has asked for anything: the fault is told once,
the exit code is 1, and the files stay as they are. -/
theorem run_session_of_fault {store : Store} {environment : Bindings String} {clock : Clock}
    {arguments : List String} {setup : Setup} {entry : StoreEntry} {fault : Fault}
    (hjob : Job.ofArguments store environment arguments = .converse setup)
    (hhistory : Session.historyOpens setup store = true)
    (hfound : store.search setup.settings.dataFile = .ok (some entry))
    (hload : Archive.load store setup.settings.dataFile (Plan.fresh clock).2 = .error (.failure (.fault fault)))
    (input : List String) :
    let report := run store environment clock arguments input
    report.exitCode = 1 ∧ report.breakdown = none ∧ report.store = store ∧
      report.transcript =
        (Session.historyDisplays setup store).map .shown ++ [.shown (.notice fault.message)] := by
  intro report
  obtain ⟨hphase, hstore, htranscript⟩ := @Session.start_of_error setup store clock _ _ hhistory hfound hload
  generalize hstart : Session.start setup store clock = s at hphase hstore htranscript
  have hasks : s.phase ≠ .asking := by
    rw [hphase]
    exact fun h => by cases h
  have hended : s.phase ≠ .reading := by
    rw [hphase]
    exact fun h => by cases h
  have hreads : s.readAll (input.map .line) = (s, input.map .line) :=
    (Session.Reads.stop hended).readAll_append (input.map .line)
  have hreport : report = s.report := by
    change run store environment clock arguments input = s.report
    rw [run, hjob]
    simp only [hstart, Session.answerAll_of_ne hasks, hreads]
  rw [hreport, Session.report, hphase]
  refine ⟨rfl, rfl, hstore, ?_⟩
  simp only [htranscript]
  rfl

end LifePlan
