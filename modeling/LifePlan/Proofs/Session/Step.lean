import LifePlan.Proofs.Archive
import LifePlan.Session

/-!
# What one input does to a session

Whatever comes when a line is asked for, the session asks for the next line or it is closed, and up to that
point it has only shown something and changed the plan that it holds (`react_cases`). Closing a session gives
the history to its keeper once, and then deals with the data file in one of three ways (`settles_close`): the
plan is saved in it, or it could not be saved as a whole, or it was not to be saved.
-/

namespace LifePlan

/-! ## What is counted and assumed -/

/-- Whether the history was given to its keeper. -/
def Event.isKept : Event → Bool
  | .keptHistory _ => true
  | _ => false

/-- Whether a line was asked for. -/
def Event.isPrompt : Event → Bool
  | .prompted _ _ => true
  | _ => false

/-- To keep the history leaves alone what is under the name of the data file, also if it fails. -/
def Setup.SparesData (setup : Setup) : Prop :=
  ∀ before lines,
    (Store.left (setup.keeper.save before setup.settings.historyFile lines)).find? setup.settings.dataFile =
      before.find? setup.settings.dataFile

namespace Session

/-- How often the history was given to its keeper, whether or not it was saved. -/
def timesKept (s : Session) : Nat := s.transcript.countP Event.isKept

/-- How often a line was asked for. -/
def timesAsked (s : Session) : Nat := s.transcript.countP Event.isPrompt

/-- An event is counted where it belongs. -/
@[simp] theorem timesKept_note (s : Session) (e : Event) :
    (s.note e).timesKept = s.timesKept + if e.isKept then 1 else 0 := by
  rw [timesKept, note, List.countP_append, List.countP_singleton]
  rfl

@[simp] theorem timesAsked_note (s : Session) (e : Event) :
    (s.note e).timesAsked = s.timesAsked + if e.isPrompt then 1 else 0 := by
  rw [timesAsked, note, List.countP_append, List.countP_singleton]
  rfl

/-! ## Frames -/

/-- Between two states of a session nothing was written to a file, no line was asked for and the history was
not given to its keeper. -/
structure Frame (s s' : Session) : Prop where
  setup : s'.setup = s.setup
  store : s'.store = s.store
  kept : s'.timesKept = s.timesKept
  asked : s'.timesAsked = s.timesAsked

theorem Frame.refl (s : Session) : Frame s s := ⟨rfl, rfl, rfl, rfl⟩

theorem Frame.trans {s s' s'' : Session} (h : Frame s s') (h' : Frame s' s'') : Frame s s'' :=
  ⟨h'.setup.trans h.setup, h'.store.trans h.store, h'.kept.trans h.kept, h'.asked.trans h.asked⟩

/-- To show something is no more than that. -/
theorem frame_display (s : Session) (d : Display) : Frame s (s.display d) := by
  refine ⟨rfl, rfl, ?_, ?_⟩
  · rw [display, timesKept_note]
    rfl
  · rw [display, timesAsked_note]
    rfl

/-- To show several things is no more than that. -/
theorem frame_displays (s : Session) (ds : List Display) : Frame s (ds.foldl display s) := by
  induction ds generalizing s with
  | nil => exact .refl s
  | cons d ds ih => exact (frame_display s d).trans (ih (s.display d))

/-- The interpreter may change. -/
theorem frame_interpreter (s : Session) (interpreter : Interpreter) :
    Frame s { s with interpreter := interpreter } := ⟨rfl, rfl, rfl, rfl⟩

/-- So may what the session waits for. -/
theorem frame_phase (s : Session) (phase : Phase) : Frame s { s with phase := phase } := ⟨rfl, rfl, rfl, rfl⟩

/-! ## One input -/

/-- After a line the session asks for the next one or is closed. -/
theorem proceed_cases (s : Session) (outcome : Except Failure Outcome) :
    s.proceed outcome = s.promptNext ∨ ∃ ending, s.proceed outcome = s.close ending := by
  rcases outcome with failure | outcome
  · exact .inr ⟨_, rfl⟩
  · cases outcome with
    | «continue» => exact .inl rfl
    | awaitingDescription => exact .inl rfl
    | exitSave => exact .inr ⟨_, rfl⟩
    | exitNoSave => exact .inr ⟨_, rfl⟩

/-- **After an input the session asks for the next one or is closed**, and nothing else has happened to files
or history. -/
theorem react_cases (s : Session) (i : Input) :
    ∃ s', Frame s s' ∧ (s.react i = s'.promptNext ∨ ∃ ending, s.react i = s'.close ending) := by
  cases i with
  | line text => exact ⟨_, (frame_interpreter s _).trans (frame_displays _ _), proceed_cases _ _⟩
  | interrupt =>
    rw [react]
    by_cases hpending : s.interpreter.pending.isSome = true
    · rw [if_pos hpending]
      exact ⟨_, (frame_display s .gap).trans (frame_interpreter _ _), .inl rfl⟩
    · rw [if_neg hpending]
      exact ⟨_, frame_display s .gap, .inr ⟨_, rfl⟩⟩
  | endOfInput => exact ⟨_, frame_display s .gap, .inr ⟨_, rfl⟩⟩
  | broken message => exact ⟨s, .refl s, .inr ⟨_, rfl⟩⟩

/-! ## The end -/

/-- The files as the keeper leaves them if it is given the history of a session, whether or not it can save it. -/
def keptFrom (s : Session) (store : Store) : Store :=
  Store.left (s.setup.keeper.save store s.settings.historyFile s.history)

/-- Between two states of a session the history was given to its keeper once, and nothing else was done to the
files. -/
structure HistoryKept (s s' : Session) : Prop where
  setup : s'.setup = s.setup
  interpreter : s'.interpreter = s.interpreter
  store : s'.store = s.keptFrom s.store
  kept : s'.timesKept = s.timesKept + 1
  asked : s'.timesAsked = s.timesAsked

/-- The history is given to its keeper once, whatever comes of it. -/
theorem historyKept_saveHistory (s : Session) (ending : Ending) : HistoryKept s (s.saveHistory ending).1 := by
  have hstore : s.keptFrom s.store =
      Store.left (s.setup.keeper.save s.store s.settings.historyFile s.history) := rfl
  rw [saveHistory]
  generalize s.setup.keeper.save s.store s.settings.historyFile s.history = result at hstore ⊢
  rcases result with ⟨fault | misuse, store⟩ | store
  · have hframe := frame_display (Session.note { s with store := store } (.keptHistory false))
      (.trouble "Unable to save" s.settings.historyFile.text)
    refine ⟨rfl, rfl, hstore.symm, ?_, ?_⟩
    · exact hframe.kept.trans (timesKept_note { s with store := store } _)
    · exact hframe.asked.trans (timesAsked_note { s with store := store } _)
  · exact ⟨rfl, rfl, hstore.symm, timesKept_note { s with store := store } _,
      timesAsked_note { s with store := store } _⟩
  · exact ⟨rfl, rfl, hstore.symm, timesKept_note { s with store := store } _,
      timesAsked_note { s with store := store } _⟩

/-- What has become of the data file at the end of a session, given the files at its start. -/
inductive Settles (start : Store) (s : Session) : Prop
  /-- The plan of the session was written to it. -/
  | saved (hphase : s.phase = .ended (.left true))
      (hsave : Archive.save (s.keptFrom start) s.settings.dataFile s.interpreter.plan = .ok s.store)
  /-- The plan could not be written, or not as a whole, and the user was told. -/
  | unsaved (fault : Fault) (hphase : s.phase = .ended (.left true))
      (hsave : Archive.save (s.keptFrom start) s.settings.dataFile s.interpreter.plan =
        .error (.fault fault, s.store))
  /-- The plan was not to be saved. -/
  | untouched (ending : Ending) (hphase : s.phase = .ended ending) (hending : ending ≠ .left true)
      (hdata : s.store.find? s.settings.dataFile = start.find? s.settings.dataFile)

/-- To save the plan after the history settles what becomes of the data file. -/
theorem settles_savePlan {s : Session} {start : Store} (hstore : s.store = s.keptFrom start)
    (hdata : s.store.find? s.settings.dataFile = start.find? s.settings.dataFile) :
    let r := s.savePlan (.left true)
    Frame { s with store := r.1.store } r.1 ∧ Settles start (r.1.finish r.2) := by
  rw [savePlan]
  rcases hsave : Archive.save s.store s.settings.dataFile s.interpreter.plan with ⟨fault | misuse, store⟩ | store
  · rw [hstore] at hsave
    exact ⟨frame_display { s with store := store } _, .unsaved fault rfl hsave⟩
  · obtain rfl := Archive.eq_of_write_eq_misuse hsave
    exact ⟨.refl s, .untouched _ rfl (fun h => by cases h) hdata⟩
  · rw [hstore] at hsave
    exact ⟨.refl _, .saved rfl hsave⟩

/-- **To close a session settles what becomes of the data file**, and gives the history to its keeper once. -/
theorem settles_close {s : Session} (h : s.setup.SparesData) (ending : Ending) :
    Settles s.store (s.close ending) ∧ (s.close ending).setup = s.setup ∧
      (s.close ending).timesKept = s.timesKept + 1 ∧ (s.close ending).timesAsked = s.timesAsked := by
  have hkept := s.historyKept_saveHistory ending
  rw [close]
  generalize s.saveHistory ending = kept at hkept
  obtain ⟨s', ending'⟩ := kept
  have hdata : s'.store.find? s'.settings.dataFile = s.store.find? s'.settings.dataFile := by
    rw [hkept.store, settings, hkept.setup]
    exact h s.store s.history
  by_cases hleft : ending' = .left true
  · subst hleft
    have hstore : s'.store = s'.keptFrom s.store := by
      rw [hkept.store, keptFrom, keptFrom, settings, settings, history, history, hkept.setup, hkept.interpreter]
    obtain ⟨hframe, hsettles⟩ := settles_savePlan hstore hdata
    simp only [if_pos]
    exact ⟨hsettles, hframe.setup.trans hkept.setup, hframe.kept.trans hkept.kept,
      hframe.asked.trans hkept.asked⟩
  · simp only [if_neg hleft]
    exact ⟨.untouched ending' rfl hleft hdata, hkept.setup, hkept.kept, hkept.asked⟩

end Session

end LifePlan
