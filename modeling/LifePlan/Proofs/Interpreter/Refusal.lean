import LifePlan.HistoryFile
import LifePlan.Interpreter
import LifePlan.Proofs.Text.Blank

/-!
# Histories that refuse lines

A command line is recorded before it is carried out, and a history may refuse what it gets (`Refuses`). Then
nothing is done at all (`feedInto_of_refuses`); otherwise the line is taken as if every line were kept
(`feedInto_of_not_refuses`). So each step is a step with a history that keeps every line, or none.
-/

namespace LifePlan

namespace Interpreter

variable {s : Interpreter} {keeps : String → Bool} {line : String}

/-! ## A history that keeps every line -/

/-- A line is recorded. -/
theorem recordInto_all (s : Interpreter) (line : String) : s.recordInto (fun _ => true) line = .ok (s.record line) :=
  if_pos (by cases s.history.bind fun _ => recorded? line <;> rfl)

/-- A blank line does nothing. -/
theorem execute_of_blank (h : Text.isBlankText line.toList = true) : s.execute line = .silent s .continue := by
  rw [execute, executeInto, if_pos h]

/-- A line with text is recorded and carried out, and a fault is told. -/
theorem execute_of_text (h : ¬ Text.isBlankText line.toList = true) :
    s.execute line = ((s.record line).dispatch (resolve line)).report := by
  rw [execute, executeInto, if_neg h, recordInto_all]

/-- A line that comes while nothing waits is executed. -/
theorem feedInto_of_idle (h : s.pending = none) (keeps : String → Bool) (line : String) :
    s.feedInto keeps line = s.executeInto keeps line := by
  rw [feedInto, h]

/-- So it is with a history that keeps every line. -/
theorem feed_of_idle (h : s.pending = none) (line : String) : s.feed line = s.execute line :=
  feedInto_of_idle h _ line

/-- A line that comes while a change waits is its description. -/
theorem feedInto_of_waiting {pending : Pending} (h : s.pending = some pending) (keeps : String → Bool)
    (line : String) : s.feedInto keeps line = s.resume pending line := by
  rw [feedInto, h]

/-- So it is with a history that keeps every line. -/
theorem feed_of_waiting {pending : Pending} (h : s.pending = some pending) (line : String) :
    s.feed line = s.resume pending line :=
  feedInto_of_waiting h _ line

/-! ## A history that may refuse -/

/-- A line is recorded, or the history refuses it. -/
theorem recordInto_cases (s : Interpreter) (keeps : String → Bool) (line : String) :
    s.recordInto keeps line = .ok (s.record line) ∨ s.recordInto keeps line = .error (.misuse .nullInLine) := by
  unfold recordInto
  split
  · exact .inl rfl
  · exact .inr rfl

/-- A line is executed as if every line were kept, or the history refuses it and nothing is done. -/
theorem executeInto_cases (s : Interpreter) (keeps : String → Bool) (line : String) :
    s.executeInto keeps line = s.execute line ∨ s.executeInto keeps line = ⟨s, .error (.misuse .nullInLine), []⟩ := by
  by_cases hblank : Text.isBlankText line.toList = true
  · rw [execute_of_blank hblank, executeInto, if_pos hblank]
    exact .inl rfl
  · rw [execute_of_text hblank, executeInto, if_neg hblank]
    rcases s.recordInto_cases keeps line with hrecorded | hrefused
    · rw [hrecorded]
      exact .inl rfl
    · rw [hrefused]
      exact .inr rfl

/-- The history gets the line and refuses it: it gets every command line that has text and does not erase it. -/
structure Refuses (s : Interpreter) (keeps : String → Bool) (line : String) : Prop where
  idle : s.pending = none
  kept : s.history.isSome = true
  text : ¬ Text.isBlankText line.toList = true
  command : (resolve line).command ≠ .erase
  refused : keeps (String.ofList (Text.strip line.toList)) = false

/-- A line that is refused is not recorded. -/
theorem Refuses.recordInto_eq (h : s.Refuses keeps line) :
    s.recordInto keeps line = .error (.misuse .nullInLine) := by
  obtain ⟨lines, hlines⟩ := Option.isSome_iff_exists.mp h.kept
  have hrecorded : recorded? line = some (String.ofList (Text.strip line.toList)) := by
    rw [recorded?, if_neg fun hskips => hskips.elim h.text h.command]
  rw [recordInto, hlines, Option.bind_some, hrecorded, Option.all_some, h.refused, if_neg Bool.false_ne_true]

/-- While nothing waits, a line that is not refused is recorded. -/
theorem recordInto_of_not_refuses (hidle : s.pending = none) (h : ¬ s.Refuses keeps line) :
    s.recordInto keeps line = .ok (s.record line) := by
  refine (s.recordInto_cases keeps line).resolve_right fun hfails => h ?_
  unfold recordInto at hfails
  split at hfails
  · cases hfails
  · next hrefused =>
    rcases hhistory : s.history with _ | lines
    · rw [hhistory] at hrefused
      exact absurd rfl hrefused
    · rw [hhistory, Option.bind_some, recorded?] at hrefused
      by_cases hskips : Text.isBlankText line.toList = true ∨ (resolve line).command = .erase
      · rw [if_pos hskips] at hrefused
        exact absurd rfl hrefused
      · rw [if_neg hskips, Option.all_some, Bool.not_eq_true] at hrefused
        rw [not_or] at hskips
        exact ⟨hidle, by rw [hhistory]; rfl, hskips.1, hskips.2, hrefused⟩

/-- **A line that the history does not refuse is taken as if every line were kept.** -/
theorem feedInto_of_not_refuses (h : ¬ s.Refuses keeps line) : s.feedInto keeps line = s.feed line := by
  rcases hpending : s.pending with _ | pending
  · rw [feedInto_of_idle hpending, feed_of_idle hpending]
    by_cases hblank : Text.isBlankText line.toList = true
    · rw [execute_of_blank hblank, executeInto, if_pos hblank]
    · rw [execute_of_text hblank, executeInto, if_neg hblank, recordInto_of_not_refuses hpending h]
  · rw [feedInto_of_waiting hpending, feed_of_waiting hpending]

/-- **A line that the history refuses changes nothing.** -/
theorem feedInto_of_refuses (h : s.Refuses keeps line) :
    s.feedInto keeps line = ⟨s, .error (.misuse .nullInLine), []⟩ := by
  rw [feedInto_of_idle h.idle, executeInto, if_neg h.text, h.recordInto_eq]

/-- A line that comes while a change waits is not for the history. -/
theorem not_refuses_of_waiting {pending : Pending} (h : s.pending = some pending) : ¬ s.Refuses keeps line := by
  intro hrefuses
  cases h.symm.trans hrefuses.idle

/-- A line is not refused if the history keeps it, or if there is no history. -/
theorem not_refuses_of_keeps
    (h : s.history.isSome = true → keeps (String.ofList (Text.strip line.toList)) = true) :
    ¬ s.Refuses keeps line := by
  intro hrefuses
  cases (h hrefuses.kept).symm.trans hrefuses.refused

/-! ## A history that is kept in a file -/

/-- A history file does not take a line with a null character, wherever it is. -/
theorem keeps_strip_eq_false :
    HistoryFile.keeps (String.ofList (Text.strip line.toList)) = false ↔ '\x00' ∈ line.toList := by
  rw [← Text.mem_strip (c := '\x00') rfl, HistoryFile.keeps, String.toList_ofList]
  simp

/-- It refuses no other line. -/
theorem not_refuses_of_notMem (h : '\x00' ∉ line.toList) : ¬ s.Refuses HistoryFile.keeps line :=
  fun hrefuses => h (keeps_strip_eq_false.mp hrefuses.refused)

end Interpreter

end LifePlan
