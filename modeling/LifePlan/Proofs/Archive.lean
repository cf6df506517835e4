import LifePlan.Archive
import LifePlan.Proofs.Plan.Document
import LifePlan.Proofs.Store

/-!
# A saved plan is loaded as it was

`Archive.load_save`: after a plan was saved, loading its file gives the plan in every field and record, the
clock is not read, and saving what was loaded leaves every file as it is. Three facts make it up: the bytes
of a text are decoded to the text (`decode_encode`, for texts without carriage returns, since reading makes
every line break a line feed), the document of a plan is such a text and is read as the plan
(`Plan.notMem_write`, `Plan.read?_write`), and a file that was written is read back
(`Store.read_write_self`).
-/

namespace LifePlan

namespace Archive

/-! ## Bytes -/

/-- The bytes of a text are decoded to its characters, but for its line breaks. -/
theorem decode_encode_eq (cs : List Char) : decode (encode cs) = some (Text.unifyBreaks cs) := by
  have hbytes : String.fromUTF8? (encode cs) = some (String.ofList cs) :=
    dif_pos (String.ofList cs).isValidUTF8
  rw [decode, hbytes, Option.map_some, String.toList_ofList]

/-- The bytes of a text without carriage returns are decoded to its characters. -/
theorem decode_encode {cs : List Char} (h : '\r' ∉ cs) : decode (encode cs) = some cs := by
  rw [decode_encode_eq, Text.unifyBreaks_eq_self h]

/-! ## Saving -/

/-- A text is written for a task if and only if its bytes are written. -/
theorem write_eq_ok {s s' : Store} {task : FileTask} {file : FileName} {cs : List Char} :
    write s task file cs = .ok s' ↔ s.write file (encode cs) = .ok s' := by
  unfold write
  rcases s.write file (encode cs) with ⟨trouble, left⟩ | s''
  · simp
  · simp

/-- It leaves the store that writing the bytes leaves. -/
theorem left_write (s : Store) (task : FileTask) (file : FileName) (cs : List Char) :
    Store.left (write s task file cs) = Store.left (s.write file (encode cs)) := by
  unfold write
  rcases s.write file (encode cs) with ⟨trouble, left⟩ | s'
  · rfl
  · rfl

/-- If that fails, then nothing is changed, or some of the first bytes are left. -/
theorem write_eq_error {s s' : Store} {task : FileTask} {file : FileName} {cs : List Char} {failure : Failure}
    (h : write s task file cs = .error (failure, s')) :
    s' = s ∨ ∃ length, s'.read file = .ok ((encode cs).extract 0 length) := by
  unfold write at h
  rcases hwrite : s.write file (encode cs) with ⟨trouble, left⟩ | s''
  · rw [hwrite] at h
    cases h
    exact Store.write_eq_error hwrite
  · rw [hwrite] at h
    cases h

/-- Trouble with a file is misuse if its name has a null character, and otherwise a fault. -/
theorem failure_eq_misuse {task : FileTask} {file : FileName} {words : Trouble → String} {trouble : Trouble}
    {misuse : Misuse} :
    failure task file words trouble = .misuse misuse ↔ trouble = .nullInName ∧ misuse = .nullInName := by
  cases trouble with
  | nullInName => simp [failure, eq_comm]
  | notFound | isADirectory | notADirectory | nameTooLong | disk => simp [failure]

/-- Writing is misuse if and only if the name of the file has a null character. -/
theorem write_eq_misuse {s : Store} {task : FileTask} {file : FileName} {cs : List Char} {misuse : Misuse} :
    (∃ s', write s task file cs = .error (.misuse misuse, s')) ↔ file.hasNull = true ∧ misuse = .nullInName := by
  rw [write, ← @Store.write_eq_nullInName s file (encode cs)]
  rcases s.write file (encode cs) with ⟨trouble, left⟩ | s'
  · simp [failure_eq_misuse]
  · simp

/-- Misuse leaves the store as it is. -/
theorem eq_of_write_eq_misuse {s s' : Store} {task : FileTask} {file : FileName} {cs : List Char} {misuse : Misuse}
    (h : write s task file cs = .error (.misuse misuse, s')) : s' = s := by
  unfold write at h
  have hwrote := s.wrote file (encode cs)
  generalize s.write file (encode cs) = result at hwrote h
  cases hwrote with
  | whole => cases h
  | untouched => exact (congrArg Prod.snd (Except.error.inj h)).symm
  | cut => cases congrArg Prod.fst (Except.error.inj h)

/-- A file with the document of a plan is loaded as the plan. -/
theorem load_of_read {s : Store} {file : FileName} {p : Plan} (h : s.read file = .ok (encode p.write))
    (clock : Clock) : load s file clock = .ok (p, clock) := by
  unfold load
  simp only [h, decode_encode p.notMem_write, p.read?_write]

/-- A plan that was saved is loaded. -/
theorem load_of_save {s s' : Store} {file : FileName} {p : Plan} (h : save s file p = .ok s') (clock : Clock) :
    load s' file clock = .ok (p, clock) :=
  load_of_read (Store.read_write_self (write_eq_ok.mp h)).1 clock

/-- **A saved plan is loaded as it was**: with every field, record, date and order, and without a look at
the clock. Saving it again writes the very same file. -/
theorem load_save {s s' : Store} {file : FileName} {p : Plan} (h : save s file p = .ok s') (clock : Clock) :
    load s' file clock = .ok (p, clock) ∧ save s' file p = .ok s' := by
  obtain ⟨-, hwrite⟩ := Store.read_write_self (write_eq_ok.mp h)
  exact ⟨load_of_save h clock, write_eq_ok.mpr hwrite⟩

/-- A plan whose texts are hard to write: quotes, backslashes, control characters and line breaks of every
kind, at every level. -/
def thornyPlan : Plan :=
  { Plan.blank "\r" "\u2028" with
    about := "\\\"\x00\x1f\r\n"
    goals := [⟨"\n", "\r", [⟨"", "\x7f", [⟨"\u0085", "[]", [⟨"\\n", "\\u000d"⟩]⟩]⟩], [⟨"\t", "\x7d"⟩]⟩] }

/-- The thorny plan in a file of its own. -/
theorem load_save_thornyPlan :
    save .empty ⟨0, ["plan.dat"]⟩ thornyPlan =
        .ok (Store.empty.put ["plan.dat"] (.file (encode thornyPlan.write))) ∧
      load (Store.empty.put ["plan.dat"] (.file (encode thornyPlan.write))) ⟨0, ["plan.dat"]⟩ ⟨⟨0, 0⟩⟩ =
        .ok (thornyPlan, ⟨⟨0, 0⟩⟩) := by
  have hsave : save .empty ⟨0, ["plan.dat"]⟩ thornyPlan =
      .ok (Store.empty.put ["plan.dat"] (.file (encode thornyPlan.write))) := rfl
  exact ⟨hsave, (load_save hsave ⟨⟨0, 0⟩⟩).1⟩

end Archive

end LifePlan
