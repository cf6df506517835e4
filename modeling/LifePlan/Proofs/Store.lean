import LifePlan.Proofs.Except
import LifePlan.Store

/-!
# What writing a file leaves alone

A file is written at a place where there is no directory, wholly or up to some byte, or nothing is changed
(`wrote`), and the way to any place leads through directories only. So no way leads through the file that is
written: a name leads to the same place before and after (`locate_put`), the file that was written is read back
(`read_write_self`), and what is found under a name that leads elsewhere is what was found before, whether or not
the write succeeds (`find?_left_write_of_ne`).
-/

namespace LifePlan

namespace Store

/-! ## Entries -/

/-- Replacing the entries of one place leaves the other places alone. -/
theorem lookup_replace_of_ne {place q : Place} (h : q ≠ place) (entry : StoreEntry)
    (es : List (Place × StoreEntry)) :
    (es.map fun e => if e.1 = place then (place, entry) else e).lookup q = es.lookup q := by
  induction es with
  | nil => rfl
  | cons e es ih =>
    rw [List.map_cons, List.lookup_cons, List.lookup_cons, ih]
    by_cases he : e.1 = place
    · rw [if_pos he, he]
      simp only [beq_eq_false_iff_ne.mpr h]
    · rw [if_neg he]

/-- Replacing the entries of a place that has one gives the new entry. -/
theorem lookup_replace_self {place : Place} (entry : StoreEntry) {es : List (Place × StoreEntry)}
    (h : es.any (·.1 = place) = true) :
    (es.map fun e => if e.1 = place then (place, entry) else e).lookup place = some entry := by
  induction es with
  | nil => cases h
  | cons e es ih =>
    rw [List.map_cons]
    by_cases he : e.1 = place
    · rw [if_pos he, List.lookup_cons_self]
    · have hrest : es.any (·.1 = place) = true := by simpa [he] using h
      rw [if_neg he, List.lookup_cons, ih hrest]
      simp only [beq_eq_false_iff_ne.mpr (Ne.symm he)]

/-- Where no entry has a place, there is none to be found. -/
theorem lookup_eq_none {place : Place} {es : List (Place × StoreEntry)} (h : ¬ es.any (·.1 = place) = true) :
    es.lookup place = none := by
  rw [List.lookup_eq_none_iff]
  intro e he
  simp only [List.any_eq_true, decide_eq_true_eq, not_exists, not_and] at h
  simpa using Ne.symm (h e he)

/-- Only the place of the new entry has another one. -/
theorem lookup_put (s : Store) (place q : Place) (entry : StoreEntry) :
    (s.put place entry).entries.lookup q = if q = place then some entry else s.entries.lookup q := by
  unfold put
  by_cases hany : s.entries.any (·.1 = place) = true
  · rw [if_pos hany]
    by_cases hq : q = place
    · rw [if_pos hq, hq, lookup_replace_self entry hany]
    · rw [if_neg hq, lookup_replace_of_ne hq]
  · rw [if_neg hany, List.lookup_append]
    by_cases hq : q = place
    · rw [if_pos hq, hq, lookup_eq_none hany, List.lookup_cons_self]
      rfl
    · rw [if_neg hq, List.lookup_cons, List.lookup_nil]
      simp only [beq_eq_false_iff_ne.mpr hq, Option.or_none]

/-- What is at another place stays. -/
theorem entryAt?_put_of_ne (s : Store) {place q : Place} (h : q ≠ place) (entry : StoreEntry) :
    (s.put place entry).entryAt? q = s.entryAt? q := by
  rw [entryAt?, entryAt?, lookup_put, if_neg h]

/-- A place below the start has the entry that was put there. -/
theorem entryAt?_put_self (s : Store) {place : Place} (h : isAbove place = false) (entry : StoreEntry) :
    (s.put place entry).entryAt? place = some entry := by
  rw [entryAt?, lookup_put, if_pos rfl]
  simp [h]

/-- A place without a directory is below the start. -/
theorem isAbove_eq_false {s : Store} {place : Place} (h : s.entryAt? place ≠ some .directory) :
    isAbove place = false := by
  rw [entryAt?] at h
  rcases habove : isAbove place with _ | _
  · rfl
  · exact absurd (if_pos habove) h

/-- The place of an entry that was put has one. -/
theorem any_put (s : Store) (place : Place) (entry : StoreEntry) :
    (s.put place entry).entries.any (·.1 = place) = true := by
  unfold put
  by_cases hany : s.entries.any (·.1 = place) = true
  · rw [if_pos hany]
    obtain ⟨e, he, heq⟩ := List.any_eq_true.mp hany
    have hmem : (place, entry) ∈ s.entries.map fun e => if e.1 = place then (place, entry) else e :=
      List.mem_map.mpr ⟨e, he, if_pos (of_decide_eq_true heq)⟩
    exact List.any_eq_true.mpr ⟨_, hmem, decide_eq_true rfl⟩
  · rw [if_neg hany]
    simp

/-- Every entry of a place where an entry was put is that entry. -/
theorem eq_of_mem_put {s : Store} {place : Place} {entry : StoreEntry} {e : Place × StoreEntry}
    (he : e ∈ (s.put place entry).entries) (hplace : e.1 = place) : e = (place, entry) := by
  unfold put at he
  by_cases hany : s.entries.any (·.1 = place) = true
  · rw [if_pos hany] at he
    obtain ⟨d, _, rfl⟩ := List.mem_map.mp he
    by_cases hd : d.1 = place
    · rw [if_pos hd]
    · rw [if_neg hd] at hplace
      exact absurd hplace hd
  · rw [if_neg hany] at he
    rcases List.mem_append.mp he with he | he
    · exact absurd (List.any_eq_true.mpr ⟨e, he, decide_eq_true hplace⟩) hany
    · exact List.mem_singleton.mp he

/-- Putting an entry twice is putting it once. -/
theorem put_put (s : Store) (place : Place) (entry : StoreEntry) :
    (s.put place entry).put place entry = s.put place entry := by
  have hsame : ((s.put place entry).entries.map fun e => if e.1 = place then (place, entry) else e) =
      (s.put place entry).entries := by
    refine (List.map_congr_left fun e he => ?_).trans (List.map_id _)
    by_cases hplace : e.1 = place
    · rw [if_pos hplace, eq_of_mem_put he hplace, id]
    · rw [if_neg hplace, id]
  rw [put, if_pos (any_put s place entry), hsame]

/-! ## Ways -/

/-- A way leads to the same place, or nowhere, when a file is put where there was no directory. -/
theorem follow_put {s : Store} {place : Place} (hplace : s.entryAt? place ≠ some .directory)
    (content : ByteArray) (parts : List String) (p : Place) :
    ((s.put place (.file content)).follow p parts).toOption = (s.follow p parts).toOption := by
  induction parts generalizing p with
  | nil => rfl
  | cons part rest ih =>
    by_cases hp : p = place
    · -- neither store has a directory here, so that both ways end
      have hfile := entryAt?_put_self s (isAbove_eq_false hplace) (.file content)
      rw [follow, follow, hp, hfile]
      rcases hentry : s.entryAt? place with _ | _ | _
      · rfl
      · exact absurd hentry hplace
      · rfl
    · rw [follow, follow, entryAt?_put_of_ne s hp]
      rcases s.entryAt? p with _ | _ | _
      · rfl
      · by_cases hlong : FileName.isLongPart part = true
        · simp only [if_pos hlong]
        · simp only [if_neg hlong, ih]
      · rfl

/-- A name leads to the same place, or nowhere, when a file is put where there was no directory. -/
theorem locate_put {s : Store} {place : Place} (hplace : s.entryAt? place ≠ some .directory)
    (content : ByteArray) (name : FileName) :
    ((s.put place (.file content)).locate name).toOption = (s.locate name).toOption := by
  unfold locate
  by_cases hnull : name.hasNull = true
  · rw [if_pos hnull, if_pos hnull]
  · rw [if_neg hnull, if_neg hnull]
    by_cases hlong : name.isLong = true
    · rw [if_pos hlong, if_pos hlong]
    · rw [if_neg hlong, if_neg hlong, follow_put hplace]

/-! ## Names that are none -/

/-- A way leads nowhere for another reason than a null character. -/
theorem follow_ne_nullInName (s : Store) (place : Place) (parts : List String) :
    s.follow place parts ≠ .error .nullInName := by
  induction parts generalizing place with
  | nil => exact fun h => by cases h
  | cons part rest ih =>
    rw [follow]
    rcases s.entryAt? place with _ | _ | _
    · exact fun h => by cases h
    · by_cases hlong : FileName.isLongPart part = true
      · simp only [if_pos hlong]
        exact fun h => by cases h
      · simp only [if_neg hlong]
        exact ih _
    · exact fun h => by cases h

/-- Only a name with a null character is refused for one, whatever the files are. -/
theorem locate_eq_nullInName {s : Store} {name : FileName} :
    s.locate name = .error .nullInName ↔ name.hasNull = true := by
  rw [locate]
  by_cases hnull : name.hasNull = true
  · simp [hnull]
  · rw [if_neg hnull]
    by_cases hlong : name.isLong = true
    · simp [if_pos hlong, hnull]
    · simp [if_neg hlong, hnull, follow_ne_nullInName]

/-- So it is when the file is read. -/
theorem read_eq_nullInName {s : Store} {name : FileName} :
    s.read name = .error .nullInName ↔ name.hasNull = true := by
  rw [← @locate_eq_nullInName s, read]
  rcases s.locate name with trouble | place
  · rw [Except.error_bind, Except.error.injEq, Except.error.injEq]
  · rw [Except.ok_bind]
    rcases s.entryAt? place with _ | _ | _ <;> simp

/-- And so it is when the file is written. -/
theorem write_eq_nullInName {s : Store} {name : FileName} {content : ByteArray} :
    (∃ s', s.write name content = .error (.nullInName, s')) ↔ name.hasNull = true := by
  rw [← @locate_eq_nullInName s, write]
  rcases s.locate name with trouble | place
  · simp
  · simp only [reduceCtorEq, iff_false, not_exists]
    rintro s' h
    split at h
    · cases h
    · rcases hdisk : s.disk place content with _ | _ | _ <;> rw [hdisk] at h <;> cases h

/-! ## What can come of a write -/

/-- What can come of writing the bytes of a file: they are there in the stead of what was there, where there is no
directory; or nothing is changed; or only some of the first bytes are there. -/
inductive Wrote (s : Store) (name : FileName) (content : ByteArray) : Except (Trouble × Store) Store → Prop
  | whole {place : Place} (hplace : s.locate name = .ok place) (hfree : s.entryAt? place ≠ some .directory)
      (hdisk : s.disk place content = .taken) : Wrote s name content (.ok (s.put place (.file content)))
  | untouched (trouble : Trouble) : Wrote s name content (.error (trouble, s))
  | cut {place : Place} {reason : String} (length : Nat) (hplace : s.locate name = .ok place)
      (hfree : s.entryAt? place ≠ some .directory) (hdisk : s.disk place content = .cut length reason) :
      Wrote s name content (.error (.disk reason, s.put place (.file (content.extract 0 length))))

/-- **One of these is what comes of every write.** -/
theorem wrote (s : Store) (name : FileName) (content : ByteArray) : Wrote s name content (s.write name content) := by
  unfold write
  rcases hplace : s.locate name with trouble | place
  · exact .untouched trouble
  · simp only
    split
    · exact .untouched .isADirectory
    · next hfree =>
      rcases hdisk : s.disk place content with _ | reason | ⟨length, reason⟩
      · exact .whole hplace hfree hdisk
      · exact .untouched (.disk reason)
      · exact .cut length hplace hfree hdisk

/-- A write that succeeds puts the file at the place of its name. -/
theorem write_eq_ok {s s' : Store} {name : FileName} {content : ByteArray} (h : s.write name content = .ok s') :
    ∃ place, s.locate name = .ok place ∧ s.entryAt? place ≠ some .directory ∧ s.disk place content = .taken ∧
      s' = s.put place (.file content) := by
  have hwrote := s.wrote name content
  rw [h] at hwrote
  cases hwrote with
  | whole hplace hfree hdisk => exact ⟨_, hplace, hfree, hdisk, rfl⟩

/-! ## Reading what was written -/

/-- A file that was put is read under every name that leads there. -/
theorem read_put_self {s : Store} {place : Place} {name : FileName} (hplace : s.locate name = .ok place)
    (hfree : s.entryAt? place ≠ some .directory) (content : ByteArray) :
    (s.put place (.file content)).read name = .ok content := by
  rw [read, Except.eq_ok_of_toOption (locate_put hfree content name) hplace, Except.ok_bind,
    entryAt?_put_self s (isAbove_eq_false hfree)]

/-- **A file that was written is read back**, and writing the same again changes nothing. -/
theorem read_write_self {s s' : Store} {name : FileName} {content : ByteArray}
    (h : s.write name content = .ok s') : s'.read name = .ok content ∧ s'.write name content = .ok s' := by
  obtain ⟨place, hplace, hfree, hdisk, rfl⟩ := write_eq_ok h
  refine ⟨read_put_self hplace hfree content, ?_⟩
  have hsame : (s.put place (.file content)).disk place content = .taken := hdisk
  rw [write, Except.eq_ok_of_toOption (locate_put hfree content name) hplace]
  simp only [entryAt?_put_self s (isAbove_eq_false hfree), hsame, put_put]

/-- **A write that fails changes nothing, or leaves some of the first bytes.** -/
theorem write_eq_error {s s' : Store} {name : FileName} {content : ByteArray} {trouble : Trouble}
    (h : s.write name content = .error (trouble, s')) :
    s' = s ∨ ∃ length, s'.read name = .ok (content.extract 0 length) := by
  have hwrote := s.wrote name content
  rw [h] at hwrote
  cases hwrote with
  | untouched => exact .inl rfl
  | cut length hplace hfree => exact .inr ⟨length, read_put_self hplace hfree _⟩

/-- What is under a name stays when a file is put elsewhere. -/
theorem find?_put_of_ne {s : Store} {place : Place} {name other : FileName} (hplace : s.locate name = .ok place)
    (hfree : s.entryAt? place ≠ some .directory) (content : ByteArray)
    (hne : (s.locate other).toOption ≠ (s.locate name).toOption) :
    (s.put place (.file content)).find? other = s.find? other := by
  have hother := locate_put hfree content other
  -- a name that leads nowhere does so afterwards; any other leads to a place that was not written
  rcases hq : s.locate other with trouble | q
  · rw [hq] at hother
    rcases hq' : (s.put place (.file content)).locate other with trouble' | q'
    · simp only [find?, hq, hq']
    · rw [hq'] at hother
      cases hother
  · have hneq : q ≠ place := by
      rw [hq, hplace] at hne
      exact fun heq => hne (by rw [heq])
    simp only [find?, hq, Except.eq_ok_of_toOption hother hq, entryAt?_put_of_ne s hneq]

/-- **What is under a name that leads elsewhere stays**, whatever comes of the write: the same file or directory, or
still nothing. -/
theorem find?_left_write_of_ne (s : Store) {name other : FileName} (content : ByteArray)
    (hne : (s.locate other).toOption ≠ (s.locate name).toOption) :
    (left (s.write name content)).find? other = s.find? other := by
  have hwrote := s.wrote name content
  generalize s.write name content = result at hwrote ⊢
  cases hwrote with
  | whole hplace hfree => exact find?_put_of_ne hplace hfree content hne
  | untouched => rfl
  | cut length hplace hfree => exact find?_put_of_ne hplace hfree _ hne

end Store

end LifePlan
