import LifePlan.Markup

/-!
# What is read from markup

Plain characters are read one by one (`read_append`), and a text in a style is read as a tag, the text and the
closing tag (`read_styled`). In front of a tag backslashes are read in pairs, and one that is left over makes it a
text (`atoms_tag`).
-/

namespace LifePlan

namespace Markup

variable {name text cs : List Char} {as : List Atom} {c : Char}

/-! ## Plain characters -/

/-- The character that is shown, if one is. -/
def Atom.char? : Atom → Option Char
  | .glyph c => some c
  | .tag _ => none

/-- The characters that are shown. -/
def shown (as : List Atom) : List Char := as.filterMap Atom.char?

/-- Characters are what they show. -/
theorem shown_glyphs (cs : List Char) : shown (cs.map .glyph) = cs := by
  rw [shown, List.filterMap_map]
  exact List.filterMap_some

/-- Backslashes are, too. -/
theorem shown_slashGlyphs (n : Nat) : shown (slashGlyphs n) = List.replicate n '\\' := by
  rw [slashGlyphs, ← List.map_replicate, shown_glyphs]

/-- Atoms are shown one after the other. -/
theorem shown_atoms_append (as bs : List Atom) : shown (as ++ bs) = shown as ++ shown bs := List.filterMap_append

/-- A text without opening brackets and backslashes. -/
def IsPlain (cs : List Char) : Prop := ∀ c ∈ cs, c ≠ '[' ∧ c ≠ '\\'

instance (cs : List Char) : Decidable (IsPlain cs) := List.decidableBAll (fun c => c ≠ '[' ∧ c ≠ '\\') cs

/-- **Plain characters are read one by one.** -/
theorem read_append (h : IsPlain cs) (rest : List Char) : read (cs ++ rest) = cs.map .glyph ++ read rest := by
  induction cs with
  | nil => rfl
  | cons c cs ih =>
    obtain ⟨⟨hbracket, hslash⟩, hcs⟩ := List.forall_mem_cons.mp h
    have hread : read (c :: (cs ++ rest)) = .glyph c :: read (cs ++ rest) := by
      rw [read, atoms, if_neg hslash, if_neg hbracket]
      rfl
    rw [List.cons_append, hread, ih hcs, List.map_cons, List.cons_append]

/-! ## Tags -/

/-- A text without brackets. -/
def IsInner (cs : List Char) : Prop := ∀ c ∈ cs, c ≠ '[' ∧ c ≠ ']'

instance (cs : List Char) : Decidable (IsInner cs) := List.decidableBAll (fun c => c ≠ '[' ∧ c ≠ ']') cs

/-- A name that a tag can have, or a slash and such a name. -/
structure IsTag (name : List Char) : Prop where
  opens : name.head?.any opensTag = true
  inner : IsInner name

/-- The closing tag of a name. -/
theorem IsTag.close (h : IsTag name) : IsTag ('/' :: name) :=
  ⟨rfl, List.forall_mem_cons.mpr ⟨by decide, h.inner⟩⟩

/-- A group runs to its closing bracket. -/
theorem closes_append (h : IsInner name) (rest : List Char) :
    closes (name ++ ']' :: rest) = true := by
  induction name with
  | nil => rfl
  | cons c name ih =>
    obtain ⟨⟨hopening, hclosing⟩, hname⟩ := List.forall_mem_cons.mp h
    rw [List.cons_append, closes, if_neg hclosing, if_neg hopening, ih hname]

/-- The characters of a group are gathered up to its closing bracket. -/
theorem atoms_inside (h : IsInner name) (body rest : List Char) :
    atoms (.inside body) (name ++ ']' :: rest) = .tag (body.reverse ++ name) :: read rest := by
  induction name generalizing body with
  | nil => rw [List.nil_append, atoms, if_pos rfl, List.append_nil, read]
  | cons c name ih =>
    obtain ⟨⟨-, hclosing⟩, hname⟩ := List.forall_mem_cons.mp h
    rw [List.cons_append, atoms, if_neg hclosing, ih hname, List.reverse_cons, List.append_assoc]
    rfl

/-- A tag takes the backslashes in front of it in pairs. If one is left over, then the tag is shown instead of read. -/
theorem atoms_tag (h : IsTag name) (slashes : Nat) (rest : List Char) :
    atoms (.outside slashes) ('[' :: (name ++ ']' :: rest)) =
      slashGlyphs (slashes / 2) ++
        if slashes % 2 = 1 then .glyph '[' :: read (name ++ ']' :: rest) else .tag name :: read rest := by
  have hgroup : opensGroup (name ++ ']' :: rest) = true := by
    rcases name with _ | ⟨c, name⟩
    · cases h.opens
    · have hopens : opensTag c = true := h.opens
      rw [List.cons_append, opensGroup, hopens, closes_append (List.forall_mem_cons.mp h.inner).2]
      rfl
  rw [atoms, if_neg (by decide), if_pos rfl, if_pos hgroup]
  by_cases hodd : slashes % 2 = 1
  · rw [if_pos hodd, if_pos hodd, read]
  · rw [if_neg hodd, if_neg hodd, atoms_inside h.inner [] rest, List.reverse_nil, List.nil_append]

/-- A tag is read. -/
theorem read_tag (h : IsTag name) (rest : List Char) :
    read ('[' :: (name ++ ']' :: rest)) = .tag name :: read rest := atoms_tag h 0 rest

/-- A text in a style stands between the tag and the closing tag. -/
theorem styled_append (name text rest : List Char) :
    styled name text ++ rest = '[' :: (name ++ ']' :: (text ++ '[' :: (('/' :: name) ++ ']' :: rest))) := by
  simp [styled]

/-- **A text in a style is read as a tag, the text and the closing tag.** -/
theorem read_styled (hname : IsTag name) (htext : IsPlain text) (rest : List Char) :
    read (styled name text ++ rest) = .tag name :: (text.map .glyph ++ .tag ('/' :: name) :: read rest) := by
  rw [styled_append, read_tag hname, read_append htext, read_tag hname.close]

end Markup

end LifePlan
