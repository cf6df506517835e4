import LifePlan.Proofs.Markup

/-!
# What is shown of escaped texts

A text that was escaped is shown and not obeyed, whatever stands behind it that belongs to none of its groups: nothing
of it is read as a tag (`read_escape_append`), and its characters are shown in their order, only that there may be
another number of backslashes (`filter_shownEscaped`). One is lost in front of each bracket that starts no group, a
single one at the end gets a second one, and in front of a closing tag each pair gives one. So it is said exactly which
texts are shown as they are, alone (`shownEscaped_eq_self_iff`), in a style (`shownStyled_eq_self_iff`) and between the
words of a notice (`shownEscaped_between`, `lessened_eq_self_iff`).
-/

namespace LifePlan

namespace Markup

variable {name text cs : List Char} {c : Char}

/-! ## Backslashes -/

/-- The number of backslashes at the end of a text that comes after some of them. -/
def slashesAtEnd (slashes : Nat) : List Char → Nat
  | [] => slashes
  | c :: cs => slashesAtEnd (if c = '\\' then slashes + 1 else 0) cs

/-- What an escaped text shows, up to the backslashes at its end. An opening bracket that starts no group takes away one
of the backslashes in front of it. The backslashes that have just been passed are counted. -/
def shownHead (slashes : Nat) : List Char → List Char
  | [] => []
  | c :: cs =>
    if c = '\\' then shownHead (slashes + 1) cs
    else if c = '[' ∧ opensGroup cs = false then List.replicate (slashes - 1) '\\' ++ '[' :: shownHead 0 cs
    else List.replicate slashes '\\' ++ c :: shownHead 0 cs

/-- The number of backslashes at the end of an escaped text: a single one gets a second one. -/
def closedSlashes (n : Nat) : Nat := if n = 1 then 2 else n

/-- Backslashes are counted while they are read. -/
theorem atoms_replicate (n k : Nat) (rest : List Char) :
    atoms (.outside n) (List.replicate k '\\' ++ rest) = atoms (.outside (n + k)) rest := by
  induction k generalizing n with
  | zero => rfl
  | succ k ih =>
    rw [List.replicate_succ, List.cons_append, atoms, if_pos rfl, ih, Nat.add_right_comm, Nat.add_assoc]

/-- Backslashes are no matter for where a group ends. -/
theorem closes_replicate (n : Nat) (rest : List Char) :
    closes (List.replicate n '\\' ++ rest) = closes rest := by
  induction n with
  | zero => rfl
  | succ n ih => rw [List.replicate_succ, List.cons_append, closes, if_neg (by decide), if_neg (by decide), ih]

/-- A backslash starts no group. -/
theorem opensGroup_replicate {rest : List Char} (h : opensGroup rest = false) (n : Nat) :
    opensGroup (List.replicate n '\\' ++ rest) = false := by
  cases n with
  | zero => exact h
  | succ n => rfl

/-- Backslashes that have been passed come first. -/
theorem exists_escapeGroups_succ (n : Nat) (cs : List Char) :
    ∃ ds, escapeGroups (n + 1) cs = '\\' :: ds := by
  induction cs generalizing n with
  | nil => exact ⟨List.replicate n '\\', rfl⟩
  | cons c cs ih =>
    rw [escapeGroups]
    by_cases hslash : c = '\\'
    · rw [if_pos hslash]
      exact ih (n + 1)
    · rw [if_neg hslash]
      by_cases hgroup : c = '[' ∧ opensGroup cs = true
      · rw [if_pos hgroup, Nat.mul_add, List.replicate_succ]
        exact ⟨_, rfl⟩
      · rw [if_neg hgroup, List.replicate_succ]
        exact ⟨_, rfl⟩

section behind

/- What comes behind the escaped text, which is no part of its groups. -/
variable {rest : List Char} (hcloses : closes rest = false)

include hcloses

/-- A group ends in an escaped text if it does in the text. -/
theorem closes_escapeGroups (n : Nat) (cs : List Char) : closes (escapeGroups n cs ++ rest) = closes cs := by
  induction cs generalizing n with
  | nil => rw [escapeGroups, closes_replicate, hcloses, closes]
  | cons c cs ih =>
    rw [escapeGroups]
    by_cases hslash : c = '\\'
    · rw [if_pos hslash, ih, closes, if_neg (by rw [hslash]; decide), if_neg (by rw [hslash]; decide)]
    · rw [if_neg hslash]
      by_cases hgroup : c = '[' ∧ opensGroup cs = true
      · rw [if_pos hgroup, List.append_assoc, closes_replicate, hgroup.1]
        rfl
      · rw [if_neg hgroup, List.append_assoc, closes_replicate, List.cons_append, closes, closes, ih]

variable (hopens : opensGroup rest = false)

include hopens

/-- A group starts with an escaped text if it does with the text. -/
theorem opensGroup_escapeGroups (cs : List Char) : opensGroup (escapeGroups 0 cs ++ rest) = opensGroup cs := by
  rcases cs with _ | ⟨c, cs⟩
  · exact hopens
  · rw [escapeGroups]
    by_cases hslash : c = '\\'
    · obtain ⟨ds, hds⟩ := exists_escapeGroups_succ 0 cs
      rw [if_pos hslash, hds, hslash]
      rfl
    · rw [if_neg hslash]
      by_cases hgroup : c = '[' ∧ opensGroup cs = true
      · rw [if_pos hgroup, hgroup.1]
        rfl
      · rw [if_neg hgroup, List.replicate_zero, List.nil_append, List.cons_append, opensGroup, opensGroup,
          closes_escapeGroups hcloses 0 cs]

/-- **Escaped groups are shown**: what is read are the characters of the text, and then, behind the backslashes at its
end, what comes behind it. -/
theorem read_escapeGroups (n : Nat) (cs : List Char) :
    read (escapeGroups n cs ++ rest) =
      (shownHead n cs).map .glyph ++ atoms (.outside (slashesAtEnd n cs)) rest := by
  induction cs generalizing n with
  | nil =>
    rw [escapeGroups, read, atoms_replicate, Nat.zero_add, shownHead, slashesAtEnd, List.map_nil, List.nil_append]
  | cons c cs ih =>
    have hglyphs (k : Nat) (ds : List Char) :
        slashGlyphs k ++ .glyph c :: ds.map .glyph = (List.replicate k '\\' ++ c :: ds).map .glyph := by
      rw [slashGlyphs, List.map_append, List.map_replicate, List.map_cons]
    rw [escapeGroups, shownHead, slashesAtEnd]
    by_cases hslash : c = '\\'
    · rw [if_pos hslash, if_pos hslash, if_pos hslash]
      exact ih (n + 1)
    · rw [if_neg hslash, if_neg hslash, if_neg hslash]
      by_cases hbracket : c = '['
      · have hopens := opensGroup_escapeGroups hcloses hopens cs
        by_cases hgroup : opensGroup cs = true
        -- an odd number of backslashes stands in front of a group
        · have hhalf : (2 * n + 1) / 2 = n := by omega
          rw [if_pos ⟨hbracket, hgroup⟩, if_neg (by simp [hgroup]), List.append_assoc, read, atoms_replicate,
            List.cons_append, atoms, if_neg (by decide), if_pos rfl, if_pos (hopens.trans hgroup),
            if_pos (by omega), Nat.zero_add, hhalf, ← read, ih, ← hglyphs, hbracket]
          simp
        · rw [Bool.not_eq_true] at hgroup
          rw [if_neg (by simp [hgroup]), if_pos ⟨hbracket, hgroup⟩, List.append_assoc, read, atoms_replicate,
            List.cons_append, atoms, if_neg hslash, if_pos hbracket,
            if_neg (by rw [hopens, hgroup]; decide), Nat.zero_add, ← read, ih, ← hbracket, ← hglyphs]
          simp
      · rw [if_neg (fun h => hbracket h.1), if_neg (fun h => hbracket h.1), List.append_assoc, read, atoms_replicate,
          List.cons_append, atoms, if_neg hslash, if_neg hbracket, Nat.zero_add, ← read, ih, ← hglyphs]
        simp

end behind

/-! ## The backslashes at the end -/

/-- They are counted up to the last character. -/
theorem slashesAtEnd_concat (n : Nat) (cs : List Char) (c : Char) :
    slashesAtEnd n (cs ++ [c]) = if c = '\\' then slashesAtEnd n cs + 1 else 0 := by
  induction cs generalizing n with
  | nil => rfl
  | cons d cs ih => rw [List.cons_append, slashesAtEnd, slashesAtEnd, ih]

/-- Those at the end of a text are added to those behind it. -/
theorem slashesAtEnd_append (n k : Nat) (cs : List Char) :
    slashesAtEnd n (cs ++ List.replicate k '\\') = slashesAtEnd n cs + k := by
  induction k with
  | zero => rw [List.replicate_zero, List.append_nil, Nat.add_zero]
  | succ k ih =>
    rw [List.replicate_succ', ← List.append_assoc, slashesAtEnd_concat, if_pos rfl, ih, Nat.add_assoc]

/-- Only those behind the last other character count. -/
theorem slashesAtEnd_append_cons {c : Char} (h : c ≠ '\\') (n : Nat) (before cs : List Char) :
    slashesAtEnd n (before ++ c :: cs) = slashesAtEnd 0 cs := by
  induction before generalizing n with
  | nil => rw [List.nil_append, slashesAtEnd, if_neg h]
  | cons d before ih => rw [List.cons_append, slashesAtEnd, ih]

/-- There are none if and only if the text does not end with one. -/
theorem slashesAtEnd_eq_zero_iff (cs : List Char) : slashesAtEnd 0 cs = 0 ↔ cs.getLast? ≠ some '\\' := by
  rcases List.eq_nil_or_concat cs with rfl | ⟨cs, c, rfl⟩
  · simp [slashesAtEnd]
  · rw [List.concat_eq_append, slashesAtEnd_concat, List.getLast?_concat]
    by_cases hslash : c = '\\'
    · simp [hslash]
    · simp [hslash]

/-- To escape a text leaves the backslashes at its end. -/
theorem slashesAtEnd_escapeGroups (n : Nat) (cs : List Char) :
    slashesAtEnd 0 (escapeGroups n cs) = slashesAtEnd n cs := by
  induction cs generalizing n with
  | nil =>
    have hslashes := slashesAtEnd_append 0 n []
    rw [List.nil_append] at hslashes
    rw [escapeGroups, hslashes, slashesAtEnd, slashesAtEnd, Nat.zero_add]
  | cons c cs ih =>
    rw [escapeGroups, slashesAtEnd]
    by_cases hslash : c = '\\'
    · rw [if_pos hslash, if_pos hslash, ih]
    · rw [if_neg hslash, if_neg hslash]
      by_cases hgroup : c = '[' ∧ opensGroup cs = true
      · rw [if_pos hgroup, slashesAtEnd_append_cons (by decide), ih]
      · rw [if_neg hgroup, slashesAtEnd_append_cons hslash, ih]

/-- What is shown before them does not end with one. -/
theorem slashesAtEnd_shownHead (n : Nat) (cs : List Char) : slashesAtEnd 0 (shownHead n cs) = 0 := by
  induction cs generalizing n with
  | nil => rfl
  | cons c cs ih =>
    rw [shownHead]
    by_cases hslash : c = '\\'
    · rw [if_pos hslash, ih]
    · rw [if_neg hslash]
      split
      · rw [slashesAtEnd_append_cons (by decide), ih]
      · rw [slashesAtEnd_append_cons hslash, ih]

/-- A text that ends in a single backslash gets another one. -/
theorem closeSlash_eq (cs : List Char) :
    closeSlash cs = cs ++ List.replicate (closedSlashes (slashesAtEnd 0 cs) - slashesAtEnd 0 cs) '\\' := by
  rcases List.eq_nil_or_concat cs with rfl | ⟨cs, c, rfl⟩
  · rfl
  · rw [List.concat_eq_append, slashesAtEnd_concat]
    by_cases hslash : c = '\\'
    · rw [if_pos hslash, hslash]
      rcases List.eq_nil_or_concat cs with rfl | ⟨cs, d, rfl⟩
      · rfl
      · rw [List.concat_eq_append, slashesAtEnd_concat, closeSlash]
        by_cases hslash' : d = '\\'
        · simp [hslash', closedSlashes]
        · simp [hslash', closedSlashes]
    · rw [if_neg hslash, closeSlash]
      simp [hslash, closedSlashes]

/-! ## Escaped texts in front of something else -/

/-- **A text that was escaped is shown and not obeyed**, whatever it holds: what is read are the characters of the text,
apart from some of its backslashes, and then, behind those at its end, what comes behind the text. -/
theorem read_escape_append {rest : List Char} (hcloses : closes rest = false) (hopens : opensGroup rest = false)
    (cs : List Char) :
    read (escape cs ++ rest) =
      (shownHead 0 cs).map .glyph ++ atoms (.outside (closedSlashes (slashesAtEnd 0 cs))) rest := by
  have hclosed (n : Nat) : n + (closedSlashes n - n) = closedSlashes n := by
    unfold closedSlashes
    split <;> omega
  rw [escape, closeSlash_eq, slashesAtEnd_escapeGroups, List.append_assoc,
    read_escapeGroups (by rw [closes_replicate, hcloses]) (opensGroup_replicate hopens _), atoms_replicate, hclosed]

/-- What an escaped text shows where nothing comes behind it. -/
def shownEscaped (cs : List Char) : List Char :=
  shownHead 0 cs ++ List.replicate (closedSlashes (slashesAtEnd 0 cs)) '\\'

/-- Its characters are read. -/
theorem read_escape (cs : List Char) : read (escape cs) = (shownEscaped cs).map .glyph := by
  have hread : read (escape cs ++ []) = _ := read_escape_append rfl rfl cs
  rw [List.append_nil] at hread
  rw [hread, shownEscaped, List.map_append, List.map_replicate]
  rfl

/-- What an escaped text shows in a style: the backslashes at its end stand in front of the closing tag, which is shown
too if their number is odd. -/
def shownStyled (name cs : List Char) : List Char :=
  let slashes := closedSlashes (slashesAtEnd 0 cs)
  shownHead 0 cs ++
    (List.replicate (slashes / 2) '\\' ++ if slashes % 2 = 1 then '[' :: '/' :: (name ++ [']']) else [])

/-- Its characters are shown behind the tag. -/
theorem shown_styled_escape (hname : IsTag name) (hplain : IsPlain name) (cs rest : List Char) :
    shown (read (styled name (escape cs) ++ rest)) = shownStyled name cs ++ shown (read rest) := by
  have hopening (as : List Atom) : shown (.tag name :: as) = shown as := rfl
  rw [styled_append, read_tag hname, hopening, read_escape_append rfl rfl, atoms_tag hname.close, shown_atoms_append,
    shown_atoms_append, shown_glyphs, shown_slashGlyphs, shownStyled]
  by_cases hodd : closedSlashes (slashesAtEnd 0 cs) % 2 = 1
  · have hclosing : IsPlain ('/' :: (name ++ [']'])) := by
      refine List.forall_mem_cons.mpr ⟨by decide, List.forall_mem_append.mpr ⟨hplain, fun c hc => ?_⟩⟩
      rw [List.mem_singleton.mp hc]
      decide
    have hsplit : ('/' :: name) ++ ']' :: rest = '/' :: (name ++ [']']) ++ rest := by simp
    have hbracket (as : List Atom) : shown (.glyph '[' :: as) = '[' :: shown as := rfl
    simp only [if_pos hodd]
    rw [hbracket, hsplit, read_append hclosing, shown_atoms_append, shown_glyphs]
    simp
  · have hclosing (as : List Atom) : shown (.tag ('/' :: name) :: as) = shown as := rfl
    simp only [if_neg hodd, hclosing]
    simp

/-! ## Texts that are shown as they are -/

/-- A text starts with a bracket group: an opening bracket, one of the characters that may stand first in a group, other
characters, which are no opening brackets, and a closing bracket. -/
def StartsGroup (cs : List Char) : Prop :=
  ∃ c body rest, cs = '[' :: c :: (body ++ ']' :: rest) ∧ opensTag c = true ∧ '[' ∉ body

/-- A text runs to a closing bracket if there is one with no opening bracket before it. -/
theorem closes_iff (cs : List Char) : closes cs = true ↔ ∃ body rest, cs = body ++ ']' :: rest ∧ '[' ∉ body := by
  induction cs with
  | nil => simp [closes]
  | cons c cs ih =>
    rw [closes]
    by_cases hclosing : c = ']'
    · rw [if_pos hclosing, hclosing]
      exact ⟨fun _ => ⟨[], cs, rfl, List.not_mem_nil⟩, fun _ => rfl⟩
    · rw [if_neg hclosing]
      by_cases hopening : c = '['
      · rw [if_pos hopening, hopening]
        constructor
        · exact fun h => by cases h
        · rintro ⟨_ | ⟨d, body⟩, rest, hcs, hbody⟩
          · cases hcs
          · cases hcs
            exact absurd List.mem_cons_self hbody
      · rw [if_neg hopening, ih]
        constructor
        · rintro ⟨body, rest, rfl, hbody⟩
          refine ⟨c :: body, rest, rfl, fun h => ?_⟩
          rcases List.mem_cons.mp h with heq | h
          · exact hopening heq.symm
          · exact hbody h
        · rintro ⟨_ | ⟨d, body⟩, rest, hcs, hbody⟩
          · cases hcs
            exact absurd rfl hclosing
          · cases hcs
            exact ⟨body, rest, rfl, fun h => hbody (List.mem_cons_of_mem _ h)⟩

/-- That is what reading markup looks for. -/
theorem startsGroup_iff (cs : List Char) : StartsGroup ('[' :: cs) ↔ opensGroup cs = true := by
  rcases cs with _ | ⟨c, cs⟩
  · constructor
    · rintro ⟨c, body, rest, hcs, -⟩
      cases hcs
    · exact fun h => by cases h
  · rw [opensGroup, Bool.and_eq_true, closes_iff]
    constructor
    · rintro ⟨c, body, rest, hcs, hc, hbody⟩
      cases hcs
      exact ⟨hc, body, rest, rfl, hbody⟩
    · rintro ⟨hc, body, rest, rfl, hbody⟩
      exact ⟨c, body, rest, rfl, hc, hbody⟩

/-- Every opening bracket with a backslash in front of it starts a group. -/
def IsShielded (cs : List Char) : Prop := ∀ after, '\\' :: '[' :: after <:+ cs → StartsGroup ('[' :: after)

/-- The text with one backslash less in front of each opening bracket that starts no group. -/
def lessened (cs : List Char) : List Char :=
  shownHead 0 cs ++ List.replicate (slashesAtEnd 0 cs) '\\'

/-- Behind some backslashes and another character, an opening bracket follows a backslash where it does in the rest; or
the other character is one. -/
theorem suffix_replicate_append_cons {c : Char} (hc : c ≠ '\\') (n : Nat) (cs after : List Char) :
    '\\' :: '[' :: after <:+ List.replicate n '\\' ++ c :: cs ↔
      (0 < n ∧ c = '[' ∧ after = cs) ∨ '\\' :: '[' :: after <:+ cs := by
  induction n with
  | zero =>
    rw [List.replicate_zero, List.nil_append, List.suffix_cons_iff]
    constructor
    · rintro (h | h)
      · exact absurd (List.cons.inj h).1.symm hc
      · exact .inr h
    · rintro (⟨h, -⟩ | h)
      · exact absurd h (Nat.lt_irrefl 0)
      · exact .inr h
  | succ n ih =>
    rw [List.replicate_succ, List.cons_append, List.suffix_cons_iff, ih]
    constructor
    · rintro (h | ⟨-, h⟩ | h)
      · rcases n with _ | n
        · cases h
          exact .inl ⟨Nat.one_pos, rfl, rfl⟩
        · cases h
      · exact .inl ⟨Nat.succ_pos n, h⟩
      · exact .inr h
    · rintro (⟨-, rfl, rfl⟩ | h)
      · rcases n with _ | n
        · exact .inl rfl
        · exact .inr (.inl ⟨Nat.succ_pos n, rfl, rfl⟩)
      · exact .inr (.inr h)

/-- What is shown of a text behind some backslashes is the text itself if and only if no backslash is lost. -/
theorem shownHead_append_eq_iff (n : Nat) (cs : List Char) :
    shownHead n cs ++ List.replicate (slashesAtEnd n cs) '\\' = List.replicate n '\\' ++ cs ↔
      IsShielded (List.replicate n '\\' ++ cs) := by
  induction cs generalizing n with
  | nil =>
    rw [shownHead, slashesAtEnd, List.nil_append, List.append_nil]
    refine ⟨fun _ after h => ?_, fun _ => rfl⟩
    have hmem := h.mem (List.mem_cons_of_mem _ List.mem_cons_self)
    exact absurd (List.eq_of_mem_replicate hmem) (by decide)
  | cons c cs ih =>
    rw [shownHead, slashesAtEnd]
    by_cases hslash : c = '\\'
    · have hmore : List.replicate n '\\' ++ '\\' :: cs = List.replicate (n + 1) '\\' ++ cs := by
        rw [List.replicate_succ', List.append_assoc, List.singleton_append]
      rw [if_pos hslash, if_pos hslash, hslash, hmore, ih]
    · have hrest := ih 0
      rw [List.replicate_zero, List.nil_append] at hrest
      rw [if_neg hslash, if_neg hslash]
      have hshielded : IsShielded (List.replicate n '\\' ++ c :: cs) ↔
          (0 < n ∧ c = '[' → opensGroup cs = true) ∧ IsShielded cs := by
        simp only [IsShielded, suffix_replicate_append_cons hslash, ← startsGroup_iff]
        constructor
        · exact fun h => ⟨fun hc => h cs (.inl ⟨hc.1, hc.2, rfl⟩), fun after hafter => h after (.inr hafter)⟩
        · rintro ⟨hc, hcs⟩ after (⟨hn, hbracket, rfl⟩ | hafter)
          · exact hc ⟨hn, hbracket⟩
          · exact hcs after hafter
      rw [hshielded, ← hrest]
      by_cases hlost : c = '[' ∧ opensGroup cs = false
      · rw [if_pos hlost, hlost.1, hlost.2]
        rcases n with _ | n
        · simp
        · -- one backslash less stands in front of the bracket
          simp only [Nat.add_sub_cancel, List.replicate_succ', List.append_assoc, List.append_cancel_left_eq]
          simp
      · have hopens : 0 < n ∧ c = '[' → opensGroup cs = true := fun h =>
          Bool.not_eq_false _ ▸ fun hnone => hlost ⟨h.2, hnone⟩
        rw [if_neg hlost, List.append_assoc, List.append_cancel_left_eq, List.cons_append, List.cons.injEq]
        exact ⟨fun h => ⟨hopens, h.2⟩, fun h => ⟨rfl, h.2⟩⟩

/-- **No backslash is lost if and only if each one in front of an opening bracket is in front of a group.** -/
theorem lessened_eq_self_iff (cs : List Char) : lessened cs = cs ↔ IsShielded cs := shownHead_append_eq_iff 0 cs

instance (cs : List Char) : Decidable (IsShielded cs) := decidable_of_iff _ (lessened_eq_self_iff cs)

/-- A text ends in exactly one backslash. -/
def EndsInOneSlash (cs : List Char) : Prop := ∃ before, cs = before ++ ['\\'] ∧ before.getLast? ≠ some '\\'

/-- Then it has one at its end. -/
theorem slashesAtEnd_eq_one_iff (cs : List Char) : slashesAtEnd 0 cs = 1 ↔ EndsInOneSlash cs := by
  rcases List.eq_nil_or_concat cs with rfl | ⟨before, c, rfl⟩
  · constructor
    · exact fun h => by cases h
    · rintro ⟨before, hbefore, -⟩
      simp at hbefore
  · rw [List.concat_eq_append, slashesAtEnd_concat]
    constructor
    · intro h
      by_cases hslash : c = '\\'
      · rw [if_pos hslash, Nat.add_eq_right, slashesAtEnd_eq_zero_iff] at h
        exact ⟨before, by rw [hslash], h⟩
      · rw [if_neg hslash] at h
        cases h
    · rintro ⟨before', heq, hbefore⟩
      obtain ⟨rfl, hslash⟩ := List.append_inj' heq rfl
      rw [if_pos (List.cons.inj hslash).1, (slashesAtEnd_eq_zero_iff before).mpr hbefore]

instance (cs : List Char) : Decidable (EndsInOneSlash cs) := decidable_of_iff _ (slashesAtEnd_eq_one_iff cs)

/-- A text ends in two backslashes if it has as many at its end. -/
theorem two_le_slashesAtEnd_iff (cs : List Char) : 2 ≤ slashesAtEnd 0 cs ↔ ['\\', '\\'] <:+ cs := by
  constructor
  · intro h
    rcases List.eq_nil_or_concat cs with rfl | ⟨before, c, rfl⟩
    · cases h
    · rw [List.concat_eq_append, slashesAtEnd_concat] at h
      by_cases hslash : c = '\\'
      · rw [if_pos hslash] at h
        rcases List.eq_nil_or_concat before with rfl | ⟨before, d, rfl⟩
        · exact absurd h (by decide)
        · rw [List.concat_eq_append, slashesAtEnd_concat] at h
          by_cases hslash' : d = '\\'
          · exact ⟨before, by simp [hslash, hslash']⟩
          · rw [if_neg hslash'] at h
            exact absurd h (by decide)
      · rw [if_neg hslash] at h
        exact absurd h (by decide)
  · rintro ⟨before, rfl⟩
    have hslashes : slashesAtEnd 0 (before ++ ['\\', '\\']) = slashesAtEnd 0 before + 2 :=
      slashesAtEnd_append 0 2 before
    rw [hslashes]
    exact Nat.le_add_left 2 _

/-- What is shown has the backslashes at its end that were put there. -/
theorem slashesAtEnd_shownHead_append (cs : List Char) (k : Nat) :
    slashesAtEnd 0 (shownHead 0 cs ++ List.replicate k '\\') = k := by
  rw [slashesAtEnd_append, slashesAtEnd_shownHead, Nat.zero_add]

/-- **An escaped text is shown as it is** if and only if each backslash in front of an opening bracket is in front of a
group, and there is not just one backslash at its end. -/
theorem shownEscaped_eq_self_iff (cs : List Char) : shownEscaped cs = cs ↔ IsShielded cs ∧ ¬ EndsInOneSlash cs := by
  rw [← slashesAtEnd_eq_one_iff, ← lessened_eq_self_iff]
  by_cases hone : slashesAtEnd 0 cs = 1
  · refine ⟨fun h => ?_, fun h => absurd hone h.2⟩
    have hslashes := slashesAtEnd_shownHead_append cs (closedSlashes (slashesAtEnd 0 cs))
    rw [← shownEscaped, h, hone] at hslashes
    cases hslashes
  · rw [shownEscaped, closedSlashes, if_neg hone, lessened]
    exact ⟨fun h => ⟨h, hone⟩, And.left⟩

/-- **In a style it is** if and only if each backslash in front of an opening bracket is in front of a group, and there
are not two backslashes at its end. -/
theorem shownStyled_eq_self_iff (name cs : List Char) :
    shownStyled name cs = cs ↔ IsShielded cs ∧ ¬ ['\\', '\\'] <:+ cs := by
  rw [← two_le_slashesAtEnd_iff, ← lessened_eq_self_iff, shownStyled]
  by_cases hmany : 2 ≤ slashesAtEnd 0 cs
  · refine ⟨fun h => ?_, fun h => absurd hmany h.2⟩
    have hclosed : closedSlashes (slashesAtEnd 0 cs) = slashesAtEnd 0 cs := if_neg (by omega)
    rw [hclosed] at h
    -- there are too few backslashes left at the end, or there is a bracket
    exfalso
    by_cases hodd : slashesAtEnd 0 cs % 2 = 1
    · have hslashes : slashesAtEnd 0 cs = 0 := by
        rw [slashesAtEnd_eq_zero_iff, ← h, if_pos hodd]
        simp only [← List.cons_append, ← List.append_assoc, List.getLast?_concat]
        decide
      omega
    · have hslashes := slashesAtEnd_shownHead_append cs (slashesAtEnd 0 cs / 2)
      simp only [if_neg hodd, List.append_nil] at h
      rw [h] at hslashes
      omega
  · have hhalf : closedSlashes (slashesAtEnd 0 cs) / 2 = slashesAtEnd 0 cs ∧
        closedSlashes (slashesAtEnd 0 cs) % 2 = 0 := by
      rcases Nat.le_one_iff_eq_zero_or_eq_one.mp (by omega : slashesAtEnd 0 cs ≤ 1) with h | h
      · rw [h]
        decide
      · rw [h]
        decide
    simp only [hhalf.1, hhalf.2, Nat.zero_ne_one, if_false, List.append_nil]
    exact ⟨fun h => ⟨h, hmany⟩, And.left⟩

/-! ## Characters of an escaped text -/

/-- Nothing but backslashes is added or lost. -/
theorem filter_shownHead (n : Nat) (cs : List Char) :
    (shownHead n cs).filter (· ≠ '\\') = cs.filter (· ≠ '\\') := by
  have hslashes (k : Nat) : (List.replicate k '\\').filter (· ≠ '\\') = [] := by
    rw [List.filter_replicate_of_neg (by decide)]
  induction cs generalizing n with
  | nil => rfl
  | cons c cs ih =>
    rw [shownHead]
    by_cases hslash : c = '\\'
    · rw [if_pos hslash, ih, List.filter_cons_of_neg (by simp [hslash])]
    · rw [if_neg hslash]
      split
      · rename_i hlost
        rw [List.filter_append, hslashes, List.nil_append, hlost.1, List.filter_cons, List.filter_cons, ih]
      · rw [List.filter_append, hslashes, List.nil_append, List.filter_cons, List.filter_cons, ih]

/-- **An escaped text shows its characters in their order**, only that there may be another number of backslashes. -/
theorem filter_shownEscaped (cs : List Char) :
    (shownEscaped cs).filter (· ≠ '\\') = cs.filter (· ≠ '\\') := by
  rw [shownEscaped, List.filter_append, filter_shownHead, List.filter_replicate_of_neg (by decide), List.append_nil]

/-- What is shown of a text are characters of the text and backslashes. -/
theorem mem_shownHead {n : Nat} (h : c ∈ shownHead n cs) : c = '\\' ∨ c ∈ cs := by
  refine Decidable.or_iff_not_imp_left.mpr fun hslash => ?_
  have hkept : c ∈ (shownHead n cs).filter (· ≠ '\\') := List.mem_filter.mpr ⟨h, decide_eq_true hslash⟩
  rw [filter_shownHead] at hkept
  exact (List.mem_filter.mp hkept).1

/-! ## Words of the user between words of the program -/

/-- What stands behind a text ends no group of it, if it runs to no closing bracket. -/
theorem closes_append_eq {rest : List Char} (h : closes rest = false) (cs : List Char) :
    closes (cs ++ rest) = closes cs := by
  induction cs with
  | nil => rw [List.nil_append, h, closes]
  | cons c cs ih => rw [List.cons_append, closes, closes, ih]

/-- So it makes no group out of it. -/
theorem opensGroup_append_eq {rest : List Char} (hcloses : closes rest = false) (hopens : opensGroup rest = false)
    (cs : List Char) : opensGroup (cs ++ rest) = opensGroup cs := by
  cases cs with
  | nil => exact hopens
  | cons c cs => rw [List.cons_append, opensGroup, opensGroup, closes_append_eq hcloses]

/-- A text in front of something that belongs to none of its groups is shown like the text alone. -/
theorem shownHead_append {rest : List Char} (hcloses : closes rest = false) (hopens : opensGroup rest = false)
    (n : Nat) (cs : List Char) :
    shownHead n (cs ++ rest) = shownHead n cs ++ shownHead (slashesAtEnd n cs) rest := by
  induction cs generalizing n with
  | nil => rw [List.nil_append, shownHead, slashesAtEnd, List.nil_append]
  | cons c cs ih =>
    rw [List.cons_append, shownHead, shownHead, slashesAtEnd, opensGroup_append_eq hcloses hopens, ih, ih]
    by_cases hslash : c = '\\'
    · simp only [if_pos hslash]
    · simp only [if_neg hslash]
      split <;> simp

/-- Plain characters in front of a text are shown as they are. -/
theorem shownHead_plain_append (hplain : IsPlain text) (rest : List Char) :
    shownHead 0 (text ++ rest) = text ++ shownHead 0 rest := by
  induction text with
  | nil => rfl
  | cons c text ih =>
    obtain ⟨hc, htext⟩ := List.forall_mem_cons.mp hplain
    rw [List.cons_append, shownHead, if_neg hc.2, if_neg fun h => hc.1 h.1, ih htext, List.replicate_zero,
      List.nil_append, List.cons_append]

/-- **A text between plain ones** loses only backslashes in front of brackets, and none at its end. -/
theorem shownEscaped_between {before after : List Char} (hbefore : IsPlain before) (hne : after ≠ [])
    (hafter : IsPlain after) (hcloses : closes after = false) (cs : List Char) :
    shownEscaped (before ++ cs ++ after) = before ++ lessened cs ++ after := by
  obtain ⟨c, rest, rfl⟩ := List.exists_cons_of_ne_nil hne
  obtain ⟨hc, hplain⟩ := List.forall_mem_cons.mp hafter
  have hrest : closes rest = false := by
    rw [closes, if_neg hc.1] at hcloses
    split at hcloses
    · cases hcloses
    · exact hcloses
  have hopens : opensGroup (c :: rest) = false := by rw [opensGroup, hrest, Bool.and_false]
  have hslashes : slashesAtEnd 0 (before ++ (cs ++ c :: rest)) = 0 := by
    rw [← List.append_assoc, slashesAtEnd_append_cons hc.2, slashesAtEnd_eq_zero_iff]
    exact fun h => (hplain _ (List.mem_of_getLast? h)).2 rfl
  have hshown := shownHead_plain_append hplain []
  rw [List.append_nil, shownHead, List.append_nil] at hshown
  rw [List.append_assoc, shownEscaped, hslashes, shownHead_plain_append hbefore, shownHead_append hcloses hopens,
    shownHead, if_neg hc.2, if_neg fun h => hc.1 h.1, hshown, lessened]
  simp only [closedSlashes, List.append_assoc, Nat.zero_ne_one, if_false, List.replicate_zero, List.append_nil]

end Markup

end LifePlan
