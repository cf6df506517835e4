import LifePlan.Json.Text

/-!
# Escaping a text and reading it back

`unescape_escape`: what stands between the quotes for a text is read back as that text, whatever its
characters are. The proof goes one character at a time (`unescapeAfter_escapeChar`); the only escapes that
take a calculation are those of the control characters, whose four hexadecimal digits write the
character's code (`codeUnit?_hex`).

`notMem_escape` is the other thing that a file of texts relies on: a carriage return never stands for
itself between the quotes, so that reading line breaks as line feeds changes nothing there.
-/

namespace LifePlan.Json

open Text (hex hexDigit)

/-! ## Hexadecimal digits -/

/-- A written digit is read with its value. -/
theorem hexValue?_hexDigit : ∀ d, d < 16 → hexValue? (hexDigit d) = some d := by decide

/-- The four digits of a code below 2^16 are read as that code. -/
theorem codeUnit?_hex {n : Nat} (h : n < 0x10000) :
    codeUnit? (hexDigit (n / 16 / 16 / 16 % 16)) (hexDigit (n / 16 / 16 % 16)) (hexDigit (n / 16 % 16))
      (hexDigit (n % 16)) = some n := by
  have ha := hexValue?_hexDigit (n / 16 / 16 / 16 % 16) (Nat.mod_lt _ (by decide))
  have hb := hexValue?_hexDigit (n / 16 / 16 % 16) (Nat.mod_lt _ (by decide))
  have hc := hexValue?_hexDigit (n / 16 % 16) (Nat.mod_lt _ (by decide))
  have hd := hexValue?_hexDigit (n % 16) (Nat.mod_lt _ (by decide))
  simp only [codeUnit?, ha, hb, hc, hd, Option.bind_eq_bind, Option.bind_some, Option.pure_def,
    Option.some.injEq]
  omega

/-- The four digits of a code, one by one. -/
theorem hex_four (n : Nat) :
    hex 4 n = [hexDigit (n / 16 / 16 / 16 % 16), hexDigit (n / 16 / 16 % 16), hexDigit (n / 16 % 16),
      hexDigit (n % 16)] := rfl

/-! ## One character -/

/-- The escape of a character that has no shorter one. -/
theorem unescapeAfter_hex {n : Nat} (h : n < 32) (cs : List Char) :
    unescapeAfter none ('\\' :: 'u' :: hex 4 n ++ cs) =
      (unescapeAfter none cs).map (Char.ofNat n :: ·) := by
  have hunit := codeUnit?_hex (n := n) (by omega)
  have hhigh : isHighSurrogate n = false := by simp [isHighSurrogate]; omega
  have hlow : isLowSurrogate n = false := by simp [isLowSurrogate]; omega
  simp only [hex_four, List.cons_append, List.nil_append]
  rw [unescapeAfter]
  simp only [hunit, hhigh, hlow, Option.bind_eq_bind, Option.bind_some, Bool.false_eq_true, if_false,
    Option.pure_def, Option.map_eq_bind, Function.comp_def]

/-- The escape by a letter or a sign. -/
theorem unescapeAfter_short {c d : Char} (hc : c ≠ 'u') (h : shortEscape? c = some d) (cs : List Char) :
    unescapeAfter none ('\\' :: c :: cs) = (unescapeAfter none cs).map (d :: ·) := by
  rw [unescapeAfter.eq_def]
  split
  · next h => exact absurd h (by simp)
  · next h =>
    simp only [List.cons.injEq] at h
    exact absurd h.2.1 hc
  · next c' cs' _ h' =>
    simp only [List.cons.injEq, true_and] at h'
    obtain ⟨rfl, rfl⟩ := h'
    simp only [h, Option.isSome_none, Bool.false_eq_true, if_false, Option.bind_eq_bind, Option.bind_some,
      Option.pure_def, Option.map_eq_bind, Function.comp_def]
  · next hne h' =>
    obtain ⟨rfl, rfl⟩ := List.cons.inj h'
    exact absurd rfl (hne c cs rfl)

/-- A character that stands for itself. -/
theorem unescapeAfter_plain {c : Char} (hquote : c ≠ '"') (hslash : c ≠ '\\') (hcontrol : ¬ c.toNat < 32)
    (cs : List Char) : unescapeAfter none (c :: cs) = (unescapeAfter none cs).map (c :: ·) := by
  rw [unescapeAfter.eq_def]
  split
  · next h => exact absurd h (by simp)
  · next h => simp only [List.cons.injEq] at h; exact absurd h.1 hslash
  · next h => simp only [List.cons.injEq] at h; exact absurd h.1 hslash
  · next c' cs' _ _ h =>
    obtain ⟨rfl, rfl⟩ := List.cons.inj h
    simp only [hquote, hslash, hcontrol, Option.isSome_none, decide_false, Bool.or_false, Bool.false_eq_true,
      if_false, Option.pure_def, Option.bind_eq_bind, Option.map_eq_bind, Function.comp_def]

/-- What is written for a character is read as the character. -/
theorem unescapeAfter_escapeChar (c : Char) (cs : List Char) :
    unescapeAfter none (escapeChar c ++ cs) = (unescapeAfter none cs).map (c :: ·) := by
  unfold escapeChar
  split
  · next h => subst h; exact unescapeAfter_short (by decide) rfl cs
  split
  · next h => subst h; exact unescapeAfter_short (by decide) rfl cs
  split
  · next h => subst h; exact unescapeAfter_short (by decide) rfl cs
  split
  · next h => subst h; exact unescapeAfter_short (by decide) rfl cs
  split
  · next h => subst h; exact unescapeAfter_short (by decide) rfl cs
  split
  · next h => rw [← Char.ofNat_toNat c, h]; exact unescapeAfter_short (by decide) rfl cs
  split
  · next h => rw [← Char.ofNat_toNat c, h]; exact unescapeAfter_short (by decide) rfl cs
  split
  · next h => rw [unescapeAfter_hex h, Char.ofNat_toNat]
  · next hquote hslash _ _ _ _ _ hcontrol => exact unescapeAfter_plain hquote hslash hcontrol cs

/-! ## Whole texts -/

/-- **A text is read back.** -/
theorem unescape_escape (cs : List Char) : unescape (escape cs) = some cs := by
  unfold unescape
  induction cs with
  | nil => rfl
  | cons c cs ih => rw [escape_cons, unescapeAfter_escapeChar, ih, Option.map_some]

/-- The digits of a code are no quote, no backslash and no carriage return. -/
theorem hexDigit_ne : ∀ d, d < 16 → hexDigit d ≠ '"' ∧ hexDigit d ≠ '\\' ∧ hexDigit d ≠ '\r' := by decide

/-- The last digits of a number are hexadecimal digits. -/
theorem exists_of_mem_hex {c : Char} : ∀ {width n : Nat}, c ∈ hex width n → ∃ d, d < 16 ∧ hexDigit d = c
  | 0, _, h => absurd h List.not_mem_nil
  | width + 1, n, h => by
    rcases List.mem_append.mp h with h | h
    · exact exists_of_mem_hex h
    · exact ⟨n % 16, Nat.mod_lt _ (by decide), (List.mem_singleton.mp h).symm⟩

/-- A carriage return is not written for any character. -/
theorem notMem_escapeChar (c : Char) : '\r' ∉ escapeChar c := by
  unfold escapeChar
  repeat' split
  any_goals decide
  · next h _ _ =>
    intro hmem
    simp only [List.mem_cons, Char.reduceEq, false_or] at hmem
    obtain ⟨d, hd, hc⟩ := exists_of_mem_hex hmem
    exact (hexDigit_ne d hd).2.2 hc
  · next h _ _ _ _ => simpa using Ne.symm h

/-- A carriage return does not stand between quotes. -/
theorem notMem_escape (cs : List Char) : '\r' ∉ escape cs := by
  induction cs with
  | nil => simp
  | cons c cs ih =>
    rw [escape_cons, List.mem_append, not_or]
    exact ⟨notMem_escapeChar c, ih⟩

end LifePlan.Json
