import LifePlan.Json.Reader
import LifePlan.Json.Writer
import LifePlan.Proofs.Json.Text

/-!
# A written value is read back

`read?_write`: reading the document of a value gives the value, for every value whose numbers are numbers
and whose containers are not nested deeper than a reader goes.

The proof meets in the middle, at the lexemes of a value (`Value.lexemes`). Cutting its document gives
them, with whatever follows the document (`cut_write`): white space is passed over, a quoted text ends at
its own quote, and a bare word ends because a mark or a break follows it (`Ends`). Building from them gives
the value, inside any open containers and with whatever follows (`build_lexemes`). The two have the same
shape: one statement for a value and one each for what follows the first item and the first member.
-/

namespace LifePlan.Json

/-! ## The lexemes of a value -/

mutual

/-- The lexemes of a value. -/
def Value.lexemes : Value → List Lexeme
  | .null => [.word .null]
  | .bool b => [.word (.bool b)]
  | .number numeral => [.word (.number numeral)]
  | .text s => [.text s]
  | .array [] => [.openArray, .closeArray]
  | .array (v :: vs) => .openArray :: (v.lexemes ++ itemLexemes vs ++ [.closeArray])
  | .object [] => [.openObject, .closeObject]
  | .object (m :: ms) => .openObject :: (memberLexemes m ++ membersLexemes ms ++ [.closeObject])

/-- The lexemes of the items after the first one. -/
def itemLexemes : List Value → List Lexeme
  | [] => []
  | v :: vs => .comma :: (v.lexemes ++ itemLexemes vs)

/-- The lexemes of a name and its value. -/
def memberLexemes : String × Value → List Lexeme
  | (name, v) => .text name :: .colon :: v.lexemes

/-- The lexemes of the members after the first one. -/
def membersLexemes : List (String × Value) → List Lexeme
  | [] => []
  | m :: ms => .comma :: (memberLexemes m ++ membersLexemes ms)

end

mutual

/-- How deep the containers of a value are nested. -/
def Value.depth : Value → Nat
  | .array vs => itemsDepth vs + 1
  | .object ms => membersDepth ms + 1
  | _ => 0

/-- The depth of the deepest item. -/
def itemsDepth : List Value → Nat
  | [] => 0
  | v :: vs => max v.depth (itemsDepth vs)

/-- The depth of the deepest member. -/
def membersDepth : List (String × Value) → Nat
  | [] => 0
  | (_, v) :: ms => max v.depth (membersDepth ms)

end

mutual

/-- Whether every number in a value is one. -/
def Value.isLegible : Value → Bool
  | .number numeral => isNumber numeral.toList
  | .array vs => itemsLegible vs
  | .object ms => membersLegible ms
  | _ => true

/-- Whether every item is legible. -/
def itemsLegible : List Value → Bool
  | [] => true
  | v :: vs => v.isLegible && itemsLegible vs

/-- Whether every member is legible. -/
def membersLegible : List (String × Value) → Bool
  | [] => true
  | (_, v) :: ms => v.isLegible && membersLegible ms

end

/-! ## Cutting: space and texts -/

/-- White space between lexemes is passed over. -/
theorem cut_space {c : Char} (h : isSpace c = true) (cs : List Char) :
    cut .between (c :: cs) = cut .between cs := by
  simp [cut, h]

/-- Any number of spaces is passed over. -/
theorem cut_replicate_space (n : Nat) (cs : List Char) :
    cut .between (List.replicate n ' ' ++ cs) = cut .between cs := by
  induction n with
  | zero => rfl
  | succ n ih => rw [List.replicate_succ, List.cons_append, cut_space (by decide), ih]

/-- The break before a line is passed over. -/
theorem cut_lineBreak (depth : Nat) (cs : List Char) :
    cut .between (lineBreak depth ++ cs) = cut .between cs := by
  rw [lineBreak, List.cons_append, cut_space (by decide), cut_replicate_space]

/-- A mark is a lexeme by itself. -/
theorem cut_mark {c : Char} {mark : Lexeme} (hspace : isSpace c = false) (hquote : c ≠ '"')
    (hmark : mark? c = some mark) (cs : List Char) :
    cut .between (c :: cs) = (cut .between cs).map (mark :: ·) := by
  simp [cut, hspace, hquote, hmark]

/-- A character that is no quote and no backslash stays in the quoted text. -/
theorem cut_quoted_cons {c : Char} (hquote : c ≠ '"') (hslash : c ≠ '\\') (read cs : List Char) :
    cut (.quoted read) (c :: cs) = cut (.quoted (c :: read)) cs := by
  simp [cut, hquote, hslash]

/-- The same for any number of such characters. -/
theorem cut_quoted_append {ds : List Char} (h : ∀ d ∈ ds, d ≠ '"' ∧ d ≠ '\\') (read cs : List Char) :
    cut (.quoted read) (ds ++ cs) = cut (.quoted (ds.reverse ++ read)) cs := by
  induction ds generalizing read with
  | nil => rfl
  | cons d ds ih =>
    obtain ⟨hquote, hslash⟩ := h d List.mem_cons_self
    rw [List.cons_append, cut_quoted_cons hquote hslash, ih fun e he => h e (List.mem_cons_of_mem _ he)]
    simp

/-- A backslash takes the next character with it. -/
theorem cut_quoted_escape (c : Char) (read cs : List Char) :
    cut (.quoted read) ('\\' :: c :: cs) = cut (.quoted (c :: '\\' :: read)) cs := by
  simp [cut]

/-- What is written for a character stays in the quoted text. -/
theorem cut_escapeChar (c : Char) (read cs : List Char) :
    cut (.quoted read) (escapeChar c ++ cs) = cut (.quoted ((escapeChar c).reverse ++ read)) cs := by
  unfold escapeChar
  repeat' split
  any_goals exact cut_quoted_escape _ read cs
  · rw [List.cons_append, List.cons_append, cut_quoted_escape, cut_quoted_append]
    · simp
    · intro d hd
      obtain ⟨n, hn, rfl⟩ := exists_of_mem_hex hd
      exact ⟨(hexDigit_ne n hn).1, (hexDigit_ne n hn).2.1⟩
  · next hquote hslash _ _ _ _ _ _ => exact cut_quoted_cons hquote hslash read cs

/-- What is written for a text stays in the quoted text. -/
theorem cut_escape (ds read cs : List Char) :
    cut (.quoted read) (escape ds ++ cs) = cut (.quoted ((escape ds).reverse ++ read)) cs := by
  induction ds generalizing read with
  | nil => rfl
  | cons d ds ih => rw [escape_cons, List.append_assoc, cut_escapeChar, ih]; simp

/-- **A quoted text is cut off as the text.** -/
theorem cut_quote (s : String) (cs : List Char) :
    cut .between (quote s ++ cs) = (cut .between cs).map (.text s :: ·) := by
  have hopen : cut .between (quote s ++ cs) = cut (.quoted []) (escape s.toList ++ '"' :: cs) := by
    simp [quote, cut, isSpace]
  rw [hopen, cut_escape]
  simp [cut, unescape_escape]

/-! ## Cutting: bare words -/

/-- Whether a character belongs to bare words. -/
def isWordChar (c : Char) : Bool := !isSpace c && c != '"' && (mark? c).isNone

/-- Whether a bare word ends in front of a text. -/
def Ends (cs : List Char) : Prop := ∀ c, cs.head? = some c → isWordChar c = false

/-- A bare word ends at the end of a document. -/
theorem ends_nil : Ends [] := fun _ h => absurd h (by simp)

/-- A bare word ends in front of a character that does not belong to it. -/
theorem ends_cons {c : Char} (h : isWordChar c = false) (cs : List Char) : Ends (c :: cs) := by
  intro d hd
  rwa [← Option.some.inj hd]

/-- A bare word ends in front of a line break. -/
theorem ends_lineBreak (depth : Nat) (cs : List Char) : Ends (lineBreak depth ++ cs) :=
  ends_cons (by decide) _

/-- The characters of a word are gathered. -/
theorem cut_word_append {w : List Char} (h : ∀ c ∈ w, isWordChar c = true) (read cs : List Char) :
    cut (.word read) (w ++ cs) = cut (.word (w.reverse ++ read)) cs := by
  induction w generalizing read with
  | nil => rfl
  | cons c w ih =>
    have hc := h c List.mem_cons_self
    simp only [isWordChar, Bool.and_eq_true, Bool.not_eq_true', bne_iff_ne, ne_eq, Option.isNone_iff_eq_none]
      at hc
    obtain ⟨⟨hspace, hquote⟩, hmark⟩ := hc
    rw [List.reverse_cons, List.append_assoc, List.singleton_append,
      ← ih fun d hd => h d (List.mem_cons_of_mem _ hd)]
    simp [cut, hspace, hquote, hmark]

/-- Where a word ends, its value is taken and the cutting goes on. -/
theorem cut_word_of_ends {cs : List Char} (h : Ends cs) (read : List Char) :
    cut (.word read) cs =
      (wordValue? read.reverse).bind fun v => (cut .between cs).map (.word v :: ·) := by
  cases cs with
  | nil => cases hvalue : wordValue? read.reverse <;> simp [cut, hvalue]
  | cons c cs =>
    have hc := h c rfl
    by_cases hspace : isSpace c = true
    · simp [cut, hspace]
    · by_cases hquote : c = '"'
      · simp [cut, hquote, isSpace]
      · cases hmark : mark? c with
        | some mark => simp [cut, hspace, hquote, hmark, Function.comp_def]
        | none => simp [isWordChar, hspace, hquote, hmark] at hc

/-- **A bare word is cut off as its value.** -/
theorem cut_word {w : List Char} {v : Value} (hw : ∀ c ∈ w, isWordChar c = true)
    (hv : wordValue? w = some v) {cs : List Char} (hends : Ends cs) :
    cut .between (w ++ cs) = (cut .between cs).map (.word v :: ·) := by
  cases w with
  | nil =>
    have hnone : wordValue? [] = none := rfl
    rw [hnone] at hv
    cases hv
  | cons c w =>
    have hc := hw c List.mem_cons_self
    simp only [isWordChar, Bool.and_eq_true, Bool.not_eq_true', bne_iff_ne, ne_eq, Option.isNone_iff_eq_none]
      at hc
    obtain ⟨⟨hspace, hquote⟩, hmark⟩ := hc
    have hfirst : cut .between (c :: w ++ cs) = cut (.word [c]) (w ++ cs) := by
      simp [cut, hspace, hquote, hmark]
    rw [hfirst, cut_word_append fun d hd => hw d (List.mem_cons_of_mem _ hd), cut_word_of_ends hends]
    simp [hv]

/-! ## Cutting: numbers are words -/

/-- A digit belongs to bare words. -/
theorem isWordChar_of_isDigit {c : Char} (h : c.isDigit = true) : isWordChar c = true := by
  have hne : ∀ d : Char, d.isDigit = false → c ≠ d := fun d hd hcd => by rw [hcd, hd] at h; cases h
  have hspace : isSpace c = false := by
    simp [isSpace, hne ' ' rfl, hne '\t' rfl, hne '\n' rfl, hne '\r' rfl]
  have hmark : mark? c = none := by
    unfold mark?
    split <;> first | rfl | exact absurd h (by decide)
  simp [isWordChar, hspace, hne '"' rfl, hmark]

/-- The characters of a run of digits belong to bare words. -/
theorem isWordChar_of_isDigits {cs : List Char} (h : isDigits cs = true) : ∀ c ∈ cs, isWordChar c = true := by
  intro c hc
  simp only [isDigits, Bool.and_eq_true, List.all_eq_true] at h
  exact isWordChar_of_isDigit (h.2 c hc)

/-- The characters of an exponent belong to bare words. -/
theorem isWordChar_of_isExponent {cs : List Char} (h : isExponent cs = true) :
    ∀ c ∈ cs, isWordChar c = true := by
  cases cs with
  | nil => simp
  | cons e cs =>
    simp only [isExponent, Bool.and_eq_true, Bool.or_eq_true, beq_iff_eq] at h
    obtain ⟨he, hrest⟩ := h
    have hfirst : isWordChar e = true := by rcases he with rfl | rfl <;> decide
    rw [List.forall_mem_cons]
    refine ⟨hfirst, ?_⟩
    split at hrest
    · exact List.forall_mem_cons.mpr ⟨by decide, isWordChar_of_isDigits hrest⟩
    · exact List.forall_mem_cons.mpr ⟨by decide, isWordChar_of_isDigits hrest⟩
    · exact isWordChar_of_isDigits hrest

/-- The characters of a run of digits at the front belong to bare words, and those of what follows do if
it is an exponent. -/
theorem isWordChar_of_takeWhile {cs : List Char}
    (h : ∀ c ∈ cs.dropWhile Char.isDigit, isWordChar c = true) : ∀ c ∈ cs, isWordChar c = true := by
  intro c hc
  rw [← List.takeWhile_append_dropWhile (p := Char.isDigit) (l := cs), List.mem_append] at hc
  rcases hc with hc | hc
  · exact isWordChar_of_isDigit (List.all_eq_true.mp List.all_takeWhile c hc)
  · exact h c hc

/-- The characters of a fraction belong to bare words. -/
theorem isWordChar_of_isFraction {cs : List Char} (h : isFraction cs = true) :
    ∀ c ∈ cs, isWordChar c = true := by
  unfold isFraction at h
  split at h
  · simp only [Bool.and_eq_true] at h
    exact List.forall_mem_cons.mpr
      ⟨by decide, isWordChar_of_takeWhile (isWordChar_of_isExponent h.2)⟩
  · exact isWordChar_of_isExponent h

/-- The characters of a number without a sign belong to bare words. -/
theorem isWordChar_of_isUnsigned {cs : List Char} (h : isUnsigned cs = true) :
    ∀ c ∈ cs, isWordChar c = true := by
  simp only [isUnsigned, Bool.and_eq_true] at h
  exact isWordChar_of_takeWhile (isWordChar_of_isFraction h.2)

/-- The characters of a number belong to bare words. -/
theorem isWordChar_of_isNumber {cs : List Char} (h : isNumber cs = true) : ∀ c ∈ cs, isWordChar c = true := by
  unfold isNumber at h
  split at h
  · refine List.forall_mem_cons.mpr ⟨by decide, ?_⟩
    simp only [Bool.or_eq_true, decide_eq_true_eq] at h
    rcases h with h | rfl
    · exact isWordChar_of_isUnsigned h
    · exact List.all_eq_true.mp rfl
  · simp only [Bool.or_eq_true, decide_eq_true_eq] at h
    rcases h with (h | rfl) | rfl
    · exact isWordChar_of_isUnsigned h
    · exact List.all_eq_true.mp rfl
    · exact List.all_eq_true.mp rfl

/-- A number is none of the other words. -/
theorem wordValue?_of_isNumber {cs : List Char} (h : isNumber cs = true) :
    wordValue? cs = some (.number (String.ofList cs)) := by
  have htrue : cs ≠ "true".toList := fun hcs => by rw [hcs] at h; exact absurd h (by decide)
  have hfalse : cs ≠ "false".toList := fun hcs => by rw [hcs] at h; exact absurd h (by decide)
  have hnull : cs ≠ "null".toList := fun hcs => by rw [hcs] at h; exact absurd h (by decide)
  rw [wordValue?, if_neg htrue, if_neg hfalse, if_neg hnull, if_pos h]

/-- A number is cut off as itself. -/
theorem cut_number {numeral : String} (h : isNumber numeral.toList = true) {cs : List Char} (hends : Ends cs) :
    cut .between (numeral.toList ++ cs) = (cut .between cs).map (.word (.number numeral) :: ·) := by
  refine cut_word (isWordChar_of_isNumber h) ?_ hends
  rw [wordValue?_of_isNumber h, String.ofList_toList]

/-! ## Cutting: values -/

/-- A bare word ends in front of what follows the first item of an array. -/
theorem ends_writeItems (depth : Nat) (vs : List Value) {cs : List Char} (h : Ends cs) :
    Ends (writeItems depth vs ++ cs) := by
  cases vs with
  | nil => simpa [writeItems] using h
  | cons v vs => rw [writeItems, List.cons_append]; exact ends_cons (by decide) _

/-- A bare word ends in front of what follows the first member of an object. -/
theorem ends_writeMembers (depth : Nat) (ms : List (String × Value)) {cs : List Char} (h : Ends cs) :
    Ends (writeMembers depth ms ++ cs) := by
  cases ms with
  | nil => simpa [writeMembers] using h
  | cons m ms => rw [writeMembers, List.cons_append]; exact ends_cons (by decide) _

mutual

/-- **The document of a value is cut into the lexemes of the value.** -/
theorem cut_write : ∀ (v : Value) (depth : Nat) (cs : List Char), v.isLegible = true → Ends cs →
    cut .between (v.write depth ++ cs) = (cut .between cs).map (v.lexemes ++ ·)
  | .null, _, _, _, hends => cut_word (w := "null".toList) (List.all_eq_true.mp rfl) rfl hends
  | .bool true, _, _, _, hends => cut_word (w := "true".toList) (List.all_eq_true.mp rfl) rfl hends
  | .bool false, _, _, _, hends => cut_word (w := "false".toList) (List.all_eq_true.mp rfl) rfl hends
  | .number _, _, _, h, hends => cut_number h hends
  | .text s, _, cs, _, _ => cut_quote s cs
  | .array [], _, cs, _, _ => by
    rw [Value.write, List.cons_append, cut_mark rfl (by decide) rfl, List.cons_append,
      cut_mark rfl (by decide) rfl, Option.map_map]
    rfl
  | .array (v :: vs), depth, cs, h, _ => by
    simp only [Value.isLegible, itemsLegible, Bool.and_eq_true] at h
    have hclose : Ends (lineBreak depth ++ (']' :: cs)) := ends_lineBreak _ _
    rw [Value.write, List.cons_append, cut_mark rfl (by decide) rfl]
    simp only [List.append_assoc, List.singleton_append]
    rw [cut_lineBreak, cut_write v (depth + 1) _ h.1 (ends_writeItems _ _ hclose),
      cut_writeItems vs (depth + 1) _ h.2 hclose, cut_lineBreak, cut_mark rfl (by decide) rfl]
    simp only [Option.map_map, Value.lexemes, Function.comp_def, List.cons_append, List.append_assoc,
      List.nil_append]
  | .object [], _, cs, _, _ => by
    rw [Value.write, List.cons_append, cut_mark rfl (by decide) rfl, List.cons_append,
      cut_mark rfl (by decide) rfl, Option.map_map]
    rfl
  | .object (m :: ms), depth, cs, h, _ => by
    simp only [Value.isLegible, membersLegible, Bool.and_eq_true] at h
    have hclose : Ends (lineBreak depth ++ ('\x7d' :: cs)) := ends_lineBreak _ _
    rw [Value.write, List.cons_append, cut_mark rfl (by decide) rfl]
    simp only [List.append_assoc, List.singleton_append]
    rw [cut_lineBreak, cut_writeMember m (depth + 1) _ h.1 (ends_writeMembers _ _ hclose),
      cut_writeMembers ms (depth + 1) _ h.2 hclose, cut_lineBreak, cut_mark rfl (by decide) rfl]
    simp only [Option.map_map, Value.lexemes, Function.comp_def, List.cons_append, List.append_assoc,
      List.nil_append]

/-- What follows the first item is cut into its lexemes. -/
theorem cut_writeItems : ∀ (vs : List Value) (depth : Nat) (cs : List Char), itemsLegible vs = true →
    Ends cs → cut .between (writeItems depth vs ++ cs) = (cut .between cs).map (itemLexemes vs ++ ·)
  | [], _, cs, _, _ => by simp [writeItems, itemLexemes]
  | v :: vs, depth, cs, h, hends => by
    simp only [itemsLegible, Bool.and_eq_true] at h
    rw [writeItems, List.cons_append, cut_mark rfl (by decide) rfl]
    simp only [List.append_assoc]
    rw [cut_lineBreak, cut_write v depth _ h.1 (ends_writeItems _ _ hends),
      cut_writeItems vs depth cs h.2 hends]
    simp only [Option.map_map, itemLexemes, Function.comp_def, List.cons_append, List.append_assoc]

/-- A name and its value are cut into their lexemes. -/
theorem cut_writeMember : ∀ (m : String × Value) (depth : Nat) (cs : List Char), m.2.isLegible = true →
    Ends cs → cut .between (writeMember depth m ++ cs) = (cut .between cs).map (memberLexemes m ++ ·)
  | (name, v), depth, cs, h, hends => by
    rw [writeMember, List.append_assoc, cut_quote, List.cons_append, cut_mark rfl (by decide) rfl,
      List.cons_append, cut_space (by decide), cut_write v depth cs h hends]
    simp only [Option.map_map, memberLexemes, Function.comp_def, List.cons_append]

/-- What follows the first member is cut into its lexemes. -/
theorem cut_writeMembers : ∀ (ms : List (String × Value)) (depth : Nat) (cs : List Char),
    membersLegible ms = true → Ends cs →
      cut .between (writeMembers depth ms ++ cs) = (cut .between cs).map (membersLexemes ms ++ ·)
  | [], _, cs, _, _ => by simp [writeMembers, membersLexemes]
  | m :: ms, depth, cs, h, hends => by
    simp only [membersLegible, Bool.and_eq_true] at h
    rw [writeMembers, List.cons_append, cut_mark rfl (by decide) rfl]
    simp only [List.append_assoc]
    rw [cut_lineBreak, cut_writeMember m depth _ h.1 (ends_writeMembers _ _ hends),
      cut_writeMembers ms depth cs h.2 hends]
    simp only [Option.map_map, membersLexemes, Function.comp_def, List.cons_append, List.append_assoc]

end

/-- The lexemes of a document. -/
theorem lexemes_write {v : Value} (h : v.isLegible = true) : lexemes (write v) = some v.lexemes := by
  have hcut := cut_write v 0 [] h ends_nil
  simpa [lexemes, write, cut] using hcut

/-! ## Building -/

/-- Where a container may be opened, there is room for it. -/
theorem hasRoom_of_le {depth n : Nat} (h : depth + (n + 1) ≤ depthLimit) : hasRoom depth = true := by
  simp only [hasRoom, decide_eq_true_eq]
  omega

/-- No value starts with the end of an array, so a first item is read like any value. -/
theorem build_firstItem (v : Value) (frames : List Frame) (rest : List Lexeme) :
    build .firstItem frames (v.lexemes ++ rest) = build .value frames (v.lexemes ++ rest) := by
  cases v with
  | null => rfl
  | bool b => rfl
  | number numeral => rfl
  | text s => rfl
  | array vs => cases vs <;> rfl
  | object ms => cases ms <;> rfl

mutual

/-- **The lexemes of a value build the value**, inside any open containers that leave room for its own. -/
theorem build_lexemes : ∀ (v : Value) (frames : List Frame) (rest : List Lexeme),
    frames.length + v.depth ≤ depthLimit →
      build .value frames (v.lexemes ++ rest) = build (.more v) frames rest
  | .null, _, _, _ => rfl
  | .bool _, _, _, _ => rfl
  | .number _, _, _, _ => rfl
  | .text _, _, _, _ => rfl
  | .array [], frames, rest, h => by
    have hroom := hasRoom_of_le h
    simp only [Value.lexemes, List.cons_append, List.nil_append, build, hroom, if_true]
  | .array (v :: vs), frames, rest, h => by
    have hroom := hasRoom_of_le h
    simp only [Value.depth, itemsDepth] at h
    have hopen : build .value frames ((Value.array (v :: vs)).lexemes ++ rest) =
        build .firstItem (.array [] :: frames)
          (v.lexemes ++ (itemLexemes vs ++ (.closeArray :: rest))) := by
      simp only [Value.lexemes, List.cons_append, List.append_assoc, List.nil_append, build, hroom, if_true]
    rw [hopen, build_firstItem, build_lexemes v _ _ (by simp only [List.length_cons]; omega),
      build_itemLexemes vs v [] frames rest (by omega)]
    rfl
  | .object [], frames, rest, h => by
    have hroom := hasRoom_of_le h
    simp only [Value.lexemes, List.cons_append, List.nil_append, build, hroom, if_true]
  | .object ((name, v) :: ms), frames, rest, h => by
    have hroom := hasRoom_of_le h
    simp only [Value.depth, membersDepth] at h
    have hopen : build .value frames ((Value.object ((name, v) :: ms)).lexemes ++ rest) =
        build .value (.object [] name :: frames)
          (v.lexemes ++ (membersLexemes ms ++ (.closeObject :: rest))) := by
      simp only [Value.lexemes, memberLexemes, List.cons_append, List.append_assoc, List.nil_append, build,
        hroom, if_true]
    rw [hopen, build_lexemes v _ _ (by simp only [List.length_cons]; omega),
      build_membersLexemes ms v name [] frames rest (by omega)]
    rfl

/-- The items after one are gathered, up to the end of their array. -/
theorem build_itemLexemes : ∀ (vs : List Value) (v : Value) (items : List Value) (frames : List Frame)
    (rest : List Lexeme), frames.length + (itemsDepth vs + 1) ≤ depthLimit →
      build (.more v) (.array items :: frames) (itemLexemes vs ++ (.closeArray :: rest)) =
        build (.more (.array (items.reverse ++ v :: vs))) frames rest
  | [], v, items, frames, rest, _ => by
    simp only [itemLexemes, List.nil_append, build, List.reverse_cons]
  | w :: vs, v, items, frames, rest, h => by
    simp only [itemsDepth] at h
    have hcomma : build (.more v) (.array items :: frames) (itemLexemes (w :: vs) ++ (.closeArray :: rest)) =
        build .value (.array (v :: items) :: frames)
          (w.lexemes ++ (itemLexemes vs ++ (.closeArray :: rest))) := by
      simp only [itemLexemes, List.cons_append, List.append_assoc, build]
    rw [hcomma, build_lexemes w _ _ (by simp only [List.length_cons]; omega),
      build_itemLexemes vs w (v :: items) frames rest (by omega)]
    simp

/-- The members after one are gathered, up to the end of their object. -/
theorem build_membersLexemes : ∀ (ms : List (String × Value)) (v : Value) (name : String)
    (members : List (String × Value)) (frames : List Frame) (rest : List Lexeme),
    frames.length + (membersDepth ms + 1) ≤ depthLimit →
      build (.more v) (.object members name :: frames) (membersLexemes ms ++ (.closeObject :: rest)) =
        build (.more (.object (members.reverse ++ (name, v) :: ms))) frames rest
  | [], v, name, members, frames, rest, _ => by
    simp only [membersLexemes, List.nil_append, build, List.reverse_cons]
  | (other, w) :: ms, v, name, members, frames, rest, h => by
    simp only [membersDepth] at h
    have hcomma : build (.more v) (.object members name :: frames)
          (membersLexemes ((other, w) :: ms) ++ (.closeObject :: rest)) =
        build .value (.object ((name, v) :: members) other :: frames)
          (w.lexemes ++ (membersLexemes ms ++ (.closeObject :: rest))) := by
      simp only [membersLexemes, memberLexemes, List.cons_append, List.append_assoc, build]
    rw [hcomma, build_lexemes w _ _ (by simp only [List.length_cons]; omega),
      build_membersLexemes ms w other ((name, v) :: members) frames rest (by omega)]
    simp

end

/-! ## Reading what was written -/

/-- **The document of a value is read as the value.** -/
theorem read?_write {v : Value} (hlegible : v.isLegible = true) (hdepth : v.depth ≤ depthLimit) :
    read? (write v) = some v := by
  have hbuild := build_lexemes v [] [] (by simpa using hdepth)
  rw [List.append_nil] at hbuild
  rw [read?, lexemes_write hlegible]
  exact hbuild

/-! ## No carriage returns -/

/-- A carriage return does not stand in a quoted text. -/
theorem notMem_quote (s : String) : '\r' ∉ quote s := by
  simp [quote, notMem_escape]

/-- A carriage return is no part of a line break. -/
theorem notMem_lineBreak (depth : Nat) : '\r' ∉ lineBreak depth := by
  simp [lineBreak]

/-- A carriage return is no part of a number. -/
theorem notMem_number {cs : List Char} (h : isNumber cs = true) : '\r' ∉ cs := by
  intro hmem
  exact absurd (isWordChar_of_isNumber h _ hmem) (by decide)

mutual

/-- **A document has no carriage returns.** -/
theorem notMem_write : ∀ (v : Value) (depth : Nat), v.isLegible = true → '\r' ∉ v.write depth
  | .null, _, _ => by simp [Value.write]
  | .bool true, _, _ => by simp [Value.write]
  | .bool false, _, _ => by simp [Value.write]
  | .number _, _, h => notMem_number h
  | .text s, _, _ => notMem_quote s
  | .array [], _, _ => by simp [Value.write]
  | .array (v :: vs), depth, h => by
    simp only [Value.isLegible, itemsLegible, Bool.and_eq_true] at h
    simp [Value.write, notMem_lineBreak, notMem_write v _ h.1, notMem_writeItems vs _ h.2]
  | .object [], _, _ => by simp [Value.write]
  | .object (m :: ms), depth, h => by
    simp only [Value.isLegible, membersLegible, Bool.and_eq_true] at h
    simp [Value.write, notMem_lineBreak, notMem_writeMember m _ h.1, notMem_writeMembers ms _ h.2]

/-- The same for what follows a first item. -/
theorem notMem_writeItems : ∀ (vs : List Value) (depth : Nat), itemsLegible vs = true →
    '\r' ∉ writeItems depth vs
  | [], _, _ => by simp [writeItems]
  | v :: vs, depth, h => by
    simp only [itemsLegible, Bool.and_eq_true] at h
    simp [writeItems, notMem_lineBreak, notMem_write v _ h.1, notMem_writeItems vs _ h.2]

/-- The same for a name and its value. -/
theorem notMem_writeMember : ∀ (m : String × Value) (depth : Nat), m.2.isLegible = true →
    '\r' ∉ writeMember depth m
  | (name, v), depth, h => by simp [writeMember, notMem_quote, notMem_write v _ h]

/-- The same for what follows a first member. -/
theorem notMem_writeMembers : ∀ (ms : List (String × Value)) (depth : Nat), membersLegible ms = true →
    '\r' ∉ writeMembers depth ms
  | [], _, _ => by simp [writeMembers]
  | m :: ms, depth, h => by
    simp only [membersLegible, Bool.and_eq_true] at h
    simp [writeMembers, notMem_lineBreak, notMem_writeMember m _ h.1, notMem_writeMembers ms _ h.2]

end

end LifePlan.Json
