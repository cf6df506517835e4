/-!
# Blanks, words and trimming

A text is worked on as its list of characters. White space is Unicode white space; a word is a longest
run of characters that are not white space.

The small lemmas below say what each operation does at the front of a list; later proofs use them
instead of the definitions.
-/

namespace LifePlan.Text

/-! ## White space -/

/-- White space: the ASCII controls from tab to carriage return and from the file separator on, the
space, the next-line control and the Unicode spaces and separators. -/
def isBlank (c : Char) : Bool :=
  let n := c.toNat
  (9 ≤ n && n ≤ 13) || (28 ≤ n && n ≤ 32) || n == 0x85 || n == 0xA0 || n == 0x1680 ||
    (0x2000 ≤ n && n ≤ 0x200A) || n == 0x2028 || n == 0x2029 || n == 0x202F || n == 0x205F ||
    n == 0x3000

/-! ## Trimming -/

/-- The text without its longest tail of characters that satisfy `p`. -/
def dropRight (p : Char → Bool) (cs : List Char) : List Char :=
  (cs.reverse.dropWhile p).reverse

/-- The text without the white space at its two ends. -/
def strip (cs : List Char) : List Char :=
  dropRight isBlank (cs.dropWhile isBlank)

/-- Whether there is nothing but white space. -/
def isBlankText (cs : List Char) : Bool := cs.all isBlank

@[simp] theorem dropRight_nil (p : Char → Bool) : dropRight p [] = [] := rfl

/-! ## Words -/

/-- The words of a text, in order. -/
def words : List Char → List (List Char)
  | [] => []
  | c :: cs =>
    if isBlank c then words cs
    else
      match cs with
      | [] => [[c]]
      | d :: _ =>
        if isBlank d then [c] :: words cs
        else
          match words cs with
          | [] => [[c]]
          | w :: ws => (c :: w) :: ws

@[simp] theorem words_nil : words [] = [] := rfl

theorem words_cons_of_blank {c : Char} (h : isBlank c = true) (cs : List Char) :
    words (c :: cs) = words cs := by
  cases cs <;> simp [words, h]

/-- What follows the first `k` words, without the white space in front of it. -/
def dropWords : Nat → List Char → List Char
  | 0, cs => cs.dropWhile isBlank
  | k + 1, cs => dropWords k ((cs.dropWhile isBlank).dropWhile fun c => !isBlank c)

@[simp] theorem dropWords_zero (cs : List Char) : dropWords 0 cs = cs.dropWhile isBlank := rfl

theorem dropWords_succ (k : Nat) (cs : List Char) :
    dropWords (k + 1) cs =
      dropWords k ((cs.dropWhile isBlank).dropWhile fun c => !isBlank c) := rfl

end LifePlan.Text
