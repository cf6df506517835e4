/-!
# Lines and fields

Cutting a text at a separator, and reading the three usual line breaks as one.
-/

namespace LifePlan.Text

/-- The pieces of a text between its separators; there is one more piece than there are separators. -/
def splitOn (sep : Char) : List Char → List (List Char)
  | [] => [[]]
  | c :: cs =>
    if c = sep then [] :: splitOn sep cs
    else
      match splitOn sep cs with
      | [] => [[c]]
      | p :: ps => (c :: p) :: ps

/-- The text with a line feed for every line break: a carriage return, a line feed, or both in this
order. -/
def unifyBreaks : List Char → List Char
  | [] => []
  | '\r' :: '\n' :: cs => '\n' :: unifyBreaks cs
  | c :: cs => (if c = '\r' then '\n' else c) :: unifyBreaks cs

/-- A text without carriage returns stays as it is. -/
theorem unifyBreaks_eq_self {cs : List Char} (h : '\r' ∉ cs) : unifyBreaks cs = cs := by
  fun_induction unifyBreaks cs with
  | case1 => rfl
  | case2 cs => simp at h
  | case3 c cs _ ih =>
    simp only [List.mem_cons, not_or] at h
    rw [ih h.2, if_neg (Ne.symm h.1)]

/-- The lines of a text; what follows the last line break is a line if there is anything. -/
def lines (cs : List Char) : List (List Char) :=
  let pieces := splitOn '\n' (unifyBreaks cs)
  if pieces.getLast? = some [] then pieces.dropLast else pieces

end LifePlan.Text
