import LifePlan.Text.Blank

/-!
# Quoted descriptions

A description may be typed between quotes. They need not balance: a run of quotes at either end is
dropped together with the white space on both sides of it, and quotes inside the text stay.
-/

namespace LifePlan.Text

/-- The single and the double quote. -/
def isQuote (c : Char) : Bool := c == '\'' || c == '"'

/-- The text without the quotes and the white space around it. -/
def unquote (cs : List Char) : List Char :=
  strip (dropRight isQuote ((strip cs).dropWhile isQuote))

@[simp] theorem unquote_nil : unquote [] = [] := rfl

end LifePlan.Text
