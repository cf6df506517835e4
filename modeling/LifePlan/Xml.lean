import LifePlan.Text.Blank

/-!
# XML

Elements and comments, each with the text that follows it up to the next tag. A document is printed as it
is; `indent` gives every element a line of its own, but only where there was no text.
-/

namespace LifePlan

/-- An element or a comment, with the text behind it. -/
inductive Xml where
  | comment (text behind : List Char)
  /-- An element: the text before its first child, its children, and the text behind its end. -/
  | element (name : String) (text : List Char) (children : List Xml) (behind : List Char)
  deriving Repr

namespace Xml

/-! ## Printing -/

/-- A character of a text. -/
def escapeChar (c : Char) : List Char :=
  if c = '&' then "&amp;".toList
  else if c = '<' then "&lt;".toList
  else if c = '>' then "&gt;".toList
  else [c]

/-- A text, in which no character is taken for a mark. -/
def escape (cs : List Char) : List Char := cs.flatMap escapeChar

@[simp] theorem escape_nil : escape [] = [] := rfl

@[simp] theorem escape_cons (c : Char) (cs : List Char) :
    escape (c :: cs) = escapeChar c ++ escape cs := rfl

mutual

/-- The characters of an element or a comment. What a comment says is not escaped, and an element with
nothing in it is a single tag. -/
def print : Xml → List Char
  | .comment text behind => "<!--".toList ++ text ++ "-->".toList ++ escape behind
  | .element name text children behind =>
    '<' :: name.toList ++
      (if text.isEmpty && children.isEmpty then " />".toList
        else
          '>' :: escape text ++ printAll children ++ '<' :: '/' :: name.toList ++ ['>']) ++
      escape behind

/-- The characters of one after the other. -/
def printAll : List Xml → List Char
  | [] => []
  | x :: xs => x.print ++ printAll xs

end

/-! ## Indentation -/

/-- The break before a line at a depth. -/
def lineBreak (depth : Nat) : List Char := '\n' :: List.replicate (2 * depth) ' '

/-- A text, or a line break if it is blank. -/
def orBreak (depth : Nat) (text : List Char) : List Char :=
  if Text.isBlankText text then lineBreak depth else text

/-- The same with a line break behind it, if there is no text. -/
def breakBehind (depth : Nat) : Xml → Xml
  | .comment text behind => .comment text (orBreak depth behind)
  | .element name text children behind => .element name text children (orBreak depth behind)

mutual

/-- Puts the children of an element that stands at a depth on lines of their own. -/
def indent (depth : Nat) : Xml → Xml
  | .comment text behind => .comment text behind
  | .element name text [] behind => .element name text [] behind
  | .element name text (x :: xs) behind =>
    .element name (orBreak (depth + 1) text) (indentAll depth (x :: xs)) behind

/-- The children of an element that stands at a depth. Behind the last one the end of the element
follows, which stands at the depth of its start. -/
def indentAll (depth : Nat) : List Xml → List Xml
  | [] => []
  | x :: xs =>
    (x.indent (depth + 1)).breakBehind (if xs.isEmpty then depth else depth + 1) :: indentAll depth xs

end

/-- What stands before the root of a document. -/
def declaration : String := "<?xml version='1.0' encoding='utf-8'?>\n"

/-- The indented document of a root. -/
def document (root : Xml) : List Char := declaration.toList ++ (root.indent 0).print

end Xml

end LifePlan
