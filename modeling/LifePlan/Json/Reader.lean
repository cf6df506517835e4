import LifePlan.Json.Lexeme

/-!
# Reading JSON

A strict reader: one value, with nothing but white space around it, nested at most two hundred deep. The
containers that are still open are kept in a list, innermost first, so the reader is a recursion on the
lexemes.
-/

namespace LifePlan.Json

/-- The deepest nesting of containers that is read. -/
def depthLimit : Nat := 200

/-- A container that is still open; what it holds so far is kept backwards. -/
inductive Frame where
  | array (items : List Value)
  /-- An object, with the name whose value comes next. -/
  | object (members : List (String × Value)) (name : String)
  deriving Repr

/-- What may come next. -/
inductive Expected where
  /-- A value. -/
  | value
  /-- A first item, or the end of the array. -/
  | firstItem
  /-- A first name, or the end of the object. -/
  | firstName (members : List (String × Value))
  /-- A name. -/
  | name (members : List (String × Value))
  /-- The colon after a name. -/
  | colon (members : List (String × Value)) (name : String)
  /-- A comma or the end of the innermost container, which has the value `v` last. -/
  | more (v : Value)
  deriving Repr

/-- Whether one more container may be opened inside those that are open. -/
def hasRoom (depth : Nat) : Bool := depth < depthLimit

/-- The value of the lexemes, from what is expected and inside the open containers. -/
def build : Expected → List Frame → List Lexeme → Option Value
  | .more v, [], [] => some v
  | _, _, [] => none
  | .value, frames, l :: ls =>
    match l with
    | .text s => build (.more (.text s)) frames ls
    | .word v => build (.more v) frames ls
    | .openArray =>
      if hasRoom frames.length then build .firstItem (.array [] :: frames) ls else none
    | .openObject =>
      if hasRoom frames.length then build (.firstName []) (.object [] "" :: frames) ls else none
    | _ => none
  | .firstItem, frames, l :: ls =>
    match l, frames with
    | .closeArray, .array _ :: outer => build (.more (.array [])) outer ls
    | .text s, frames => build (.more (.text s)) frames ls
    | .word v, frames => build (.more v) frames ls
    | .openArray, frames =>
      if hasRoom frames.length then build .firstItem (.array [] :: frames) ls else none
    | .openObject, frames =>
      if hasRoom frames.length then build (.firstName []) (.object [] "" :: frames) ls else none
    | _, _ => none
  | .firstName members, frames, l :: ls =>
    match l, frames with
    | .closeObject, .object _ _ :: outer => build (.more (.object [])) outer ls
    | .text s, frames => build (.colon members s) frames ls
    | _, _ => none
  | .name members, frames, l :: ls =>
    match l with
    | .text s => build (.colon members s) frames ls
    | _ => none
  | .colon members name, frames, l :: ls =>
    match l, frames with
    | .colon, .object _ _ :: outer => build .value (.object members name :: outer) ls
    | _, _ => none
  | .more v, frames, l :: ls =>
    match l, frames with
    | .comma, .array items :: outer => build .value (.array (v :: items) :: outer) ls
    | .closeArray, .array items :: outer =>
      build (.more (.array (v :: items).reverse)) outer ls
    | .comma, .object members name :: outer =>
      build (.name ((name, v) :: members)) (.object [] "" :: outer) ls
    | .closeObject, .object members name :: outer =>
      build (.more (.object ((name, v) :: members).reverse)) outer ls
    | _, _ => none

/-- Reads a document. -/
def read? (document : List Char) : Option Value := do
  let ls ← lexemes document
  build .value [] ls

end LifePlan.Json
