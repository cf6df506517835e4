import LifePlan.Text.Lines

/-!
# File names

A file name is a list of parts behind no slash (it starts where the program runs), one slash or two. Empty
parts and the part `.` mean nothing and are left out; the part `..` stays, since what it leads to depends
on the files.
-/

namespace LifePlan

/-- A file name. -/
structure FileName where
  /-- How many slashes it starts with: none, one or two. -/
  slashes : Nat
  parts : List String
  deriving DecidableEq, Repr

namespace FileName

/-- How many slashes a name that is written with `n` of them starts with; exactly two have a meaning of
their own. -/
def rootSlashes (n : Nat) : Nat := if n = 0 ∨ n = 2 then n else 1

/-- Whether a part says where to go. -/
def isPart (part : List Char) : Bool := !(part = [] || part = ['.'])

/-- The name that a text spells. -/
def ofText (text : String) : FileName :=
  ⟨rootSlashes (text.toList.takeWhile (· = '/')).length,
    ((Text.splitOn '/' text.toList).filter isPart).map String.ofList⟩

/-- The shortest spelling of a name. -/
def text (name : FileName) : String :=
  if name.slashes = 0 ∧ name.parts = [] then "."
  else String.ofList (List.replicate name.slashes '/') ++ "/".intercalate name.parts

/-- The longest part of a name that a directory can hold, in bytes. -/
def partLimit : Nat := 255

/-- The longest name that can be looked for, in bytes. -/
def nameLimit : Nat := 4095

/-- Whether a part of a name is too long to be in any directory. -/
def isLongPart (part : String) : Bool := partLimit < part.utf8ByteSize

/-- Whether the name as a whole is too long to be looked for. -/
def isLong (name : FileName) : Bool := nameLimit < name.text.utf8ByteSize

/-- Whether the name has a null character, so that nothing can have it. -/
def hasNull (name : FileName) : Bool := name.parts.any fun part => part.toList.contains '\x00'

/-- The name of something in a directory. -/
def child (directory : FileName) (part : String) : FileName :=
  { directory with parts := directory.parts ++ [part] }

end FileName

end LifePlan
