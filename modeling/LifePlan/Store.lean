import LifePlan.FileName

/-!
# Files and directories

A store holds the files and directories that a program can reach: those below the directory in which it
runs. Above that directory there is nothing but directories. A name is followed part by part, every part but
the last must lead to a directory, and no part may be longer than a directory can hold.

A file that can be written need not be: it may be protected, or the disk may be full. Opening a file for
writing empties it, so a write that fails later leaves only the first of its bytes there. What the disk will do
is part of the store.

Left out are links, files that cannot be read, entries that are neither files nor directories, and whatever
other programs do to the files in the meantime.
-/

namespace LifePlan

/-- A directory, or a file with its bytes. -/
inductive StoreEntry where
  | directory
  | file (content : ByteArray)

/-- Why a file cannot be read or written. -/
inductive Trouble where
  | notFound
  | isADirectory
  | notADirectory
  | nameTooLong
  /-- The name has a null character. -/
  | nullInName
  /-- The disk does not take what is written, for a reason of its own. -/
  | disk (reason : String)
  deriving DecidableEq, Repr

namespace Trouble

/-- The trouble in a single word, as it is told when a plan cannot be loaded. -/
def title : Trouble → String
  | .notFound => "FileNotFoundError"
  | .isADirectory => "IsADirectoryError"
  | .notADirectory => "NotADirectoryError"
  | .nameTooLong => "OSError"
  | .nullInName => "ValueError"
  | .disk _ => "OSError"

/-- The trouble in words, as it is told when something cannot be written. -/
def reason : Trouble → String
  | .notFound => "No such file or directory"
  | .isADirectory => "Is a directory"
  | .notADirectory => "Not a directory"
  | .nameTooLong => "File name too long"
  | .nullInName => "embedded null byte"
  | .disk reason => reason

end Trouble

/-- What the disk does with the bytes of a file. -/
inductive Fate where
  /-- It takes them all. -/
  | taken
  /-- The file cannot be opened, and stays as it is. -/
  | denied (reason : String)
  /-- The file is opened, which empties it, and then only some of the first bytes are taken. -/
  | cut (length : Nat) (reason : String)
  deriving DecidableEq, Repr

/-- A place, by the parts on the way to it from where the program runs. A way that leaves that directory
starts with `..`, one from the root of all files with `/`. -/
abbrev Place := List String

/-- Files and directories by their places, on a disk. -/
structure Store where
  entries : List (Place × StoreEntry)
  /-- What the disk does with some bytes for a file at a place, the same each time. -/
  disk : Place → ByteArray → Fate := fun _ _ => .taken

namespace Store

/-- No files, on a disk that takes everything. -/
def empty : Store := { entries := [] }

/-! ## Places -/

/-- Whether a place is the directory in which the program runs, or above it. -/
def isAbove (place : Place) : Bool := place = ["/"] || place.all (· = "..")

/-- What is at a place. -/
def entryAt? (s : Store) (place : Place) : Option StoreEntry :=
  if isAbove place then some .directory else s.entries.lookup place

/-- The place that a part leads to. -/
def step (place : Place) (part : String) : Place :=
  if part ≠ ".." then place ++ [part]
  else if place = ["/"] then place
  else if isAbove place then place ++ [".."]
  else place.dropLast

/-- Follows the parts of a name from a place. -/
def follow (s : Store) (place : Place) : List String → Except Trouble Place
  | [] => .ok place
  | part :: rest =>
    match s.entryAt? place with
    | some .directory =>
      if FileName.isLongPart part then .error .nameTooLong else s.follow (step place part) rest
    | some (.file _) => .error .notADirectory
    | none => .error .notFound

/-- The place where a name starts. -/
def start (name : FileName) : Place := if name.slashes = 0 then [] else ["/"]

/-- The place of a name. -/
def locate (s : Store) (name : FileName) : Except Trouble Place :=
  if name.hasNull then .error .nullInName
  else if name.isLong then .error .nameTooLong
  else s.follow (start name) name.parts

/-! ## Reading -/

/-- What a name leads to. -/
def find? (s : Store) (name : FileName) : Option StoreEntry :=
  match s.locate name with
  | .ok place => s.entryAt? place
  | .error _ => none

/-- What a name leads to, unless it is too long to be looked for. -/
def search (s : Store) (name : FileName) : Except Trouble (Option StoreEntry) :=
  match s.locate name with
  | .ok place => .ok (s.entryAt? place)
  | .error .nameTooLong => .error .nameTooLong
  | .error _ => .ok none

/-- The bytes of a file. -/
def read (s : Store) (name : FileName) : Except Trouble ByteArray := do
  let place ← s.locate name
  match s.entryAt? place with
  | some (.file content) => .ok content
  | some .directory => .error .isADirectory
  | none => .error .notFound

/-! ## Writing -/

/-- The store with an entry at a place, in the stead of what was there. -/
def put (s : Store) (place : Place) (entry : StoreEntry) : Store :=
  { s with
    entries :=
      if s.entries.any (·.1 = place) then
        s.entries.map fun e => if e.1 = place then (place, entry) else e
      else s.entries ++ [(place, entry)] }

/-- Writes the bytes of a file, which may be new. Trouble comes with the store that it leaves. -/
def write (s : Store) (name : FileName) (content : ByteArray) : Except (Trouble × Store) Store :=
  match s.locate name with
  | .error trouble => .error (trouble, s)
  | .ok place =>
    match s.entryAt? place with
    | some .directory => .error (.isADirectory, s)
    | _ =>
      match s.disk place content with
      | .taken => .ok (s.put place (.file content))
      | .denied reason => .error (.disk reason, s)
      | .cut length reason => .error (.disk reason, s.put place (.file (content.extract 0 length)))

/-- The store that is left when something was to be written, whether or not it was. -/
def left {α : Type} : Except (α × Store) Store → Store
  | .ok s => s
  | .error (_, s) => s

/-- The places on the way to a place. -/
def waysTo (place : Place) : List Place :=
  (List.range place.length).map fun n => place.take n

/-- The store with an entry and all directories on the way to it. -/
def add (s : Store) (place : Place) (entry : StoreEntry) : Store :=
  let missing := (waysTo place).filter fun p => (s.entryAt? p).isNone
  (missing.foldl (fun s p => s.put p .directory) s).put place entry

/-- The regular files with their places. -/
def files (s : Store) : List (Place × ByteArray) :=
  s.entries.filterMap fun e =>
    match e.2 with
    | .file content => some (e.1, content)
    | .directory => none

end Store

end LifePlan
