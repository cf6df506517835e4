import LifePlan.Text.Case
import LifePlan.Yaml.Base64
import LifePlan.Yaml.Node

/-!
# Values of a YAML document

What the nodes of a document come to: nothing, truth values, numbers, texts, lists and mappings. A document
is looked at level by level, each from left to right, and the first flaw counts; what an alias stands for is
looked at only once.
-/

namespace LifePlan.Yaml

/-- A value. -/
inductive Value where
  | null
  | bool (b : Bool)
  | int (n : Int)
  | fraction (f : Fraction)
  | text (s : String)
  /-- A text with half a character, by its length. -/
  | broken (length : Nat)
  | list (items : List Value)
  | pair (first second : Value)
  | mapping (members : List (Value × Value))
  | bytes (bs : List UInt8)
  /-- A date. -/
  | other
  deriving Repr

/-! ## Texts -/

/-- The truth value that a text spells. -/
def truthValue (cs : List Char) : Except Flaw Value :=
  match (Tag.truthWords.find? fun t => t.1.toList = Text.lower cs) with
  | some t => .ok (.bool t.2)
  | none => .error .noTruthValue

/-- The date that a word spells, which must exist. -/
def dateValue (cs : List Char) : Except Flaw Value :=
  match Date.ofText? cs with
  | some d =>
    match d.flaw? with
    | some flaw => .error (.date flaw)
    | none => .ok .other
  | none => .error .noDate

/-- The bytes that a text spells. -/
def bytesValue (cs : List Char) : Except Flaw Value :=
  if cs.all (·.toNat < 128) then
    match Base64.decode cs with
    | some bs => .ok (.bytes bs)
    | none => .error .meaning
  else .error .meaning

/-- The value of a text with a tag. -/
def scalarValue (tag : Tag) (s : Scalar) : Except Flaw Value :=
  match tag with
  | .null => .ok .null
  | .bool => truthValue s.text
  | .int => do return .int (← whole s.text)
  | .float => do return .fraction (← fraction s.text)
  | .binary => bytesValue s.text
  | .timestamp => dateValue s.word
  | .text => .ok (if s.broken then .broken s.text.length else .text (String.ofList s.text))
  | _ => .error .meaning

/-- The text of a node. A mapping stands for its default value. -/
def textOf : Nat → Node → Except Flaw Scalar
  | 0, _ => .error .meaning
  | fuel + 1, n =>
    match n.bare with
    | .scalar _ s => .ok s
    | .mapping _ members =>
      match members.find? fun m => m.1.tag = .default with
      | some m => textOf fuel m.2
      | none => .error .meaning
    | _ => .error .meaning

/-- The value of a node that is no collection by its tag. A date must be a text itself. -/
def leafValue (fuel : Nat) (n : Node) : Except Flaw Value := do
  let s ← textOf fuel n
  match n.tag, n.bare with
  | .timestamp, .mapping _ _ => .error .notText
  | tag, _ => scalarValue tag s

/-! ## Merging -/

/-- The members of a mapping, with those of the mappings that are merged into it in front. The sign of a
default value means itself. -/
def mergedMembers : Nat → List (Node × Node) → Except Flaw (List (Node × Node))
  | 0, members => .ok members
  | fuel + 1, members => do
    let merge (n : Node) : Except Flaw (List (Node × Node)) :=
      match n.bare with
      | .mapping _ others => mergedMembers fuel others
      | .loop => .ok []
      | _ => .error .meaning
    let front ← (members.filter fun m => m.1.tag = .merge).flatMapM fun m =>
      match m.2.bare with
      | .sequence _ items => do return (← items.mapM merge).reverse.flatten
      | n => merge n
    let own := (members.filter fun m => m.1.tag ≠ .merge).map fun m =>
      match m.1 with
      | .scalar .default s => (Node.scalar .text s, m.2)
      | _ => m
    return front ++ own

/-! ## Flaws level by level -/

/-- Looks at a node that is part of another. A collection is looked at later. -/
def later (fuel : Nat) (n : Node) : Except Flaw (List Node) :=
  if n.tag.isCollection then .ok [n]
  else do
    let _ ← leafValue fuel n
    return []

/-- Looks at a key and its value; a collection can be no key. -/
def laterMember (fuel : Nat) (m : Node × Node) : Except Flaw (List Node) := do
  let _ ← later fuel m.1
  if m.1.tag.isCollection then .error .meaning else later fuel m.2

/-- Looks at the only member of a node in a sequence of pairs. -/
def laterPair (fuel : Nat) (n : Node) : Except Flaw (List Node) :=
  match n.bare with
  | .mapping _ [m] => do return (← later fuel m.1) ++ (← later fuel m.2)
  | _ => .error .meaning

/-- Looks at the parts of a collection, and gives the collections among them. -/
def laterParts (fuel : Nat) (n : Node) : Except Flaw (List Node) :=
  match n.bare with
  | .loop => .ok []
  | .sequence .sequence items => items.flatMapM (later fuel)
  | .sequence .orderedMap items => items.flatMapM (laterPair fuel)
  | .sequence .pairs items => items.flatMapM (laterPair fuel)
  | .mapping .mapping members => do (← mergedMembers fuel members).flatMapM (laterMember fuel)
  | .mapping .set members => do (← mergedMembers fuel members).flatMapM (laterMember fuel)
  | _ => .error .meaning

/-- The nodes that have not been looked at, with the anchors of all that will have been. -/
def fresh : List String → List Node → List Node × List String
  | seen, [] => ([], seen)
  | seen, .anchored name n :: ns =>
    if name ∈ seen then fresh seen ns
    else
      let (rest, seen) := fresh (name :: seen) ns
      (.anchored name n :: rest, seen)
  | seen, n :: ns =>
    let (rest, seen) := fresh seen ns
    (n :: rest, seen)

/-- Looks at some collections, and then at all that are inside of them, but for those with an anchor that has
been seen. -/
def checkLevels : Nat → List String → List Node → Except Flaw Unit
  | 0, _, _ => .ok ()
  | _, _, [] => .ok ()
  | fuel + 1, seen, nodes => do
    let (nodes, seen) := fresh seen nodes
    checkLevels fuel seen (← nodes.flatMapM (laterParts fuel))

/-! ## Values -/

namespace Value

/-- The number that a value is equal to, as keys are compared. -/
def number? : Value → Option Int
  | .bool b => some (if b then 1 else 0)
  | .int n => some n
  | .fraction f => f.whole?
  | _ => none

/-- Whether two keys are the same. -/
def isSameKey : Value → Value → Bool
  | .null, .null => true
  | .text s, .text t => s = t
  | a, b => a.number?.isSome && a.number? = b.number?

/-- Gives a key a value. A key that is there already keeps its place. -/
def assign (members : List (Value × Value)) (key value : Value) : List (Value × Value) :=
  if members.any fun m => m.1.isSameKey key then
    members.map fun m => if m.1.isSameKey key then (m.1, value) else m
  else members ++ [(key, value)]

end Value

/-- The value of a node from outside: a collection is told by an empty list. -/
def outerValue (fuel : Nat) (n : Node) : Except Flaw Value :=
  if n.tag.isCollection then .ok (.list []) else leafValue fuel n

/-- The members of a mapping, from outside. -/
def membersOf (fuel : Nat) (members : List (Node × Node)) : Except Flaw (List (Value × Value)) := do
  (← mergedMembers fuel members).foldlM (fun read m => do
    return Value.assign read (← outerValue fuel m.1) (← outerValue fuel m.2)) []

/-- The pair that the only member of a node makes. -/
def pairOf (fuel : Nat) (n : Node) : Except Flaw Value :=
  match n.bare with
  | .mapping _ [m] => do return .pair (← outerValue fuel m.1) (← outerValue fuel m.2)
  | _ => .error .meaning

/-- The value of a node, so many lists deep. -/
def valueOf (fuel : Nat) : Nat → Node → Except Flaw Value
  | 0, n => outerValue fuel n
  | depth + 1, n => do
    match n.bare with
    | .sequence .sequence items => return .list (← items.mapM (valueOf fuel depth))
    | .sequence .orderedMap items => return .list (← items.mapM (pairOf fuel))
    | .sequence .pairs items => return .list (← items.mapM (pairOf fuel))
    | .mapping .mapping members => return .mapping (← membersOf fuel members)
    | .mapping .set members => return .list ((← membersOf fuel members).map (·.1))
    | _ => outerValue fuel n

/-- The value of the only document in a text, which has nothing in it if there is none. Lists are looked into
up to those in a list. -/
def read (cs : List Char) : Except Flaw Value := do
  if cs.all isAllowed then
    match ← Node.ofText cs with
    | none => return .null
    | some n =>
      let fuel := cs.length + 1
      checkLevels fuel [] (← later fuel n)
      valueOf fuel 2 n
  else .error .character

end LifePlan.Yaml
