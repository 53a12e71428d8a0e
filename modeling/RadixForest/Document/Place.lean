import RadixForest.Document.Value
import RadixForest.Number.Reading
import RadixForest.Panic

/-!
Places in a document, and how a value is put there over an older one. A table that is put over a
table merges with it entry by entry; every other value takes the place of what was there.
-/

namespace RadixForest.Document

namespace Value

mutual

/-- `incoming` laid over what is there. A table without entries changes nothing that exists. -/
def overlay (existing : Option Value) : Value → Value
  | .table incoming => overlayEntries (existing.getD (.table [])) incoming
  | incoming => incoming

def overlayEntries (target : Value) : List (String × Value) → Value
  | [] => target
  | (name, incoming) :: rest =>
    let under := target.entries
    overlayEntries (.table (Table.set under name (overlay (Table.get? under name) incoming))) rest

end

def put (target : Value) (name : String) (incoming : Value) : Value :=
  .table (Table.set target.entries name (overlay (Table.get? target.entries name) incoming))

def setItem (items : List Value) (index : Nat) (value : Value) : List Value :=
  (items ++ List.replicate (index + 1 - items.length) Value.null).set index value

end Value

inductive Step
  | name (name : String)
  -- A position in a list; a negative one counts from the end.
  | index (position : Int)
deriving DecidableEq, Repr

def Step.resolve (position : Int) (length : Nat) : Except Panic Nat :=
  if 0 ≤ position then .ok position.toNat
  else if position.natAbs ≤ length then .ok (length - position.natAbs)
  else .error .positionBeforeStart

/-- Puts a value at the end of a path. What stands on the way and cannot hold the next step gives
way to an empty table or list. -/
def Value.putAt (incoming : Value) : List Step → Value → Except Panic Value
  | [], _ => .ok incoming
  | [.name name], target => .ok (target.put name incoming)
  | [.index position], target => do
    let items := target.items
    let index ← Step.resolve position items.length
    return .list (setItem items index incoming)
  | .name name :: rest, target => do
    let under := target.entries
    let inner ← putAt incoming rest ((Table.get? under name).getD .null)
    return .table (Table.set under name inner)
  | .index position :: rest, target => do
    let items := target.items
    let index ← Step.resolve position items.length
    let inner ← putAt incoming rest (items[index]?.getD .null)
    return .list (setItem items index inner)

namespace Step

def isNameChar (c : Char) : Bool := c.isAlphanum || c == ' ' || c == '_' || c == '-'

def isSpace (c : Char) : Bool := c == ' ' || c == '\t'

def position? (inner : List Char) : Option Int :=
  let word := ((inner.dropWhile isSpace).reverse.dropWhile isSpace).reverse
  match word with
  | '+' :: _ => none
  | word => Number.int64? word

def laterSteps? : Nat → List Char → Option (List Step)
  | _, [] => some []
  | fuel + 1, '.' :: rest =>
    match rest.takeWhile isNameChar with
    | [] => none
    | word => (laterSteps? fuel (rest.dropWhile isNameChar)).map (.name (String.ofList word) :: ·)
  | fuel + 1, '[' :: rest =>
    match position? (rest.takeWhile (· != ']')), rest.dropWhile (· != ']') with
    | some position, ']' :: rest => (laterSteps? fuel rest).map (.index position :: ·)
    | _, _ => none
  | _, _ => none

def ofName (spelled : String) : List Step :=
  let text := spelled.toList
  match text.takeWhile isNameChar with
  | [] => [.name spelled]
  | first =>
    match laterSteps? text.length (text.dropWhile isNameChar) with
    | some steps => .name (String.ofList first) :: steps
    | none => [.name spelled]

end Step

/-- Lays the entries of one layer over a document, each at the path that its name spells. -/
def Value.layer (target : Value) (entries : Table) : Except Panic Value :=
  entries.foldlM (fun target entry => Value.putAt entry.2 (Step.ofName entry.1) target) target

end RadixForest.Document
