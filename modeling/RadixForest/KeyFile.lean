import RadixForest.Files
import RadixForest.Text.Blank
import RadixForest.Trie.Basic

/-!
Key files: one entry a line, a key alone or a key and its value with a tab between them. Blank
lines and lines that start with `#` hold no entry, and a key without a value gets the number of
its line.
-/

namespace RadixForest.KeyFile

/-- The lines of a text. A line ends with a line feed, and a carriage return right before that
belongs to the ending. -/
def linesFrom (line : List Char) : List Char → List (List Char)
  | [] => if line.isEmpty then [] else [line.reverse]
  | '\n' :: rest =>
    (match line with
      | '\r' :: line => line.reverse
      | line => line.reverse) :: linesFrom [] rest
  | c :: rest => linesFrom (c :: line) rest

def lines (text : List Char) : List (List Char) := linesFrom [] text

def isLineEnd (c : Char) : Bool := c == '\r' || c == '\n'

def trimLineEnds (line : List Char) : List Char :=
  (line.reverse.dropWhile isLineEnd).reverse

structure Entry where
  key : Key
  value : String
deriving DecidableEq, Repr

def parseLine (number : Nat) (line : List Char) : Option Entry :=
  let line := trimLineEnds line
  if line.all Text.isBlank || line.head? == some '#' then none
  else match line.dropWhile (· != '\t') with
    | [] => some ⟨line, toString number⟩
    | _ :: value => some ⟨line.takeWhile (· != '\t'), String.ofList value⟩

def entriesFrom (number : Nat) : List (List Char) → List (Nat × Entry)
  | [] => []
  | line :: rest =>
    match parseLine number line with
    | some entry => (number, entry) :: entriesFrom (number + 1) rest
    | none => entriesFrom (number + 1) rest

def entries (text : List Char) : List (Nat × Entry) := entriesFrom 1 (lines text)

structure Report where
  inserted : Nat := 0
  replaced : Nat := 0
  rejected : Nat := 0
deriving DecidableEq, Repr

inductive Event
  | inTrie (event : Trie.Event)
  | skipped (line : Nat) (cause : Trie.KeyError)
  | loaded (path : String) (report : Report)
deriving DecidableEq, Repr

def Report.count (report : Report) : Except Trie.KeyError Bool → Report
  | .ok true => { report with inserted := report.inserted + 1 }
  | .ok false => { report with replaced := report.replaced + 1 }
  | .error _ => { report with rejected := report.rejected + 1 }

def told (line : Nat) (outcome : Except Trie.KeyError Bool) (events : List Trie.Event) :
    List Event :=
  events.map .inTrie ++
    match outcome with
    | .ok _ => []
    | .error cause => [.skipped line cause]

structure Load where
  report : Report := {}
  trie : Trie String
  events : List Event := []

/-- Inserts entries one after the other. One that is refused is counted and does not stop the
load. -/
def enter (replace : Bool) (report : Report) (trie : Trie String) : List (Nat × Entry) → Load
  | [] => { report, trie }
  | (line, entry) :: rest =>
    let ⟨outcome, trie, events⟩ := trie.insert entry.key entry.value replace
    let load := enter replace (report.count outcome) trie rest
    { load with events := told line outcome events ++ load.events }

def loadText (path : String) (text : List Char) (trie : Trie String) (replace : Bool) : Load :=
  let load := enter replace {} trie (entries text)
  { load with events := load.events ++ [.loaded path load.report] }

/-- Loads the file at a path, all of it or nothing. -/
def load (files : Files) (path : String) (trie : Trie String) (replace : Bool) :
    Except ReadError Load :=
  (files.readText path).map fun text => loadText path text.toList trie replace

theorem load_of_readText {files : Files} {path text : String}
    (readable : files.readText path = .ok text) (trie : Trie String) (replace : Bool) :
    load files path trie replace = .ok (loadText path text.toList trie replace) := by
  rw [load, readable]
  rfl

end RadixForest.KeyFile
