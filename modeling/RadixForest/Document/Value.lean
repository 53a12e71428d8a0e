import RadixForest.Number.Shortest

/-!
Values of documents, whatever format they were written in. A table is a list of entries with
different names.
-/

namespace RadixForest.Document

inductive Value
  | null
  | bool (b : Bool)
  | int (n : Int)
  | float (x : Binary64)
  | text (s : String)
  | list (items : List Value)
  | table (entries : List (String × Value))
deriving Repr, BEq, Inhabited

abbrev Table := List (String × Value)

namespace Table

def get? (table : Table) (name : String) : Option Value :=
  (table.find? (·.1 == name)).map (·.2)

/-- Gives `name` a value: in its old place if it has an entry, else at the end. -/
def set : Table → String → Value → Table
  | [], name, value => [(name, value)]
  | entry :: rest, name, value =>
    if entry.1 == name then (name, value) :: rest else entry :: set rest name value

end Table

def Value.entries : Value → Table
  | .table entries => entries
  | _ => []

def Value.items : Value → List Value
  | .list items => items
  | _ => []

end RadixForest.Document
