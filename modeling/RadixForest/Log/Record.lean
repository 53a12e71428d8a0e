/-!
Records of the log: how important something is, who says it, and what it is with named details.
-/

namespace RadixForest.Log

inductive Level
  | trace
  | debug
  | info
  | warn
  | error
deriving DecidableEq, Repr

namespace Level

def rank : Level → Nat
  | .trace => 0
  | .debug => 1
  | .info => 2
  | .warn => 3
  | .error => 4

def name : Level → String
  | .trace => "TRACE"
  | .debug => "DEBUG"
  | .info => "INFO"
  | .warn => "WARN"
  | .error => "ERROR"

end Level

inductive Source
  | program
  | trie
  | registry
  | keyFile
  | settings
  | failure
deriving DecidableEq, Repr

/-- The name under which a filter finds a source. A name that starts another covers it too. -/
def Source.name : Source → String
  | .program => "lanai"
  | .trie => "lanai_lib::data_structures::lanai_trie"
  | .registry => "lanai_lib::data_structures::lanai_trie::registry"
  | .keyFile => "lanai_lib::keyfile"
  | .settings => "lanai_lib::config"
  | .failure => "lanai_lib::error"

inductive Detail
  | text (s : String)
  | number (n : Nat)
deriving DecidableEq, Repr

structure Record where
  level : Level
  source : Source
  message : String
  details : List (String × Detail) := []
deriving DecidableEq, Repr

end RadixForest.Log
