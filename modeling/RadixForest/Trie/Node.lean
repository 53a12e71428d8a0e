import RadixForest.Trie.Config

/-!
Nodes of a trie. All nodes of one trie stand in one array and name each other by their position
in it, which never changes: a new node is always the last. The children of a node form a chain
through `nextSibling`, and so do the nodes of the top level.
-/

namespace RadixForest.Trie

abbrev NodeId := Nat

/-- A node spells one segment of the keys that pass through it. It has a value when one of them
ends here. -/
structure Node (V : Type) where
  fragment : Key
  value : Option V := none
  firstChild : Option NodeId := none
  nextSibling : Option NodeId := none
deriving DecidableEq, Repr

abbrev Arena (V : Type) := Array (Node V)

namespace Arena

variable {V : Type}

def chain (arena : Arena V) : Nat → Option NodeId → List NodeId
  | 0, _ => []
  | _, none => []
  | fuel + 1, some id => id :: arena.chain fuel (arena[id]?.bind (·.nextSibling))

/-- The siblings from `head` on. A chain that visits no node twice ends within the array's
size. -/
def siblings (arena : Arena V) (head : Option NodeId) : List NodeId :=
  arena.chain arena.size head

def leading (arena : Arena V) (id : NodeId) : Option Char :=
  arena[id]?.bind (·.fragment.head?)

def linkAfter (arena : Arena V) (last id : NodeId) : Arena V :=
  arena.modify last fun node => { node with nextSibling := some id }

def linkBelow (arena : Arena V) (parent id : NodeId) : Arena V :=
  arena.modify parent fun node => { node with firstChild := some id }

end Arena

end RadixForest.Trie
