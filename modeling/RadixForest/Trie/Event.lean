import RadixForest.Trie.Node

/-!
What a trie tells about its changes. The events that name nodes are enough to rebuild the
structure of the trie.
-/

namespace RadixForest.Trie

inductive Event
  | createdRoot (key : Key) (root : NodeId)
  | appendedNode (key fragment : Key) (parent : Option NodeId) (id : NodeId)
  -- The fragment of `node` was cut after `cut` bytes.
  | splitNode (key : Key) (node : NodeId) (cut : Nat)
  | rejectedDuplicate (key : Key)
  | destroying (nodes keys : Nat)
deriving DecidableEq, Repr

end RadixForest.Trie
