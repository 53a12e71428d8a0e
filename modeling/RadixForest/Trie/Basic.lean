import Std.Data.HashMap
import RadixForest.Text.CommonStart
import RadixForest.Trie.Event

/-!
A compressed trie: a finite map from keys to values. Each node spells a segment of one or more
keys, and siblings differ in their first characters, so a key leads down at most one path.
Inserting a key that leaves a path inside a segment splits the node there.
-/

namespace RadixForest

structure Trie.Edge where
  parent : Option Trie.NodeId
  first : Char
deriving DecidableEq

instance : Hashable Trie.Edge where
  hash edge := mixHash (hash edge.parent) (hash edge.first.toNat)

abbrev Trie.Index := Std.HashMap Trie.Edge Trie.NodeId

structure Trie (V : Type) where
  config : Trie.Config
  nodes : Trie.Arena V := #[]
  root : Option Trie.NodeId := none
  -- Kept only where the dispatch is indexed.
  index : Trie.Index := ∅
  -- The number of keys that hold a value.
  size : Nat := 0

namespace Trie

variable {V : Type}

def empty (config : Config) : Trie V := { config }

def nodeCount (trie : Trie V) : Nat := trie.nodes.size

def isEmpty (trie : Trie V) : Bool := trie.size == 0

def clear (trie : Trie V) : Trie V := empty trie.config

def indexed (trie : Trie V) : Bool := trie.config.dispatch == .indexed

def levelHead (trie : Trie V) : Option NodeId → Option NodeId
  | none => trie.root
  | some id => trie.nodes[id]?.bind (·.firstChild)

def level (trie : Trie V) (parent : Option NodeId) : List NodeId :=
  trie.nodes.siblings (trie.levelHead parent)

def childSharing (trie : Trie V) (parent : Option NodeId) : Key → Option NodeId
  | [] => none
  | first :: _ =>
    match trie.config.dispatch with
    | .indexed => trie.index[Edge.mk parent first]?
    | .linear => (trie.level parent).find? fun id => trie.nodes.leading id == some first

def spellsStartOf (trie : Trie V) (rest : Key) (id : NodeId) : Bool :=
  trie.nodes[id]?.any fun node => node.fragment.isPrefixOf rest

def childMatching (trie : Trie V) (parent : Option NodeId) (rest : Key) : Option NodeId :=
  match trie.config.dispatch with
  | .indexed =>
    match rest with
    | [] => none
    | first :: _ => trie.index[Edge.mk parent first]?.filter (trie.spellsStartOf rest)
  | .linear => (trie.level parent).find? (trie.spellsStartOf rest)

def locate (trie : Trie V) (parent : Option NodeId) (rest : Key) : Option (Node V) :=
  match trie.childMatching parent rest with
  | none => none
  | some id =>
    match trie.nodes[id]? with
    | none => none
    | some node =>
      let left := rest.drop node.fragment.length
      if left.isEmpty then some node
      else if node.fragment.isEmpty then none
      else trie.locate (some id) left
termination_by rest.length
decreasing_by
  rename_i leftover filled
  have taken := List.length_pos_iff.mpr (mt List.isEmpty_iff.mpr filled)
  have some_left := List.length_pos_iff.mpr (mt List.isEmpty_iff.mpr leftover)
  simp only [left, List.length_drop] at some_left ⊢
  omega

def find (trie : Trie V) (key : Key) : Except KeyError (Option V) := do
  let key ← trie.config.normalize key
  return (trie.locate none key).bind (·.value)

def contains (trie : Trie V) (key : Key) : Except KeyError Bool := do
  return (← trie.find key).isSome

def indexChild (trie : Trie V) (parent : Option NodeId) (fragment : Key) (id : NodeId) : Index :=
  match fragment.head? with
  | some c => if trie.indexed then trie.index.insert ⟨parent, c⟩ id else trie.index
  | none => trie.index

def attach (trie : Trie V) (parent : Option NodeId) (fragment : Key) (value : V) : Trie V :=
  let id := trie.nodes.size
  let nodes : Arena V := trie.nodes.push { fragment, value := some value }
  let index := trie.indexChild parent fragment id
  match (trie.level parent).getLast?, parent with
  | some last, _ => { trie with nodes := nodes.linkAfter last id, index }
  | none, none => { trie with nodes, index, root := some id }
  | none, some parent => { trie with nodes := nodes.linkBelow parent id, index }

def reindexChildren (nodes : Arena V) (source target : NodeId) (children : List NodeId)
    (index : Index) : Index :=
  children.foldl (fun index child =>
    match nodes.leading child with
    | some c => (index.erase ⟨some source, c⟩).insert ⟨some target, c⟩ child
    | none => index) index

/-- Cuts the node `id` after the shared start of its fragment. The rest of the fragment moves
into a new only child, together with the value and the children. -/
def cut (trie : Trie V) (id : NodeId) (node : Node V) (parts : Text.Divergence) : Trie V :=
  let lower := trie.nodes.size
  let moved : Node V :=
    { fragment := parts.left, value := node.value, firstChild := node.firstChild }
  let kept : Node V :=
    { node with fragment := parts.shared, value := none, firstChild := some lower }
  let nodes : Arena V := (trie.nodes.push moved).setIfInBounds id kept
  if trie.indexed then
    let index := reindexChildren nodes id lower (nodes.siblings node.firstChild) trie.index
    { trie with nodes, index := ({ trie with index }).indexChild (some id) parts.left lower }
  else { trie with nodes }

def setValue (trie : Trie V) (id : NodeId) (value : V) : Trie V :=
  { trie with nodes := trie.nodes.modify id fun node => { node with value := some value } }

def split (trie : Trie V) (id : NodeId) (node : Node V) (parts : Text.Divergence) (value : V) :
    Trie V :=
  match parts.right with
  | [] => (trie.cut id node parts).setValue id value
  | c :: tail => (trie.cut id node parts).attach (some id) (c :: tail) value

inductive Stop (V : Type)
  -- No child of `parent` starts like `rest`.
  | append (parent : Option NodeId) (rest : Key)
  -- The key leaves the path inside a fragment.
  | split (id : NodeId) (node : Node V) (parts : Text.Divergence)
  -- The path to the node spells the key.
  | store (id : NodeId) (node : Node V)

/-- Follows `rest` from the level below `parent`. Siblings differ in their first characters, so
the child that shares one with `rest` is the only one that can share more. Each step takes what is
shared off `rest`; a child that shared nothing would lead nowhere. -/
def descend (trie : Trie V) (parent : Option NodeId) (rest : Key) : Stop V :=
  match trie.childSharing parent rest with
  | none => .append parent rest
  | some id =>
    match trie.nodes[id]? with
    | none => .append parent rest
    | some node =>
      let parts := Text.diverge node.fragment rest
      if !parts.left.isEmpty then .split id node parts
      else if parts.right.isEmpty then .store id node
      else if parts.shared.isEmpty then .append parent rest
      else trie.descend (some id) parts.right
termination_by rest.length
decreasing_by
  rename_i sharing
  have whole := congrArg List.length (Text.diverge_right node.fragment rest)
  have taken := List.length_pos_iff.mpr (mt List.isEmpty_iff.mpr sharing)
  simp only [parts, List.length_append] at whole taken ⊢
  omega

structure Insertion (V : Type) where
  outcome : Except KeyError Bool
  trie : Trie V
  events : List Event

def store (trie : Trie V) (id : NodeId) (node : Node V) (key : Key) (value : V) (replace : Bool) :
    Insertion V :=
  match node.value with
  | none => ⟨.ok true, { trie.setValue id value with size := trie.size + 1 }, []⟩
  | some _ =>
    if replace then ⟨.ok false, trie.setValue id value, []⟩
    else ⟨.error (.duplicateKey key), trie, [.rejectedDuplicate key]⟩

def insertNormal (trie : Trie V) (key : Key) (value : V) (replace : Bool) : Insertion V :=
  match trie.root with
  | none => ⟨.ok true, { trie.attach none key value with size := 1 },
      [.createdRoot key trie.nodes.size]⟩
  | some _ =>
    match trie.descend none key with
    | .append parent rest =>
      ⟨.ok true, { trie.attach parent rest value with size := trie.size + 1 },
        [.appendedNode key rest parent trie.nodes.size]⟩
    | .split id node parts =>
      ⟨.ok true, { trie.split id node parts value with size := trie.size + 1 },
        [.splitNode key id (Text.utf8Length parts.shared)]⟩
    | .store id node => trie.store id node key value replace

/-- Binds `key` to `value`. The outcome is `true` for a new key and `false` for one whose value
was replaced; without `replace` a key that is bound already is refused. -/
def insert (trie : Trie V) (key : Key) (value : V) (replace : Bool) : Insertion V :=
  match trie.config.normalize key with
  | .error refusal => ⟨.error refusal, trie, []⟩
  | .ok key => trie.insertNormal key value replace

def destroy (trie : Trie V) : Nat × List Event :=
  (trie.nodeCount, [.destroying trie.nodeCount trie.size])

end Trie

end RadixForest
