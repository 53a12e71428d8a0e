import RadixForest.Panic
import RadixForest.Trie.Basic

/-!
Walks over all the nodes of a trie, and what they collect: statistics and a text. A walk keeps the
nodes that it still has to visit on a stack, so no trie is too deep for it.
-/

namespace RadixForest.Trie

variable {V : Type}

structure Visit where
  id : NodeId
  depth : Nat
deriving DecidableEq, Repr

def pile (depth : Nat) (level : List NodeId) (stack : List Visit) : List Visit :=
  level.foldl (fun stack id => ⟨id, depth⟩ :: stack) stack

structure Sight (V : Type) where
  depth : Nat
  node : Node V
deriving DecidableEq, Repr

/-- Takes the node on top of the stack and piles up its children in its place, in the order that
`arrange` makes of them, until the stack is empty; `visit` adds what it finds to `gathered`. A walk
that visits no node twice needs no more fuel than the number of nodes. -/
def Arena.visits {α : Type} (arena : Arena V) (arrange : List NodeId → List NodeId)
    (visit : α → Sight V → α) : Nat → List Visit → α → α
  | 0, _, gathered => gathered
  | _ + 1, [], gathered => gathered
  | fuel + 1, ⟨id, depth⟩ :: stack, gathered =>
    match arena[id]? with
    | none => gathered
    | some node =>
      arena.visits arrange visit fuel
        (pile (depth + 1) (arrange (arena.siblings node.firstChild)) stack)
        (visit gathered ⟨depth, node⟩)

def walk {α : Type} (trie : Trie V) (arrange : List NodeId → List NodeId) (depth : Nat)
    (visit : α → Sight V → α) (initial : α) : α :=
  trie.nodes.visits arrange visit trie.nodes.size (pile depth (arrange (trie.level none)) [])
    initial

structure Stats where
  keys : Nat := 0
  nodes : Nat := 0
  branchNodes : Nat := 0
  maxDepth : Nat := 0
  fragmentBytes : Nat := 0
deriving DecidableEq, Repr

def Stats.text (stats : Stats) : String :=
  toString stats.keys ++ " keys in " ++ toString stats.nodes ++ " nodes (" ++
    toString stats.branchNodes ++ " branch), depth " ++ toString stats.maxDepth ++ ", " ++
    toString stats.fragmentBytes ++ " fragment bytes"

def Stats.count (stats : Stats) (sight : Sight V) : Stats :=
  { keys := stats.keys + (if sight.node.value.isSome then 1 else 0)
    nodes := stats.nodes + 1
    branchNodes := stats.branchNodes + (if sight.node.value.isSome then 0 else 1)
    maxDepth := max stats.maxDepth sight.depth
    fragmentBytes := stats.fragmentBytes + Text.utf8Length sight.node.fragment }

def stats (trie : Trie V) : Stats := trie.walk id 1 Stats.count {}

def widestPadding : Nat := 65535

def padding (width : Nat) : Except Panic (List Char) :=
  if width ≤ widestPadding then .ok (List.replicate width ' ') else .error .paddingTooWide

def Sight.line (shown : V → String) (sight : Sight V) : Except Panic (List Char) := do
  let indent ← padding (2 * sight.depth)
  return indent ++ sight.node.fragment ++
    (match sight.node.value with
      | some value => " => ".toList ++ (shown value).toList
      | none => []) ++ ['\n']

def Sight.extend (shown : V → String) (text : Except Panic String) (sight : Sight V) :
    Except Panic String := do
  let text ← text
  let line ← sight.line shown
  return text ++ String.ofList line

/-- One line for every node, children directly below their parent. Each level is piled up backwards,
so its first node comes to lie on top. -/
def render (trie : Trie V) (shown : V → String) : Except Panic String :=
  trie.walk List.reverse 0 (Sight.extend shown) (.ok "")

end RadixForest.Trie
