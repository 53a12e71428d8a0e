import RadixForest.Trie.Walk

/-!
The operations of a trie with all their checks. A node is looked for before it is used, a text is
cut only between characters, a step down has to take something off its key, and a walk may not make
more steps than there are nodes. An operation that passes its checks cannot fail or go on for ever
without them.
-/

namespace RadixForest.Trie

/-- What stops an operation short, or would keep it going. -/
inductive Fault
  | missing (id : NodeId)
  -- Behind so many bytes there is no end of a character.
  | misplaced (cut : Nat)
  -- A step down takes nothing off what is left of a key.
  | stuck (rest : Key)
  -- A walk comes to a node after as many steps as there are nodes.
  | endless (id : NodeId)
  | panicked (panic : Panic)
deriving DecidableEq, Repr

namespace Guarded

variable {V : Type}

def fetch (arena : Arena V) (id : NodeId) : Except Fault (Node V) :=
  match arena[id]? with
  | some node => .ok node
  | none => .error (.missing id)

def halves (cut : Nat) (text : Key) : Except Fault (Key × Key) :=
  match Text.splitAtByte? cut text with
  | some halves => .ok halves
  | none => .error (.misplaced cut)

def chain (arena : Arena V) : Nat → Option NodeId → Except Fault (List NodeId)
  | _, none => .ok []
  | 0, some id => .error (.endless id)
  | fuel + 1, some id => do
    let node ← fetch arena id
    let later ← chain arena fuel node.nextSibling
    .ok (id :: later)

def siblings (arena : Arena V) (head : Option NodeId) : Except Fault (List NodeId) :=
  chain arena arena.size head

def seek (arena : Arena V) (wanted : Node V → Bool) :
    Nat → Option NodeId → Except Fault (Option NodeId)
  | _, none => .ok none
  | 0, some id => .error (.endless id)
  | fuel + 1, some id => do
    let node ← fetch arena id
    if wanted node then .ok (some id) else seek arena wanted fuel node.nextSibling

def levelHead (trie : Trie V) : Option NodeId → Except Fault (Option NodeId)
  | none => .ok trie.root
  | some id => do
    let node ← fetch trie.nodes id
    .ok node.firstChild

def level (trie : Trie V) (parent : Option NodeId) : Except Fault (List NodeId) := do
  let head ← levelHead trie parent
  siblings trie.nodes head

def childSharing (trie : Trie V) (parent : Option NodeId) : Key → Except Fault (Option NodeId)
  | [] => .ok none
  | first :: _ =>
    match trie.config.dispatch with
    | .indexed => .ok trie.index[Edge.mk parent first]?
    | .linear => do
      let head ← levelHead trie parent
      seek trie.nodes (·.fragment.head? == some first) trie.nodes.size head

def childMatching (trie : Trie V) (parent : Option NodeId) (rest : Key) :
    Except Fault (Option NodeId) :=
  match trie.config.dispatch with
  | .indexed =>
    match rest with
    | [] => .ok none
    | first :: _ =>
      match trie.index[Edge.mk parent first]? with
      | none => .ok none
      | some id => do
        let node ← fetch trie.nodes id
        .ok (if node.fragment.isPrefixOf rest then some id else none)
  | .linear => do
    let head ← levelHead trie parent
    seek trie.nodes (·.fragment.isPrefixOf rest) trie.nodes.size head

def locate (trie : Trie V) (parent : Option NodeId) (rest : Key) :
    Except Fault (Option (Node V)) := do
  match ← childMatching trie parent rest with
  | none => .ok none
  | some id =>
    let node ← fetch trie.nodes id
    let ends ← halves (Text.utf8Length node.fragment) rest
    if ends.2.length < rest.length then
      if ends.2.isEmpty then .ok (some node) else locate trie (some id) ends.2
    else .error (.stuck rest)
termination_by rest.length

def find (trie : Trie V) (key : Key) : Except Fault (Except KeyError (Option V)) :=
  match trie.config.normalize key with
  | .error refusal => .ok (.error refusal)
  | .ok key => do
    let found ← locate trie none key
    .ok (.ok (found.bind (·.value)))

def contains (trie : Trie V) (key : Key) : Except Fault (Except KeyError Bool) := do
  let found ← find trie key
  .ok (found.map (·.isSome))

def descend (trie : Trie V) (parent : Option NodeId) (rest : Key) : Except Fault (Stop V) := do
  match ← childSharing trie parent rest with
  | none => .ok (.append parent rest)
  | some id =>
    let node ← fetch trie.nodes id
    let common := Text.commonStartLength node.fragment rest
    if common = 0 then .error (.stuck rest)
    else if common < Text.utf8Length node.fragment then
      let fragment ← halves common node.fragment
      let ends ← halves common rest
      .ok (.split id node ⟨fragment.1, fragment.2, ends.2⟩)
    else if common = Text.utf8Length rest then .ok (.store id node)
    else
      let ends ← halves common rest
      if ends.2.length < rest.length then descend trie (some id) ends.2
      else .error (.stuck rest)
termination_by rest.length

/-- The link to the new node is written into the last node of its level, or into its parent. -/
def attach (trie : Trie V) (parent : Option NodeId) (fragment : Key) (value : V) :
    Except Fault (Trie V) := do
  let level ← level trie parent
  match level.getLast?.or parent with
  | none => .ok (trie.attach parent fragment value)
  | some bearer =>
    let _ ← fetch trie.nodes bearer
    .ok (trie.attach parent fragment value)

/-- The children of a node that is cut have to be found again below its lower half. -/
def cut (trie : Trie V) (id : NodeId) (node : Node V) (parts : Text.Divergence) :
    Except Fault (Trie V) := do
  let _ ← fetch trie.nodes id
  let cut := trie.cut id node parts
  if trie.indexed then
    let _ ← siblings cut.nodes node.firstChild
    .ok cut
  else .ok cut

def split (trie : Trie V) (id : NodeId) (node : Node V) (parts : Text.Divergence) (value : V) :
    Except Fault (Trie V) := do
  let cut ← cut trie id node parts
  match parts.right with
  | [] =>
    let _ ← fetch cut.nodes id
    .ok (cut.setValue id value)
  | c :: tail => attach cut (some id) (c :: tail) value

def insertNormal (trie : Trie V) (key : Key) (value : V) (replace : Bool) :
    Except Fault (Insertion V) :=
  match trie.root with
  | none => do
    let grown ← attach trie none key value
    .ok ⟨.ok true, { grown with size := 1 }, [.createdRoot key trie.nodes.size]⟩
  | some _ => do
    match ← descend trie none key with
    | .append parent rest =>
      let grown ← attach trie parent rest value
      .ok ⟨.ok true, { grown with size := trie.size + 1 },
        [.appendedNode key rest parent trie.nodes.size]⟩
    | .split id node parts =>
      let grown ← split trie id node parts value
      .ok ⟨.ok true, { grown with size := trie.size + 1 },
        [.splitNode key id (Text.utf8Length parts.shared)]⟩
    | .store id _ =>
      let node ← fetch trie.nodes id
      .ok (trie.store id node key value replace)

def insert (trie : Trie V) (key : Key) (value : V) (replace : Bool) :
    Except Fault (Insertion V) :=
  match trie.config.normalize key with
  | .error refusal => .ok ⟨.error refusal, trie, []⟩
  | .ok key => insertNormal trie key value replace

def visits {α : Type} (arena : Arena V) (arrange : List NodeId → List NodeId)
    (visit : α → Sight V → Except Fault α) : Nat → List Visit → α → Except Fault α
  | _, [], gathered => .ok gathered
  | 0, ⟨id, _⟩ :: _, _ => .error (.endless id)
  | fuel + 1, ⟨id, depth⟩ :: stack, gathered => do
    let node ← fetch arena id
    let gathered ← visit gathered ⟨depth, node⟩
    let children ← siblings arena node.firstChild
    visits arena arrange visit fuel (pile (depth + 1) (arrange children) stack) gathered

def walk {α : Type} (trie : Trie V) (arrange : List NodeId → List NodeId) (depth : Nat)
    (visit : α → Sight V → Except Fault α) (initial : α) : Except Fault α := do
  let top ← level trie none
  visits trie.nodes arrange visit trie.nodes.size (pile depth (arrange top) []) initial

def stats (trie : Trie V) : Except Fault Stats :=
  walk trie id 1 (fun stats sight => .ok (stats.count sight)) {}

def render (trie : Trie V) (shown : V → String) : Except Fault String :=
  walk trie List.reverse 0
    (fun text sight => do
      let line ← (sight.line shown).mapError .panicked
      .ok (text ++ String.ofList line)) ""

end Guarded

end RadixForest.Trie
