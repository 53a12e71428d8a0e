import Mathlib.Data.List.Nodup
import RadixForest.Proofs.Trie.Walks

/-!
Paths along the links of nodes. In nodes that hold a forest there is one path to every node of the
forest and none to another, and its edges name every node once.
-/

namespace RadixForest.Trie

variable {V : Type}

inductive Link
  | child
  | sibling
deriving DecidableEq, Repr

def Node.next (node : Node V) : Link → Option NodeId
  | .child => node.firstChild
  | .sibling => node.nextSibling

/-- The node to which a path of links leads from `start`. -/
def Arena.follow (arena : Arena V) : Option NodeId → List Link → Option NodeId
  | start, [] => start
  | none, _ :: _ => none
  | some id, link :: path => arena.follow (arena[id]?.bind (·.next link)) path

def Child (trie : Trie V) (parent : Option NodeId) (id : NodeId) : Prop :=
  ∃ steps, trie.nodes.follow (trie.levelHead parent) (List.replicate steps .sibling) = some id

@[simp] theorem Arena.follow_none (arena : Arena V) (path : List Link) :
    arena.follow none path = none := by
  cases path <;> rfl

namespace Arena.Holds

variable {arena : Arena V} {forest : Forest V}

/-- A path from the first node ends there, or goes on below it, or after it. -/
theorem follow_iff {head : NodeId} {fragment : Key} {value : Option V}
    {children siblings : Forest V}
    (holds : arena.Holds (.cons head fragment value children siblings)) (path : List Link)
    (id : NodeId) :
    arena.follow (some head) path = some id ↔
      (path = [] ∧ id = head) ∨
        (∃ way, path = .child :: way ∧ arena.follow children.first way = some id) ∨
        ∃ way, path = .sibling :: way ∧ arena.follow siblings.first way = some id := by
  cases path with
  | nil => simp [follow, eq_comm]
  | cons link way => cases link <;> simp [follow, holds.1, Node.next]

theorem mem_of_follow (holds : arena.Holds forest) {path : List Link} {id : NodeId}
    (leads : arena.follow forest.first path = some id) : id ∈ forest.ids := by
  induction forest generalizing path with
  | nil => simp at leads
  | cons head fragment value children siblings below after =>
      simp only [Forest.ids, List.mem_cons, List.mem_append]
      rcases (holds.follow_iff path id).mp leads with ⟨_, same⟩ | ⟨way, _, inner⟩ | ⟨way, _, later⟩
      · exact Or.inl same
      · exact Or.inr (Or.inl (below holds.2.1 inner))
      · exact Or.inr (Or.inr (after holds.2.2 later))

theorem existsUnique_path (holds : arena.Holds forest) (distinct : forest.ids.Nodup) {id : NodeId}
    (member : id ∈ forest.ids) : ∃! path, arena.follow forest.first path = some id := by
  induction forest with
  | nil => simp [Forest.ids] at member
  | cons head fragment value children siblings below after =>
      obtain ⟨⟨headBelow, headAfter⟩, distinctBelow, distinctAfter, apart⟩ :=
        Forest.ids_nodup_cons.mp distinct
      have holdsBelow := holds.2.1
      have holdsAfter := holds.2.2
      simp only [Forest.ids, List.mem_cons, List.mem_append] at member
      rcases member with rfl | inside | behind
      · refine ⟨[], rfl, ?_⟩
        intro path leads
        rcases (holds.follow_iff path _).mp leads with ⟨rfl, _⟩ | ⟨way, _, inner⟩ | ⟨way, _, later⟩
        · rfl
        · exact absurd (holdsBelow.mem_of_follow inner) headBelow
        · exact absurd (holdsAfter.mem_of_follow later) headAfter
      · obtain ⟨way, inner, only⟩ := below holdsBelow distinctBelow inside
        refine ⟨.child :: way, (holds.follow_iff _ id).mpr (Or.inr (Or.inl ⟨way, rfl, inner⟩)), ?_⟩
        intro path leads
        rcases (holds.follow_iff path id).mp leads with
          ⟨_, rfl⟩ | ⟨other, rfl, inner⟩ | ⟨_, _, later⟩
        · exact absurd inside headBelow
        · rw [only other inner]
        · exact absurd (holdsAfter.mem_of_follow later) (apart id inside)
      · obtain ⟨way, later, only⟩ := after holdsAfter distinctAfter behind
        refine ⟨.sibling :: way,
          (holds.follow_iff _ id).mpr (Or.inr (Or.inr ⟨way, rfl, later⟩)), ?_⟩
        intro path leads
        rcases (holds.follow_iff path id).mp leads with
          ⟨_, rfl⟩ | ⟨_, _, inner⟩ | ⟨other, rfl, later⟩
        · exact absurd behind headAfter
        · exact absurd behind (apart id (holdsBelow.mem_of_follow inner))
        · rw [only other later]

theorem follow_siblings (holds : arena.Holds forest) (id : NodeId) :
    (∃ steps, arena.follow forest.first (List.replicate steps .sibling) = some id) ↔
      id ∈ forest.top := by
  induction forest with
  | nil => simp [Forest.top]
  | cons head fragment value children siblings _ after =>
      rw [Forest.top, List.mem_cons, ← after holds.2.2]
      constructor
      · rintro ⟨steps, leads⟩
        cases steps with
        | zero => exact Or.inl (Option.some.inj leads).symm
        | succ steps =>
            rcases (holds.follow_iff _ id).mp leads with
              ⟨_, same⟩ | ⟨_, other, _⟩ | ⟨way, same, later⟩
            · exact Or.inl same
            · simp [List.replicate_succ] at other
            · rw [List.replicate_succ, List.cons.injEq] at same
              exact Or.inr ⟨steps, same.2 ▸ later⟩
      · rintro (rfl | ⟨steps, later⟩)
        · exact ⟨0, rfl⟩
        · exact ⟨steps + 1, (holds.follow_iff _ id).mpr (Or.inr (Or.inr ⟨_, rfl, later⟩))⟩

theorem mem_top_and_leading (holds : arena.Holds forest) (compact : forest.shape.Compact)
    (id : NodeId) (first : Char) :
    (id ∈ forest.top ∧ arena.leading id = some first) ↔ forest.childWith first = some id := by
  induction forest with
  | nil => simp [Forest.top, Forest.childWith]
  | cons head fragment value children siblings _ after =>
      obtain ⟨_, notAfter, _, _, later⟩ := compact
      have leading : arena.leading head = fragment.head? := by simp [Arena.leading, holds.1]
      have behind := after holds.2.2 later
      simp only [Forest.top, List.mem_cons, Forest.childWith]
      by_cases starts : fragment.head? = some first
      · have noLater : siblings.childWith first = none :=
          Forest.childWith_eq_none (starts ▸ notAfter)
        simp only [starts, if_true, Option.some.injEq]
        constructor
        · rintro ⟨rfl | member, leads⟩
          · rfl
          · simp [behind.mp ⟨member, leads⟩] at noLater
        · rintro rfl
          exact ⟨Or.inl rfl, leading.trans starts⟩
      · simp only [starts, if_false, ← behind]
        constructor
        · rintro ⟨rfl | member, leads⟩
          · exact absurd (leading.symm.trans leads) starts
          · exact ⟨member, leads⟩
        · rintro ⟨member, leads⟩
          exact ⟨Or.inr member, leads⟩

end Arena.Holds

namespace Forest

def edges (parent : Option NodeId) : Forest V → List (Edge × NodeId)
  | nil => []
  | cons id fragment _ children siblings =>
    (fragment.head?.toList.map fun first => (Edge.mk parent first, id)) ++
      (children.edges (some id) ++ siblings.edges parent)

theorem edges_cons (parent : Option NodeId) (id : NodeId) (first : Char) (tail : Key)
    (value : Option V) (children siblings : Forest V) :
    (cons id (first :: tail) value children siblings).edges parent =
      (⟨parent, first⟩, id) :: (children.edges (some id) ++ siblings.edges parent) :=
  rfl

theorem map_snd_edges {forest : Forest V} (compact : forest.shape.Compact)
    (parent : Option NodeId) : (forest.edges parent).map Prod.snd = forest.ids := by
  induction forest generalizing parent with
  | nil => rfl
  | cons head fragment value children siblings below after =>
      obtain ⟨filled, _, _, inner, later⟩ := compact
      obtain ⟨first, tail, rfl⟩ := List.exists_cons_of_ne_nil filled
      simp [edges_cons, ids, below inner, after later]

theorem mem_edges {forest : Forest V} (distinct : forest.ids.Nodup)
    (compact : forest.shape.Compact) (parent start : Option NodeId) (first : Char) (id : NodeId) :
    (⟨start, first⟩, id) ∈ forest.edges parent ↔
      (start = parent ∧ forest.childWith first = some id) ∨
        ∃ upper branch, start = some upper ∧ forest.branch? upper = some branch ∧
          branch.children.childWith first = some id := by
  induction forest generalizing parent with
  | nil => simp [edges, childWith, branch?]
  | cons head fragment value children siblings below after =>
      obtain ⟨filled, notAfter, _, inner, later⟩ := compact
      obtain ⟨own, tail, rfl⟩ := List.exists_cons_of_ne_nil filled
      obtain ⟨⟨headBelow, headAfter⟩, distinctBelow, distinctAfter, apart⟩ :=
        ids_nodup_cons.mp distinct
      have noLater : siblings.childWith own = none := childWith_eq_none notAfter
      simp only [edges_cons, List.mem_cons, List.mem_append, Prod.mk.injEq, Edge.mk.injEq,
        below distinctBelow inner, after distinctAfter later, childWith, List.head?_cons,
        Option.some.injEq]
      constructor
      · rintro (⟨⟨rfl, rfl⟩, rfl⟩ | (⟨rfl, found⟩ | ⟨upper, branch, rfl, found, edge⟩) |
          (⟨rfl, found⟩ | ⟨upper, branch, rfl, found, edge⟩))
        · exact Or.inl ⟨rfl, if_pos rfl⟩
        · exact Or.inr ⟨head, ⟨own :: tail, value, children⟩, rfl, if_pos rfl, found⟩
        · have notHead := ne_of_mem_of_not_mem (mem_ids_of_branch found) headBelow
          exact Or.inr ⟨upper, branch, rfl, by simp [branch?, notHead.symm, found], edge⟩
        · have different : own ≠ first := by
            rintro rfl
            simp [noLater] at found
          exact Or.inl ⟨rfl, by simp [different, found]⟩
        · have member := mem_ids_of_branch found
          have notHead := ne_of_mem_of_not_mem member headAfter
          have notBelow := branch?_eq_none fun inside => apart upper inside member
          exact Or.inr ⟨upper, branch, rfl, by simp [branch?, notHead.symm, notBelow, found], edge⟩
      · rintro (⟨rfl, found⟩ | ⟨upper, branch, rfl, found, edge⟩)
        · by_cases same : own = first
          · simp only [same, if_true, Option.some.injEq] at found
            exact Or.inl ⟨⟨rfl, same.symm⟩, found.symm⟩
          · simp only [same, if_false] at found
            exact Or.inr (Or.inr (Or.inl ⟨rfl, found⟩))
        · rcases branch?_cons distinct found with ⟨rfl, rfl, _⟩ | ⟨_, inside, _⟩ | ⟨_, behind, _⟩
          · exact Or.inr (Or.inl (Or.inl ⟨rfl, edge⟩))
          · exact Or.inr (Or.inl (Or.inr ⟨upper, branch, rfl, inside, edge⟩))
          · exact Or.inr (Or.inr (Or.inr ⟨upper, branch, rfl, behind, edge⟩))

theorem mem_edges_none {forest : Forest V} (distinct : forest.ids.Nodup)
    (compact : forest.shape.Compact) (edge : Edge) (id : NodeId) :
    (edge, id) ∈ forest.edges none ↔ forest.child edge.parent edge.first = some id := by
  obtain ⟨start, first⟩ := edge
  rw [mem_edges distinct compact]
  cases start with
  | none => simp [child]
  | some upper => simp [child, Option.bind_eq_some_iff]

end Forest

end RadixForest.Trie
