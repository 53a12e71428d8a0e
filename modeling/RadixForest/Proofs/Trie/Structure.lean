import RadixForest.Proofs.Trie.Dictionary
import RadixForest.Proofs.Trie.Links

/-!
The shape of the linked nodes of a trie, said of the links themselves. It holds in every state that
operations on an empty trie lead to.
-/

namespace RadixForest.Trie

variable {V : Type}

structure WellFormed (trie : Trie V) : Prop where
  -- Exactly one path of links leads to a node, so none is shared, lost or part of a cycle.
  reached : ∀ id, id < trie.nodes.size → ∃! path, trie.nodes.follow trie.root path = some id
  inside : ∀ path id, trie.nodes.follow trie.root path = some id → id < trie.nodes.size
  filled : ∀ (id : NodeId) node, trie.nodes[id]? = some node → node.fragment ≠ []
  -- Siblings differ in their first characters.
  apart : ∀ parent left right, trie.Child parent left → trie.Child parent right →
    trie.nodes.leading left = trie.nodes.leading right → left = right
  -- A node without a value has at least two children.
  branching : ∀ (id : NodeId) node, trie.nodes[id]? = some node → node.value = none →
    ∃ left right, left ≠ right ∧ trie.Child (some id) left ∧ trie.Child (some id) right
  leaves : ∀ (id : NodeId) node, trie.nodes[id]? = some node → node.firstChild = none →
    node.value.isSome
  size : trie.size = trie.nodes.countP (·.value.isSome)
  -- The index holds the edge to every node and nothing else.
  index : match trie.config.dispatch with
    | .linear => trie.index = ∅
    | .indexed =>
      (∀ parent first id, trie.index[Edge.mk parent first]? = some id ↔
        trie.Child parent id ∧ trie.nodes.leading id = some first) ∧
      (∀ id, id < trie.nodes.size → ∃! edge : Edge, trie.index[edge]? = some id) ∧
      trie.index.size = trie.nodes.size

theorem Forest.compact_of_branch {forest : Forest V} (compact : forest.shape.Compact)
    {id : NodeId} {branch : Branch V} (found : forest.branch? id = some branch) :
    branch.fragment ≠ [] ∧ (branch.value = none → 2 ≤ branch.children.shape.starts.length) ∧
      branch.children.shape.Compact := by
  induction forest with
  | nil => simp [branch?] at found
  | cons head fragment value children siblings below after =>
      obtain ⟨filled, _, branching, inner, later⟩ := compact
      simp only [branch?] at found
      split at found
      · simp only [Option.some.injEq] at found
        subst found
        exact ⟨filled, branching, inner⟩
      · rcases Option.or_eq_some_iff.mp found with inside | ⟨_, behind⟩
        · exact below inner inside
        · exact after later behind

theorem Forest.two_on_top {level : Forest V} (distinct : level.ids.Nodup)
    (two : 2 ≤ level.shape.starts.length) :
    ∃ left right, left ≠ right ∧ left ∈ level.top ∧ right ∈ level.top := by
  match level with
  | .nil => simp [shape, Shape.starts] at two
  | .cons _ _ _ _ .nil => simp [shape, Shape.starts] at two
  | .cons left _ _ _ (.cons right _ _ _ _) =>
      obtain ⟨⟨_, notAfter⟩, _⟩ := ids_nodup_cons.mp distinct
      refine ⟨left, right, ?_, by simp [top], by simp [top]⟩
      rintro rfl
      simp [ids] at notAfter

theorem Arena.Holds.valued_eq_countP {arena : Arena V} {forest : Forest V}
    (holds : arena.Holds forest) :
    forest.shape.valued = forest.ids.countP fun id => arena[id]?.any (·.value.isSome) := by
  induction forest with
  | nil => rfl
  | cons head fragment value children siblings below after =>
      obtain ⟨here, inner, later⟩ := holds
      simp only [Forest.shape, Shape.valued, Forest.ids, List.countP_cons, List.countP_append, here,
        below inner, after later, Option.any_some]
      omega

theorem Arena.countP_range (arena : Arena V) (holds : Node V → Bool) :
    ((List.range arena.size).countP fun id => arena[id]?.any holds) = arena.countP holds := by
  have listed : (List.range arena.size).map (arena[·]?) = arena.toList.map some := by
    apply List.ext_getElem
    · simp
    · intro id _ bound
      simp at bound
      simp [bound]
  calc
    (List.range arena.size).countP (fun id => arena[id]?.any holds) =
        ((List.range arena.size).map (arena[·]?)).countP (Option.any holds) := by
      rw [List.countP_map]
      rfl
    _ = arena.toList.countP holds := by
      rw [listed, List.countP_map]
      rfl
    _ = arena.countP holds := Array.countP_toList

namespace Laid

variable {trie : Trie V} {forest : Forest V}

theorem child_none (laid : trie.Laid forest) (id : NodeId) :
    trie.Child none id ↔ id ∈ forest.top := by
  rw [Child, levelHead, laid.root]
  exact laid.holds.follow_siblings id

theorem child_some (laid : trie.Laid forest) {parent : NodeId} {branch : Branch V}
    (found : forest.branch? parent = some branch) (id : NodeId) :
    trie.Child (some parent) id ↔ id ∈ branch.children.top := by
  obtain ⟨holds, next, record⟩ := laid.holds.branch? found
  rw [Child, levelHead, record]
  exact holds.follow_siblings id

theorem child_and_leading (laid : trie.Laid forest) (compact : forest.shape.Compact)
    (parent : Option NodeId) (first : Char) (id : NodeId) :
    trie.Child parent id ∧ trie.nodes.leading id = some first ↔
      forest.child parent first = some id := by
  cases parent with
  | none =>
      rw [laid.child_none]
      exact laid.holds.mem_top_and_leading compact id first
  | some upper =>
      by_cases member : upper ∈ forest.ids
      · obtain ⟨branch, found⟩ := Forest.exists_branch member
        rw [laid.child_some found, Forest.child, found]
        exact (laid.holds.branch? found).1.mem_top_and_leading
          (Forest.compact_of_branch compact found).2.2 id first
      · have bound : trie.nodes.size ≤ upper := by
          rwa [laid.mem_ids_iff, Nat.not_lt] at member
        have noLevel : trie.levelHead (some upper) = none := by
          simp [levelHead, Array.getElem?_eq_none bound]
        simp [Child, noLevel, Forest.child_of_not_mem member]

theorem leading_some (laid : trie.Laid forest) (compact : forest.shape.Compact) {id : NodeId}
    (member : id ∈ forest.ids) : ∃ first, trie.nodes.leading id = some first := by
  obtain ⟨branch, found⟩ := Forest.exists_branch member
  obtain ⟨_, next, record⟩ := laid.holds.branch? found
  obtain ⟨first, tail, fragment⟩ :=
    List.exists_cons_of_ne_nil (Forest.compact_of_branch compact found).1
  exact ⟨first, by simp [Arena.leading, record, fragment]⟩

theorem mem_of_child (laid : trie.Laid forest) {parent : Option NodeId} {id : NodeId}
    (below : trie.Child parent id) : id ∈ forest.ids := by
  cases parent with
  | none => exact forest.top_sublist_ids.subset ((laid.child_none id).mp below)
  | some upper =>
      by_cases member : upper ∈ forest.ids
      · obtain ⟨branch, found⟩ := Forest.exists_branch member
        have onTop := (laid.child_some found id).mp below
        have inside := branch.children.top_sublist_ids.subset onTop
        exact (Forest.ids_sublist_of_branch found).subset (List.mem_cons_of_mem _ inside)
      · have bound : trie.nodes.size ≤ upper := by
          rwa [laid.mem_ids_iff, Nat.not_lt] at member
        obtain ⟨steps, leads⟩ := below
        simp [levelHead, Array.getElem?_eq_none bound] at leads

theorem record (laid : trie.Laid forest) {id : NodeId} {node : Node V}
    (known : trie.nodes[id]? = some node) :
    ∃ branch, forest.branch? id = some branch ∧ node.fragment = branch.fragment ∧
      node.value = branch.value := by
  have bound := (Array.getElem?_eq_some_iff.mp known).1
  obtain ⟨branch, found⟩ := Forest.exists_branch ((laid.mem_ids_iff id).mpr bound)
  obtain ⟨_, next, record⟩ := laid.holds.branch? found
  have nodeEq := Option.some.inj (known.symm.trans record)
  exact ⟨branch, found, by rw [nodeEq], by rw [nodeEq]⟩

theorem index_edges (laid : trie.Laid forest) (compact : forest.shape.Compact)
    (dispatch : trie.config.dispatch = .indexed) (edge : Edge) (id : NodeId) :
    trie.index[edge]? = some id ↔ (edge, id) ∈ forest.edges none := by
  have index := laid.index
  simp only [Indexes, dispatch] at index
  rw [Forest.mem_edges_none laid.distinct compact, ← index]

theorem index_perm (laid : trie.Laid forest) (compact : forest.shape.Compact)
    (dispatch : trie.config.dispatch = .indexed) :
    trie.index.toList.Perm (forest.edges none) := by
  have entries : trie.index.toList.Nodup := by
    refine trie.index.distinct_keys_toList.imp ?_
    rintro left right different rfl
    simp at different
  have edges : (forest.edges none).Nodup := by
    apply List.Nodup.of_map Prod.snd
    rw [Forest.map_snd_edges compact]
    exact laid.distinct
  refine (List.perm_ext_iff_of_nodup entries edges).mpr ?_
  rintro ⟨edge, id⟩
  rw [Std.HashMap.mem_toList_iff_getElem?_eq_some]
  exact laid.index_edges compact dispatch edge id

theorem existsUnique_edge (laid : trie.Laid forest) (compact : forest.shape.Compact)
    (dispatch : trie.config.dispatch = .indexed) {id : NodeId} (bound : id < trie.nodes.size) :
    ∃! edge : Edge, trie.index[edge]? = some id := by
  have ends := Forest.map_snd_edges compact none
  have distinct : ((forest.edges none).map Prod.snd).Nodup := ends ▸ laid.distinct
  have member : id ∈ (forest.edges none).map Prod.snd :=
    ends ▸ (laid.mem_ids_iff id).mpr bound
  obtain ⟨⟨edge, _⟩, listed, rfl⟩ := List.mem_map.mp member
  refine ⟨edge, (laid.index_edges compact dispatch _ _).mpr listed, ?_⟩
  intro other entry
  have listedToo := (laid.index_edges compact dispatch _ _).mp entry
  have same := List.inj_on_of_nodup_map distinct listedToo listed rfl
  exact congrArg Prod.fst same

end Laid

namespace StandsFor

variable {trie : Trie V} {forest : Forest V}

theorem siblings_apart (stands : trie.StandsFor forest) {parent : Option NodeId}
    {left right : NodeId} (leftChild : trie.Child parent left)
    (rightChild : trie.Child parent right)
    (same : trie.nodes.leading left = trie.nodes.leading right) : left = right := by
  have present := stands.toLaid.mem_of_child leftChild
  obtain ⟨first, leading⟩ := stands.toLaid.leading_some stands.compact present
  have leftEdge := (stands.child_and_leading stands.compact parent first left).mp
    ⟨leftChild, leading⟩
  have rightEdge := (stands.child_and_leading stands.compact parent first right).mp
    ⟨rightChild, same ▸ leading⟩
  exact Option.some.inj (leftEdge.symm.trans rightEdge)

theorem two_children (stands : trie.StandsFor forest) {id : NodeId} {node : Node V}
    (known : trie.nodes[id]? = some node) (empty : node.value = none) :
    ∃ left right, left ≠ right ∧ trie.Child (some id) left ∧ trie.Child (some id) right := by
  obtain ⟨branch, found, _, value⟩ := stands.toLaid.record known
  have two := (Forest.compact_of_branch stands.compact found).2.1 (value ▸ empty)
  have distinct := (stands.distinct.sublist (Forest.ids_sublist_of_branch found)).of_cons
  obtain ⟨left, right, different, leftTop, rightTop⟩ := Forest.two_on_top distinct two
  exact ⟨left, right, different, (stands.child_some found left).mpr leftTop,
    (stands.child_some found right).mpr rightTop⟩

theorem value_of_leaf (stands : trie.StandsFor forest) {id : NodeId} {node : Node V}
    (known : trie.nodes[id]? = some node) (leaf : node.firstChild = none) : node.value.isSome := by
  by_contra empty
  obtain ⟨left, _, _, ⟨steps, leads⟩, _⟩ := stands.two_children known (by simpa using empty)
  simp [levelHead, known, leaf] at leads

theorem index_size (stands : trie.StandsFor forest) (dispatch : trie.config.dispatch = .indexed) :
    trie.index.size = trie.nodes.size := by
  calc
    trie.index.size = trie.index.toList.length := Std.HashMap.length_toList.symm
    _ = (forest.edges none).length := (stands.index_perm stands.compact dispatch).length_eq
    _ = forest.ids.length := by rw [← Forest.map_snd_edges stands.compact none, List.length_map]
    _ = trie.nodes.size := stands.length_ids

theorem wellFormed (stands : trie.StandsFor forest) : trie.WellFormed where
  reached id bound := by
    rw [stands.root]
    exact stands.holds.existsUnique_path stands.distinct ((stands.mem_ids_iff id).mpr bound)
  inside path id leads := by
    rw [stands.root] at leads
    exact (stands.mem_ids_iff id).mp (stands.holds.mem_of_follow leads)
  filled id node known := by
    obtain ⟨branch, found, fragment, _⟩ := stands.toLaid.record known
    rw [fragment]
    exact (Forest.compact_of_branch stands.compact found).1
  apart parent left right leftChild rightChild same :=
    stands.siblings_apart leftChild rightChild same
  branching id node known empty := stands.two_children known empty
  leaves id node known leaf := stands.value_of_leaf known leaf
  size := by
    rw [stands.size, stands.holds.valued_eq_countP, stands.ids.countP_eq, Arena.countP_range]
  index := by
    have index := stands.index
    cases dispatch : trie.config.dispatch with
    | linear => simpa only [Indexes, dispatch] using index
    | indexed =>
        simp only [Indexes, dispatch] at index
        refine ⟨?_, fun id bound => stands.existsUnique_edge stands.compact dispatch bound,
          stands.index_size dispatch⟩
        intro parent first id
        rw [index, stands.child_and_leading stands.compact]

end StandsFor

/-- Operations keep an empty trie well-formed. -/
theorem wellFormed_run (config : Config) (operations : List (Operation V)) :
    ((Trie.empty config).run operations).2.WellFormed := by
  obtain ⟨_, forest, stands, _⟩ := (run_mirrors config operations).2
  exact stands.wellFormed

end RadixForest.Trie
