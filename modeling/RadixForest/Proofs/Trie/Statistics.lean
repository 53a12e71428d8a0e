import RadixForest.Proofs.Trie.Dictionary
import RadixForest.Proofs.Trie.Paths
import RadixForest.Trie.Walk

/-!
What the statistics of a trie count. The walk that collects them takes the siblings from the last to
the first, and comes to every node once.
-/

namespace RadixForest.Trie

variable {V : Type}

def Forest.backwards (depth : Nat) : Forest V → List (Sight V)
  | nil => []
  | cons _ fragment value children siblings =>
    siblings.backwards depth ++
      ⟨depth, ⟨fragment, value, children.first, siblings.first⟩⟩ :: children.backwards (depth + 1)

def Shape.stats (shape : Shape V) : Stats where
  keys := shape.valued
  nodes := shape.paths.length
  branchNodes := shape.paths.length - shape.valued
  maxDepth := shape.height 0
  fragmentBytes := shape.bytes

theorem pile_eq (depth : Nat) (level : List NodeId) (stack : List Visit) :
    pile depth level stack = level.reverse.map (fun id => ⟨id, depth⟩) ++ stack := by
  unfold pile
  induction level generalizing stack with
  | nil => rfl
  | cons id level ih => rw [List.foldl_cons, ih, List.reverse_cons, List.map_append,
      List.append_assoc, List.map_singleton, List.singleton_append]

theorem Arena.Holds.visits_id {α : Type} {arena : Arena V} {forest : Forest V}
    (holds : arena.Holds forest) (distinct : forest.ids.Nodup) (visit : α → Sight V → α)
    (fuel depth : Nat) (stack : List Visit) (gathered : α) :
    arena.visits id visit (forest.ids.length + fuel)
        (forest.top.reverse.map (fun id => ⟨id, depth⟩) ++ stack) gathered =
      arena.visits id visit fuel stack ((forest.backwards depth).foldl visit gathered) := by
  induction forest generalizing fuel depth stack gathered with
  | nil => simp [Forest.ids, Forest.top, Forest.backwards]
  | cons head fragment value children siblings below after =>
      obtain ⟨here, inner, later⟩ := holds
      obtain ⟨_, distinctBelow, distinctAfter, _⟩ := Forest.ids_nodup_cons.mp distinct
      have steps : (Forest.cons head fragment value children siblings).ids.length + fuel =
          siblings.ids.length + (children.ids.length + fuel + 1) := by
        simp only [Forest.ids, List.length_cons, List.length_append]
        omega
      -- For the siblings the node itself is a part of the stack, and for its children nothing is.
      rw [steps, Forest.top, List.reverse_cons, List.map_append, List.append_assoc,
        after later distinctAfter, List.map_singleton, List.singleton_append, Arena.visits, here]
      simp only [id, pile_eq, inner.siblings distinctBelow]
      rw [below inner distinctBelow, Forest.backwards, List.foldl_append, List.foldl_cons]

theorem StandsFor.walk_id {α : Type} {trie : Trie V} {forest : Forest V}
    (stands : trie.StandsFor forest) (depth : Nat) (visit : α → Sight V → α) (initial : α) :
    trie.walk id depth visit initial = (forest.backwards depth).foldl visit initial := by
  have fuel : trie.nodes.size = forest.ids.length + 0 := by
    rw [Nat.add_zero, stands.length_ids]
  rw [walk, id, pile_eq, stands.level_none, fuel, stands.holds.visits_id stands.distinct]
  rfl

theorem Shape.valued_le_length_paths (shape : Shape V) : shape.valued ≤ shape.paths.length := by
  induction shape with
  | nil => exact Nat.le_refl 0
  | cons fragment value children siblings below after =>
      simp only [valued, paths_cons, List.length_cons, List.length_append, List.length_map]
      split <;> omega

theorem Forest.foldl_count (forest : Forest V) (above : Nat) (stats : Stats) :
    (forest.backwards (above + 1)).foldl Stats.count stats =
      { keys := stats.keys + forest.shape.valued
        nodes := stats.nodes + forest.shape.paths.length
        branchNodes := stats.branchNodes + (forest.shape.paths.length - forest.shape.valued)
        maxDepth := max stats.maxDepth (forest.shape.height above)
        fragmentBytes := stats.fragmentBytes + forest.shape.bytes } := by
  induction forest generalizing above stats with
  | nil => simp [backwards, shape, Shape.valued, Shape.paths, Shape.collect, Shape.height,
      Shape.bytes]
  | cons head fragment value children siblings below after =>
      have inner := children.shape.valued_le_length_paths
      have later := siblings.shape.valued_le_length_paths
      rw [backwards, List.foldl_append, List.foldl_cons, after, below, shape]
      simp only [Stats.count, Shape.valued, Shape.paths_cons, List.length_cons,
        List.length_append, List.length_map, Shape.height, Shape.bytes, Stats.mk.injEq]
      cases value <;> simp <;> omega

theorem StandsFor.stats {trie : Trie V} {forest : Forest V} (stands : trie.StandsFor forest) :
    trie.stats = forest.shape.stats := by
  rw [Trie.stats, stands.walk_id, Forest.foldl_count forest 0]
  simp [Shape.stats]

theorem StandsFor.keys_stats {trie : Trie V} {forest : Forest V} (stands : trie.StandsFor forest) :
    trie.stats.keys = trie.size := by
  rw [stands.stats, stands.size]
  rfl

/-- The statistics of a compact shape depend on its keys alone. -/
theorem Shape.stats_congr {one other : Shape V} (oneCompact : one.Compact)
    (otherCompact : other.Compact) (same : ∀ key, one.Binds key ↔ other.Binds key) :
    one.stats = other.stats := by
  have nodes := (paths_perm oneCompact otherCompact same).length_eq
  simp only [stats, nodes, valued_congr oneCompact otherCompact same,
    height_congr oneCompact otherCompact same, bytes_congr oneCompact otherCompact same]

end RadixForest.Trie
