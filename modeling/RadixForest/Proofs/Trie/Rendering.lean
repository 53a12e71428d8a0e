import RadixForest.Proofs.Trie.Grouping
import RadixForest.Proofs.Trie.Statistics

/-!
What a reader of a trie sees: its nodes spell the shape that is grouped out of its bindings, and its
text is the shape's, parents before their children.
-/

namespace RadixForest.Trie

variable {V : Type}

def Arena.Spells (arena : Arena V) : Option NodeId → Shape V → Prop
  | head, .nil => head = none
  | head, .cons fragment value children siblings =>
    ∃ id node, head = some id ∧ arena[id]? = some node ∧ node.fragment = fragment ∧
      node.value = value ∧ arena.Spells node.firstChild children ∧
      arena.Spells node.nextSibling siblings

/-- Two spaces for each level above a node, its fragment, and an arrow to its value if it has one;
then the trees below it, then those after it. -/
def Shape.text (shown : V → String) (depth : Nat) : Shape V → List Char
  | .nil => []
  | .cons fragment value children siblings =>
    (List.replicate depth [' ', ' ']).flatten ++ fragment ++
      (value.toList.flatMap fun value => " => ".toList ++ (shown value).toList) ++ ['\n'] ++
      children.text shown (depth + 1) ++ siblings.text shown depth

theorem Arena.Holds.spells {arena : Arena V} {forest : Forest V} (holds : arena.Holds forest) :
    arena.Spells forest.first forest.shape := by
  induction forest with
  | nil => rfl
  | cons head fragment value children siblings below after =>
      exact ⟨head, _, rfl, holds.1, rfl, rfl, below holds.2.1, after holds.2.2⟩

def Forest.sights (depth : Nat) : Forest V → List (Sight V)
  | nil => []
  | cons _ fragment value children siblings =>
    ⟨depth, ⟨fragment, value, children.first, siblings.first⟩⟩ ::
      (children.sights (depth + 1) ++ siblings.sights depth)

theorem pile_reverse (depth : Nat) (level : List NodeId) (stack : List Visit) :
    pile depth level.reverse stack = level.map (fun id => ⟨id, depth⟩) ++ stack := by
  rw [pile_eq, List.reverse_reverse]

theorem Arena.Holds.visits {α : Type} {arena : Arena V} {forest : Forest V}
    (holds : arena.Holds forest) (distinct : forest.ids.Nodup) (visit : α → Sight V → α)
    (fuel depth : Nat) (stack : List Visit) (gathered : α) :
    arena.visits List.reverse visit (forest.ids.length + fuel)
        (forest.top.map (fun id => ⟨id, depth⟩) ++ stack) gathered =
      arena.visits List.reverse visit fuel stack ((forest.sights depth).foldl visit gathered) := by
  induction forest generalizing fuel depth stack gathered with
  | nil => simp [Forest.ids, Forest.top, Forest.sights]
  | cons head fragment value children siblings below after =>
      obtain ⟨here, inner, later⟩ := holds
      obtain ⟨_, distinctBelow, distinctAfter, _⟩ := Forest.ids_nodup_cons.mp distinct
      have steps : (Forest.cons head fragment value children siblings).ids.length + fuel =
          children.ids.length + (siblings.ids.length + fuel) + 1 := by
        simp only [Forest.ids, List.length_cons, List.length_append]
        omega
      rw [steps, Forest.top, List.map_cons, List.cons_append, Arena.visits, here]
      simp only [pile_reverse, inner.siblings distinctBelow]
      -- For the children the siblings are a part of the stack.
      rw [below inner distinctBelow, after later distinctAfter, Forest.sights, List.foldl_cons,
        List.foldl_append]

theorem StandsFor.walk_reverse {α : Type} {trie : Trie V} {forest : Forest V}
    (stands : trie.StandsFor forest) (depth : Nat) (visit : α → Sight V → α) (initial : α) :
    trie.walk List.reverse depth visit initial = (forest.sights depth).foldl visit initial := by
  have fuel : trie.nodes.size = forest.ids.length + 0 := by
    rw [Nat.add_zero, stands.length_ids]
  rw [walk, pile_reverse, stands.level_none, fuel, stands.holds.visits stands.distinct]
  rfl

theorem flatten_replicate_spaces (depth : Nat) :
    (List.replicate depth [' ', ' ']).flatten = List.replicate (2 * depth) ' ' := by
  induction depth with
  | zero => rfl
  | succ depth ih =>
      rw [List.replicate_succ, List.flatten_cons, ih, Nat.mul_succ, Nat.add_comm,
        List.replicate_add]
      rfl

theorem foldl_extend_error (shown : V → String) (panic : Panic) (sights : List (Sight V)) :
    sights.foldl (Sight.extend shown) (.error panic) = .error panic := by
  induction sights with
  | nil => rfl
  | cons sight sights ih => exact ih

theorem Sight.extend_ok (shown : V → String) (text : String) (sight : Sight V) :
    Sight.extend shown (.ok text) sight =
      if sight.depth + 1 ≤ 32768 then
        .ok (text ++ String.ofList ((List.replicate sight.depth [' ', ' ']).flatten ++
          sight.node.fragment ++ (sight.node.value.toList.flatMap fun value =>
            " => ".toList ++ (shown value).toList) ++ ['\n']))
      else .error .paddingTooWide := by
  have fits : 2 * sight.depth ≤ widestPadding ↔ sight.depth + 1 ≤ 32768 := by
    unfold widestPadding
    omega
  rw [flatten_replicate_spaces]
  by_cases narrow : sight.depth + 1 ≤ 32768
  · rw [if_pos narrow]
    simp only [extend, line, padding, if_pos (fits.mpr narrow)]
    cases sight.node.value <;> simp [bind, Except.bind, pure, Except.pure]
  · rw [if_neg narrow]
    simp only [extend, line, padding, if_neg (mt fits.mp narrow)]
    rfl

theorem Forest.foldl_extend (forest : Forest V) (shown : V → String) (depth : Nat)
    (text : String) :
    (forest.sights depth).foldl (Sight.extend shown) (.ok text) =
      if forest.shape.height depth ≤ 32768 then
        .ok (text ++ String.ofList (forest.shape.text shown depth))
      else .error .paddingTooWide := by
  -- A node that lies too deep breaks the text off, and all nodes after it leave that as it is.
  induction forest generalizing depth text with
  | nil => simp [sights, shape, Shape.text, Shape.height]
  | cons head fragment value children siblings below after =>
      rw [sights, List.foldl_cons, List.foldl_append, Sight.extend_ok, shape, Shape.text,
        Shape.height]
      by_cases here : depth + 1 ≤ 32768
      · rw [if_pos here, below]
        by_cases inner : children.shape.height (depth + 1) ≤ 32768
        · rw [if_pos inner, after]
          simp only [Nat.max_le, here, inner, true_and]
          simp [String.append_assoc]
        · simp only [inner, if_false, foldl_extend_error, Nat.max_le, false_and, and_false]
      · simp only [here, if_false, foldl_extend_error, Nat.max_le, false_and]

theorem StandsFor.render {trie : Trie V} {forest : Forest V} (stands : trie.StandsFor forest)
    (shown : V → String) :
    trie.render shown =
      if trie.stats.maxDepth ≤ 32768 then .ok (String.ofList (forest.shape.text shown 0))
      else .error .paddingTooWide := by
  rw [Trie.render, stands.walk_reverse, Forest.foldl_extend, String.empty_append, stands.stats]
  rfl

theorem Shape.length_le_height {shape : Shape V} (compact : shape.Compact) {keys : List Key}
    (distinct : keys.Nodup) (bound : ∀ key ∈ keys, shape.Binds key) {last : Key}
    (member : last ∈ keys) (nested : ∀ key ∈ keys, key <+: last) :
    keys.length ≤ shape.height 0 := by
  have paths : ∀ key ∈ keys, key ∈ shape.paths := by
    intro key member
    have filled := ne_nil_of_binds compact (bound key member)
    exact (mem_paths_iff compact filled).mpr (.inl (bound key member))
  have deep := (height_le_iff compact 0 (shape.height 0)).mp (Nat.le_refl _) last
    (paths last member)
  rw [Nat.zero_add, depth, List.countP_eq_length_filter] at deep
  refine Nat.le_trans (List.Subperm.length_le (List.subperm_of_subset distinct ?_)) deep
  intro key member
  exact List.mem_filter.mpr ⟨paths key member, decide_eq_true (nested key member)⟩

theorem Shape.height_le {shape : Shape V} (compact : shape.Compact) {most : Nat}
    (short : ∀ key, shape.Binds key → key.length ≤ most) : shape.height 0 ≤ most := by
  refine (height_le_iff compact 0 most).mpr fun path member => ?_
  obtain ⟨key, binds, starts⟩ := exists_binds_behind compact member
  have nodes : shape.depth path ≤ path.length := by
    rw [depth, List.countP_eq_length_filter, ← length_prefixes path]
    refine List.Subperm.length_le (List.subperm_of_subset ((nodup_paths compact).filter _) ?_)
    intro start inside
    obtain ⟨member, starts⟩ := List.mem_filter.mp inside
    have filled := (head_of_mem_collect own_path compact member).1
    exact mem_prefixes_iff.mpr ⟨filled, of_decide_eq_true starts⟩
  rw [Nat.zero_add]
  exact Nat.le_trans nodes (Nat.le_trans starts.length_le (short key binds))

theorem maxDepth_le (config : Config) (operations : List (Operation V)) (most : Nat)
    (short : ∀ key ∈ (Dictionary.run config operations).2.keys, key.length ≤ most) :
    ((Trie.empty config).run operations).2.stats.maxDepth ≤ most := by
  obtain ⟨_, forest, stands, filled⟩ := (run_mirrors config operations).2
  rw [stands.stats]
  refine Shape.height_le filled.compact fun key binds => short key ?_
  rwa [Bindings.mem_keys_iff, ← filled.lookup]

/-- After any operations a trie spells what is grouped out of its bindings. Its text is that of the
groups as long as no path is longer than 32768 nodes, and is broken off otherwise. -/
theorem run_spells_grouped (config : Config) (operations : List (Operation V)) :
    let trie := ((Trie.empty config).run operations).2
    let bindings := (Dictionary.run config operations).2
    trie.nodes.Spells trie.root (grouped bindings) ∧
      ∀ shown, trie.render shown =
        if trie.stats.maxDepth ≤ 32768 then .ok (String.ofList ((grouped bindings).text shown 0))
        else .error .paddingTooWide := by
  obtain ⟨_, forest, stands, filled⟩ := (run_mirrors config operations).2
  simp only [← filled.eq_grouped]
  refine ⟨?_, stands.render⟩
  rw [stands.root]
  exact stands.holds.spells

def repeats (count : Nat) : List (Operation Nat) :=
  (List.range count).map fun n => .insert (List.replicate (n + 1) 'a') n false

theorem Dictionary.run_repeats (count : Nat) :
    ∀ n < count, ((run {} (repeats count)).2.lookup (List.replicate (n + 1) 'a')).isSome := by
  induction count with
  | zero => simp
  | succ count ih =>
      intro n below
      have kept := ih n
      unfold run repeats at *
      rw [List.range_succ, List.map_append, transcript_append]
      generalize (transcript (perform {}) ([] : Bindings Nat) _).2 = bindings at kept ⊢
      have named : name {} (List.replicate (count + 1) 'a') =
        .ok (List.replicate (count + 1) 'a') := rfl
      simp only [List.map_singleton, transcript, perform, named]
      rcases Nat.lt_succ_iff_lt_or_eq.mp below with before | rfl
      · cases bindings.lookup (List.replicate (count + 1) 'a') with
        | none =>
            simp only [Bindings.lookup_put]
            split
            · rfl
            · exact kept before
        | some old => exact kept before
      · cases found : bindings.lookup (List.replicate (n + 1) 'a') with
        | none => simp [Bindings.lookup_put]
        | some old => simp [found]

theorem le_maxDepth_repeats (count : Nat) :
    count ≤ ((Trie.empty {}).run (repeats count)).2.stats.maxDepth := by
  obtain ⟨_, forest, stands, filled⟩ := (run_mirrors {} (repeats count)).2
  rw [stands.stats]
  cases count with
  | zero => exact Nat.zero_le _
  | succ count =>
      let keys := (List.range (count + 1)).map fun n => List.replicate (n + 1) 'a'
      have distinct : keys.Nodup := by
        refine List.nodup_range.map fun n m same => ?_
        simpa using congrArg List.length same
      have bound : ∀ key ∈ keys, forest.shape.Binds key := by
        intro key member
        obtain ⟨n, below, rfl⟩ := List.mem_map.mp member
        rw [Shape.Binds, filled.lookup]
        exact Dictionary.run_repeats _ n (List.mem_range.mp below)
      have member : List.replicate (count + 1) 'a' ∈ keys :=
        List.mem_map.mpr ⟨count, List.mem_range.mpr (Nat.lt_succ_self _), rfl⟩
      have nested : ∀ key ∈ keys, key <+: List.replicate (count + 1) 'a' := by
        intro key member
        obtain ⟨n, below, rfl⟩ := List.mem_map.mp member
        rw [List.mem_range] at below
        exact ⟨List.replicate (count - n) 'a', by
          rw [← List.replicate_add]
          congr 1
          omega⟩
      have deep := Shape.length_le_height filled.compact distinct bound member nested
      rw [List.length_map, List.length_range] at deep
      exact deep

/-- A letter repeated 32769 times, with all that starts it, is more than can be shown. -/
theorem repeats_not_rendered :
    ((Trie.empty {}).run (repeats 32769)).2.render toString = .error .paddingTooWide := by
  have deep := le_maxDepth_repeats 32769
  obtain ⟨_, _, stands, _⟩ := (run_mirrors {} (repeats 32769)).2
  rw [stands.render, if_neg (by omega)]

end RadixForest.Trie
