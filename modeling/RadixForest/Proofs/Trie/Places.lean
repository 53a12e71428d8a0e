import Mathlib.Algebra.BigOperators.Group.Finset.Basic
import Mathlib.Data.Finset.Lattice.Fold
import Mathlib.Data.Finset.Prod
import Mathlib.Order.Lattice.Nat
import RadixForest.Proofs.Trie.Grouping
import RadixForest.Proofs.Trie.Statistics
import RadixForest.Proofs.Trie.Structure

/-!
What a set of keys says of the trie that holds them. There is one node for each key and one for each
place where two keys part, and the statistics count these places and the characters on the way.
-/

namespace RadixForest.Trie

variable {V : Type}

/-- The keys, and the places where two of them part behind a common start. -/
def places (keys : Finset Key) : Finset Key :=
  keys ∪ (keys.offDiag.image fun pair => sharedStart pair.1 pair.2).erase []

-- Every start of a key but the empty one stands for its last character.
def Stats.ofKeys (keys : Finset Key) : Stats where
  keys := keys.card
  nodes := (places keys).card
  branchNodes := (places keys \ keys).card
  maxDepth := keys.sup fun key => ((places keys).filter fun place => place <+: key).card
  fragmentBytes := ∑ start ∈ keys.biUnion fun key => (prefixes key).toFinset, lastBytes start

inductive EndsAt (trie : Trie V) : NodeId → Key → Prop
  | onTop {id node} : trie.Child none id → trie.nodes[id]? = some node →
      EndsAt trie id node.fragment
  | under {parent start id node} : EndsAt trie parent start → trie.Child (some parent) id →
      trie.nodes[id]? = some node → EndsAt trie id (start ++ node.fragment)

theorem weight_eq_sum {keys : List Key} (distinct : keys.Nodup) :
    weight keys = ∑ key ∈ keys.toFinset, lastBytes key := by
  induction keys with
  | nil => rfl
  | cons key keys ih =>
      obtain ⟨notLater, later⟩ := List.nodup_cons.mp distinct
      rw [weight, ih later, List.toFinset_cons, Finset.sum_insert (by simpa using notLater)]

namespace Shape

theorem nodes_add_trees_le {shape : Shape V} (compact : shape.Compact) :
    shape.paths.length + shape.starts.length ≤ 2 * shape.valued := by
  induction shape with
  | nil => simp [paths, collect, starts, valued]
  | cons fragment value children siblings below after =>
      obtain ⟨_, _, branching, inner, later⟩ := compact
      have lower := below inner
      have behind := after later
      simp only [paths_cons, List.length_cons, List.length_append, List.length_map, starts, valued]
      cases value with
      | some stored =>
          simp only [Option.isSome_some, if_true]
          omega
      | none =>
          have two := branching rfl
          simp only [Option.isSome_none, Bool.false_eq_true, if_false]
          omega

section Keys

variable {shape : Shape V} (compact : shape.Compact) {keys : Finset Key}
  (stored : ∀ key, key ∈ keys ↔ shape.Binds key)

include compact stored

theorem mem_places_iff (place : Key) : place ∈ places keys ↔ place ∈ shape.paths := by
  have parts : place ∈ places keys ↔ place ∈ keys ∨ place ≠ [] ∧
      ∃ one ∈ keys, ∃ other ∈ keys, one ≠ other ∧ sharedStart one other = place := by
    simp only [places, Finset.mem_union, Finset.mem_erase, Finset.mem_image, Finset.mem_offDiag,
      Prod.exists, and_assoc, exists_and_left]
  rw [parts]
  by_cases filled : place = []
  · have noKey : place ∉ keys := fun member =>
      ne_nil_of_binds compact ((stored place).mp member) filled
    have noPath : place ∉ shape.paths := fun member =>
      (head_of_mem_collect own_path compact member).1 filled
    simp [filled ▸ noKey, filled ▸ noPath, filled]
  · rw [mem_paths_iff compact filled, ← stored]
    constructor
    · rintro (key | ⟨_, one, oneKey, other, otherKey, different, shared⟩)
      · exact Or.inl key
      · rw [sharedStart_eq_diverge] at shared
        have left := Text.diverge_left one other
        have right := Text.diverge_right one other
        rw [shared] at left right
        rcases Text.diverge_cases one other with
          ended | ended | ⟨c, oneTail, d, otherTail, leftOn, rightOn, different⟩
        · rw [ended, List.append_nil] at left
          exact Or.inl (left ▸ oneKey)
        · rw [ended, List.append_nil] at right
          exact Or.inl (right ▸ otherKey)
        · rw [leftOn] at left
          rw [rightOn] at right
          refine Or.inr ⟨c, oneTail, d, otherTail, different, ?_, ?_⟩
          · exact (stored _).mp (left ▸ oneKey)
          · exact (stored _).mp (right ▸ otherKey)
    · rintro (key | ⟨c, left, d, right, different, one, other⟩)
      · exact Or.inl key
      · refine Or.inr ⟨filled, _, (stored _).mpr one, _, (stored _).mpr other, ?_, ?_⟩
        · intro same
          exact different (List.cons.inj (List.append_cancel_left same)).1
        · rw [sharedStart_eq_diverge, Text.diverge_fork different]

theorem places_eq : places keys = shape.paths.toFinset := by
  ext place
  rw [mem_places_iff compact stored, List.mem_toFinset]

theorem card_places : (places keys).card = shape.paths.length := by
  rw [places_eq compact stored, List.toFinset_card_of_nodup (nodup_paths compact)]

theorem card_keys : keys.card = shape.valued := by
  have chosen : keys = (shape.paths.filter fun path => (shape.lookup path).isSome).toFinset := by
    ext key
    rw [List.mem_toFinset, List.mem_filter, stored]
    refine ⟨fun binds => ⟨?_, binds⟩, fun member => member.2⟩
    exact (mem_paths_iff compact (ne_nil_of_binds compact binds)).mpr (Or.inl binds)
  rw [chosen, List.toFinset_card_of_nodup ((nodup_paths compact).filter _),
    ← List.countP_eq_length_filter, valued_eq_countP compact]

theorem card_branches : (places keys \ keys).card = shape.paths.length - shape.valued := by
  have inside : keys ⊆ places keys := Finset.subset_union_left
  rw [Finset.card_sdiff_of_subset inside, card_places compact stored, card_keys compact stored]

theorem depth_eq_card (path : Key) :
    shape.depth path = ((places keys).filter fun place => place <+: path).card := by
  have chosen : ((places keys).filter fun place => place <+: path) =
      (shape.paths.filter fun place => place <+: path).toFinset := by
    ext place
    simp [mem_places_iff compact stored]
  rw [chosen, List.toFinset_card_of_nodup ((nodup_paths compact).filter _),
    ← List.countP_eq_length_filter]
  rfl

omit stored in
theorem exists_key_behind {path : Key} (member : path ∈ shape.paths) :
    ∃ key, shape.Binds key ∧ shape.depth path ≤ shape.depth key := by
  obtain ⟨key, binds, starts⟩ := exists_binds_behind compact member
  refine ⟨key, binds, List.countP_mono_left fun start _ onPath => ?_⟩
  exact decide_eq_true ((of_decide_eq_true onPath).trans starts)

theorem height_eq_sup :
    shape.height 0 =
      keys.sup fun key => ((places keys).filter fun place => place <+: key).card := by
  refine eq_of_forall_ge_iff fun most => ?_
  rw [height_le_iff compact, Finset.sup_le_iff]
  simp only [Nat.zero_add, ← depth_eq_card compact stored]
  constructor
  · intro bounded key member
    have binds := (stored key).mp member
    exact bounded key ((mem_paths_iff compact (ne_nil_of_binds compact binds)).mpr (Or.inl binds))
  · intro bounded path member
    obtain ⟨key, binds, longer⟩ := exists_key_behind compact member
    exact Nat.le_trans longer (bounded key ((stored key).mpr binds))

theorem bytes_eq_sum :
    shape.bytes = ∑ start ∈ keys.biUnion fun key => (prefixes key).toFinset, lastBytes start := by
  rw [bytes_eq_weight compact, weight_eq_sum (nodup_spelled compact)]
  congr 1
  ext start
  simp only [List.mem_toFinset, Finset.mem_biUnion, mem_prefixes_iff, stored]
  constructor
  · intro member
    have filled := (head_of_mem_collect own_prefixes compact member).1
    obtain ⟨key, binds, starts⟩ := (mem_spelled_iff compact filled).mp member
    exact ⟨key, binds, filled, starts⟩
  · rintro ⟨key, binds, filled, starts⟩
    exact (mem_spelled_iff compact filled).mpr ⟨key, binds, starts⟩

theorem stats_eq_ofKeys : shape.stats = Stats.ofKeys keys := by
  simp only [stats, Stats.ofKeys, card_keys compact stored, card_places compact stored,
    card_branches compact stored, height_eq_sup compact stored, bytes_eq_sum compact stored]

theorem card_places_le : (places keys).card ≤ 2 * keys.card - 1 := by
  rw [card_places compact stored, card_keys compact stored]
  have together := nodes_add_trees_le compact
  cases shape with
  | nil => simp [paths, collect]
  | cons fragment value children siblings =>
      simp only [starts, List.length_cons] at together
      omega

end Keys

end Shape

/-- The nodes of a trie stand one for one for a set of places. -/
structure Charted (trie : Trie V) (places : Finset Key) : Prop where
  inside : ∀ id place, trie.EndsAt id place → id < trie.nodes.size ∧ place ∈ places
  place : ∀ id, id < trie.nodes.size → ∃! place, trie.EndsAt id place
  node : ∀ place ∈ places, ∃! id, trie.EndsAt id place

def Forest.ends : Forest V → List (NodeId × Key)
  | nil => []
  | cons id fragment _ children siblings =>
    (id, fragment) ::
      (children.ends.map (fun lower => (lower.1, fragment ++ lower.2)) ++ siblings.ends)

namespace Forest

theorem map_fst_ends (forest : Forest V) : forest.ends.map Prod.fst = forest.ids := by
  induction forest with
  | nil => rfl
  | cons id fragment value children siblings below after =>
      simp [ends, ids, ← below, ← after, Function.comp_def]

theorem map_snd_ends (forest : Forest V) : forest.ends.map Prod.snd = forest.shape.paths := by
  induction forest with
  | nil => rfl
  | cons id fragment value children siblings below after =>
      simp [ends, shape, Shape.paths_cons, ← below, ← after, Function.comp_def]

theorem mem_ids_of_ends {forest : Forest V} {id : NodeId} {path : Key}
    (member : (id, path) ∈ forest.ends) : id ∈ forest.ids := by
  rw [← map_fst_ends]
  exact List.mem_map_of_mem member

theorem mem_ends_below {forest : Forest V} {parent id : NodeId} {start rest : Key}
    {branch : Branch V} (distinct : forest.ids.Nodup) (reached : (parent, start) ∈ forest.ends)
    (found : forest.branch? parent = some branch) (member : (id, rest) ∈ branch.children.ends) :
    (id, start ++ rest) ∈ forest.ends := by
  induction forest generalizing start with
  | nil => cases reached
  | cons head fragment value children siblings below after =>
      have ⟨_, distinctBelow, distinctAfter, _⟩ := ids_nodup_cons.mp distinct
      simp only [ends, List.mem_cons, List.mem_append, List.mem_map, Prod.mk.injEq] at reached ⊢
      rcases branch?_cons distinct found with
        ⟨rfl, rfl, notBelow, notAfter⟩ | ⟨different, inside, notAfter⟩ |
        ⟨different, behind, notBelow⟩
      · rcases reached with ⟨_, rfl⟩ | ⟨lower, lowerIn, rfl, _⟩ | later
        · exact Or.inr (Or.inl ⟨(id, rest), member, rfl, rfl⟩)
        · exact absurd (mem_ids_of_ends lowerIn) notBelow
        · exact absurd (mem_ids_of_ends later) notAfter
      · rcases reached with ⟨same, _⟩ | ⟨lower, lowerIn, rfl, rfl⟩ | later
        · exact absurd same different
        · have inner := below distinctBelow lowerIn inside
          exact Or.inr (Or.inl ⟨_, inner, rfl, (List.append_assoc _ _ _).symm⟩)
        · exact absurd (mem_ids_of_ends later) notAfter
      · rcases reached with ⟨same, _⟩ | ⟨lower, lowerIn, rfl, _⟩ | later
        · exact absurd same different
        · exact absurd (mem_ids_of_ends lowerIn) notBelow
        · exact Or.inr (Or.inr (after distinctAfter later behind))

end Forest

theorem Arena.Holds.mem_ends_of_top {arena : Arena V} {forest : Forest V}
    (holds : arena.Holds forest) {id : NodeId} {node : Node V} (member : id ∈ forest.top)
    (known : arena[id]? = some node) : (id, node.fragment) ∈ forest.ends := by
  induction forest with
  | nil => cases member
  | cons head fragment value children siblings _ after =>
      simp only [Forest.ends, List.mem_cons, List.mem_append]
      rcases List.mem_cons.mp member with rfl | later
      · have nodeEq := Option.some.inj (known.symm.trans holds.1)
        exact Or.inl (by rw [nodeEq])
      · exact Or.inr (Or.inr (after holds.2.2 later))

namespace Laid

variable {trie : Trie V} {forest : Forest V}

theorem mem_ends_of_endsAt (laid : trie.Laid forest) {id : NodeId} {path : Key}
    (reached : trie.EndsAt id path) : (id, path) ∈ forest.ends := by
  induction reached with
  | onTop stands known => exact laid.holds.mem_ends_of_top ((laid.child_none _).mp stands) known
  | under _ stands known start =>
      obtain ⟨branch, found⟩ := Forest.exists_branch (Forest.mem_ids_of_ends start)
      have inner := (laid.holds.branch? found).1
      exact Forest.mem_ends_below laid.distinct start found
        (inner.mem_ends_of_top ((laid.child_some found _).mp stands) known)

theorem endsAt_of_mem_ends (laid : trie.Laid forest) {part : Forest V}
    (sound : Part trie forest part) {start : Key}
    (reached : ∀ id ∈ part.top, ∀ node, trie.nodes[id]? = some node →
      trie.EndsAt id (start ++ node.fragment))
    {id : NodeId} {path : Key} (member : (id, path) ∈ part.ends) :
    trie.EndsAt id (start ++ path) := by
  -- Siblings are reached from the same start; what is below a node is reached from its end.
  induction part generalizing start path with
  | nil => cases member
  | cons head fragment value children siblings below after =>
      have here := reached head List.mem_cons_self _ sound.holds.1
      simp only [Forest.ends, List.mem_cons, List.mem_append, List.mem_map, Prod.mk.injEq] at member
      rcases member with ⟨rfl, rfl⟩ | ⟨lower, lowerIn, rfl, rfl⟩ | later
      · exact here
      · rw [← List.append_assoc]
        refine below sound.below ?_ lowerIn
        intro id onTop node known
        exact .under here ((laid.child_some sound.here id).mpr onTop) known
      · refine after sound.after ?_ later
        intro id onTop
        exact reached id (List.mem_cons_of_mem _ onTop)

end Laid

namespace StandsFor

variable {trie : Trie V} {forest : Forest V}

theorem endsAt_iff (stands : trie.StandsFor forest) (id : NodeId) (path : Key) :
    trie.EndsAt id path ↔ (id, path) ∈ forest.ends := by
  have top : ∀ id ∈ forest.top, ∀ node, trie.nodes[id]? = some node →
      trie.EndsAt id ([] ++ node.fragment) := by
    intro id onTop node known
    exact .onTop ((stands.child_none id).mpr onTop) known
  exact ⟨stands.mem_ends_of_endsAt, stands.endsAt_of_mem_ends stands.part top⟩

theorem charted (stands : trie.StandsFor forest) : trie.Charted forest.shape.paths.toFinset where
  inside id place reached := by
    have member := (stands.endsAt_iff id place).mp reached
    refine ⟨(stands.mem_ids_iff id).mp (Forest.mem_ids_of_ends member), ?_⟩
    rw [List.mem_toFinset, ← Forest.map_snd_ends]
    exact List.mem_map_of_mem member
  place id bound := by
    have distinct : (forest.ends.map Prod.fst).Nodup := by
      rw [Forest.map_fst_ends]
      exact stands.distinct
    have listed := (stands.mem_ids_iff id).mpr bound
    rw [← Forest.map_fst_ends] at listed
    obtain ⟨⟨_, place⟩, member, rfl⟩ := List.mem_map.mp listed
    refine ⟨place, (stands.endsAt_iff _ _).mpr member, fun other reached => ?_⟩
    have otherMember := (stands.endsAt_iff _ _).mp reached
    exact congrArg Prod.snd (List.inj_on_of_nodup_map distinct otherMember member rfl)
  node place listed := by
    have distinct : (forest.ends.map Prod.snd).Nodup := by
      rw [Forest.map_snd_ends]
      exact Shape.nodup_paths stands.compact
    rw [List.mem_toFinset, ← Forest.map_snd_ends] at listed
    obtain ⟨⟨id, _⟩, member, rfl⟩ := List.mem_map.mp listed
    refine ⟨id, (stands.endsAt_iff _ _).mpr member, fun other reached => ?_⟩
    have otherMember := (stands.endsAt_iff _ _).mp reached
    exact congrArg Prod.fst (List.inj_on_of_nodup_map distinct otherMember member rfl)

theorem nodeCount (stands : trie.StandsFor forest) :
    trie.nodeCount = forest.shape.paths.length := by
  rw [Trie.nodeCount, ← Forest.map_snd_ends, List.length_map, ← List.length_map Prod.fst,
    Forest.map_fst_ends, stands.length_ids]

end StandsFor

theorem Mirrors.size_eq_card {config : Config} {trie : Trie V} {bindings : Bindings V}
    (mirrors : Mirrors config trie bindings) {keys : Finset Key}
    (stored : ∀ key, key ∈ keys ↔ (bindings.lookup key).isSome) : trie.size = keys.card := by
  obtain ⟨_, forest, stands, filled⟩ := mirrors
  have binds (key : Key) : key ∈ keys ↔ forest.shape.Binds key := by
    rw [stored, Shape.Binds, filled.lookup]
  rw [stands.size, Shape.card_keys stands.compact binds]

/-- The nodes of a trie are the places of its keys, and its measures are theirs. -/
theorem measures_of_keys (config : Config) (operations : List (Operation V)) :
    let trie := ((Trie.empty config).run operations).2
    let keys := (Dictionary.run config operations).2.keys.toFinset
    trie.stats = Stats.ofKeys keys ∧ trie.Charted (places keys) ∧
      trie.nodeCount = (places keys).card ∧ trie.destroy.1 = (places keys).card ∧
      trie.size = keys.card ∧ (places keys).card ≤ 2 * keys.card - 1 := by
  intro trie keys
  obtain ⟨_, forest, stands, filled⟩ := (run_mirrors config operations).2
  have stored (key : Key) : key ∈ keys ↔ forest.shape.Binds key := by
    rw [List.mem_toFinset, Bindings.mem_keys_iff, Shape.Binds, filled.lookup]
  have nodes : trie.nodeCount = (places keys).card := by
    rw [stands.nodeCount, Shape.card_places stands.compact stored]
  refine ⟨?_, ?_, nodes, nodes, ?_, Shape.card_places_le stands.compact stored⟩
  · rw [stands.stats, Shape.stats_eq_ofKeys stands.compact stored]
  · rw [Shape.places_eq stands.compact stored]
    exact stands.charted
  · rw [stands.size, Shape.card_keys stands.compact stored]

-- Two keys part inside a word, and two before characters that share their first byte.
example : Stats.ofKeys {"tardis".toList, "tarbaby".toList, "dé".toList, "dè".toList} =
    ⟨4, 6, 2, 2, 15⟩ := by decide +kernel

end RadixForest.Trie
