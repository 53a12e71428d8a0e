import RadixForest.Proofs.Trie.Walks

/-!
Insertions. A trie stands for a compact forest; an insertion that is not refused grows the forest at
the key, and a look-up before it tells what its outcome is.
-/

namespace RadixForest.Trie

variable {V : Type}

/-- A compact forest is laid out in a trie that counts its values. -/
structure StandsFor (trie : Trie V) (forest : Forest V) : Prop extends Laid trie forest where
  compact : forest.shape.Compact
  size : trie.size = forest.shape.valued

/-- Grows a forest where the path of a key leaves it. New nodes are numbered from `fresh` on. -/
def Forest.plant (fresh : NodeId) (key : Key) (value : V) (forest : Forest V) : Forest V :=
  match forest.stop none key with
  | .append parent rest => forest.attach parent (leaf fresh rest value)
  | .split id _ parts =>
    let cut := forest.alter id (Branch.cut fresh parts.shared.length)
    match parts.right with
    | [] => cut.alter id (Branch.withValue value)
    | first :: tail => cut.attach (some id) (leaf (fresh + 1) (first :: tail) value)
  | .store id _ => forest.alter id (Branch.withValue value)

namespace Forest

variable {forest : Forest V} {key : Key}

theorem spot_of_append (distinct : forest.ids.Nodup) (compact : forest.shape.Compact)
    (filled : key ≠ []) {place : Option NodeId} {left : Key}
    (stops : forest.stop none key = .append place left) :
    ∃ first tail, left = first :: tail ∧ (∀ id ∈ place, id ∈ forest.ids) ∧
      forest.child place first = none ∧ forest.shape.lookup key = none ∧
      ∀ fresh value,
        (forest.attach place (leaf fresh left value)).shape = forest.shape.plant key value := by
  obtain ⟨leftFilled, spot⟩ := stop_append compact filled stops
  obtain ⟨first, tail, rfl⟩ := List.exists_cons_of_ne_nil leftFilled
  refine ⟨first, tail, rfl, ?_⟩
  rcases spot with ⟨rfl, rfl, free⟩ | ⟨id, branch, rfl, leads, free⟩
  · exact ⟨by simp, childWith_eq_none free, Shape.lookup_of_start compact free,
      shape_append_leaf free⟩
  · have found := leads.branch? distinct
    obtain ⟨siblings, whole, lookup⟩ := leads.lookup compact
    refine ⟨?_, ?_, ?_, ?_⟩
    · rintro other ⟨⟩
      exact mem_ids_of_branch found
    · simpa [child, found] using childWith_eq_none free
    · rw [lookup, Shape.lookup_here]
      exact Shape.lookup_of_start whole.2.2.2.1 free
    · intro fresh value
      apply leads.shape_alter distinct compact
      intro siblings
      simp only [Branch.adopt, shape_append_leaf free, Shape.plant_beyond whole.1]

theorem lookup_of_split (compact : forest.shape.Compact) (filled : key ≠ []) {id : NodeId}
    {node : Node V} {parts : Text.Divergence}
    (stops : forest.stop none key = .split id node parts) :
    forest.shape.lookup key = none := by
  obtain ⟨branch, own, ownTail, leads, fragment, sharedFilled, left, differs⟩ :=
    leads_of_split compact filled stops
  obtain ⟨siblings, whole, found⟩ := leads.lookup compact
  rw [fragment] at whole found
  rw [found, Shape.lookup_within whole sharedFilled, left,
    Shape.lookup_past (List.cons_ne_nil own ownTail) (by simpa using differs)]
  rfl

theorem lookup_of_store (compact : forest.shape.Compact) (filled : key ≠ []) {id : NodeId}
    {node : Node V} (stops : forest.stop none key = .store id node) :
    forest.shape.lookup key = node.value := by
  obtain ⟨branch, leads, valueEq⟩ := leads_of_store compact filled stops
  obtain ⟨siblings, _, found⟩ := leads.lookup compact
  have here := Shape.lookup_here branch.fragment [] branch.value branch.children.shape siblings
  rw [List.append_nil] at here
  rw [found, here, valueEq]
  rfl

theorem shape_plant (distinct : forest.ids.Nodup) (compact : forest.shape.Compact)
    (filled : key ≠ []) (fresh : NodeId) (value : V) :
    (forest.plant fresh key value).shape = forest.shape.plant key value := by
  cases stops : forest.stop none key with
  | append place left =>
      obtain ⟨_, _, _, _, _, _, grown⟩ := spot_of_append distinct compact filled stops
      simp only [plant, stops]
      exact grown fresh value
  | split id node parts =>
      obtain ⟨branch, own, ownTail, leads, fragment, sharedFilled, left, differs⟩ :=
        leads_of_split compact filled stops
      simp only [plant, stops]
      cases right : parts.right with
      | nil =>
          rw [right, List.append_nil] at leads
          rw [alter_alter]
          apply leads.shape_alter distinct compact
          intro siblings
          simp only [Function.comp_apply, Branch.cut, Branch.withValue, fragment, left,
            List.take_left, List.drop_left, shape, Shape.plant_within sharedFilled]
      | cons other otherTail =>
          rw [right] at leads differs
          have different : own ≠ other := by simpa using differs
          simp only [attach, alter_alter]
          apply leads.shape_alter distinct compact
          intro siblings
          simp only [Function.comp_apply, Branch.cut, Branch.adopt, fragment, left, leaf, append,
            List.take_left, List.drop_left, shape, Shape.plant_apart sharedFilled different]
  | store id node =>
      obtain ⟨branch, leads, _⟩ := leads_of_store compact filled stops
      simp only [plant, stops]
      apply leads.shape_alter distinct compact
      intro siblings
      simp only [Branch.withValue, Shape.plant_same]

end Forest

theorem Arena.Holds.record_of_split {arena : Arena V} {forest : Forest V}
    (holds : arena.Holds forest) {parent : Option NodeId} {rest : Key} {id : NodeId}
    {node : Node V} {parts : Text.Divergence}
    (stops : forest.stop parent rest = .split id node parts) :
    arena[id]? = some node := by
  induction forest generalizing parent rest with
  | nil => simp [Forest.stop] at stops
  | cons head fragment value children siblings below after =>
      obtain ⟨here, inner, later⟩ := holds
      simp only [Forest.stop] at stops
      split at stops
      · split at stops
        · simp at stops
        · exact below inner stops
        · simp only [Stop.split.injEq] at stops
          obtain ⟨rfl, rfl, _⟩ := stops
          exact here
      · exact after later stops

namespace Laid

variable {trie : Trie V} {forest : Forest V} {key : Key}

theorem sized (laid : trie.Laid forest) (size : Nat) : ({ trie with size } : Trie V).Laid forest :=
  ⟨laid.root, laid.holds, laid.ids, laid.index⟩

theorem attach_plant (laid : trie.Laid forest) (compact : forest.shape.Compact)
    (filled : key ≠ []) {place : Option NodeId} {left : Key}
    (stops : forest.stop none key = .append place left) (value : V) :
    (trie.attach place left value).Laid (forest.plant trie.nodes.size key value) := by
  obtain ⟨first, tail, rfl, present, free, _⟩ :=
    Forest.spot_of_append laid.distinct compact filled stops
  simp only [Forest.plant, stops]
  exact laid.attach present free tail value

theorem cut_stopped (laid : trie.Laid forest) (compact : forest.shape.Compact)
    (filled : key ≠ []) {id : NodeId} {node : Node V} {parts : Text.Divergence}
    (stops : forest.stop none key = .split id node parts) :
    ∃ branch, forest.branch? id = some branch ∧ trie.nodes[id]? = some node ∧
      (trie.cut id node parts).Laid
        (forest.alter id (Branch.cut trie.nodes.size parts.shared.length)) := by
  obtain ⟨branch, own, ownTail, leads, fragment, sharedFilled, left, _⟩ :=
    Forest.leads_of_split compact filled stops
  have found := leads.branch? laid.distinct
  have record := laid.holds.record_of_split stops
  obtain ⟨siblings, whole, _⟩ := leads.lookup compact
  exact ⟨branch, found, record,
    laid.cut found record fragment sharedFilled left whole.2.2.2.1⟩

theorem split_plant (laid : trie.Laid forest) (compact : forest.shape.Compact)
    (filled : key ≠ []) {id : NodeId} {node : Node V} {parts : Text.Divergence}
    (stops : forest.stop none key = .split id node parts) (value : V) :
    (trie.split id node parts value).Laid (forest.plant trie.nodes.size key value) := by
  obtain ⟨branch, own, ownTail, leads, fragment, _, left, differs⟩ :=
    Forest.leads_of_split compact filled stops
  have found := leads.branch? laid.distinct
  obtain ⟨_, _, _, cut⟩ := laid.cut_stopped compact filled stops
  have foundCut := Forest.branch?_alter_self
    (Branch.cut trie.nodes.size parts.shared.length) laid.distinct found
  simp only [Forest.plant, stops, Trie.split]
  cases right : parts.right with
  | nil => exact cut.setValue foundCut value
  | cons other otherTail =>
      rw [right] at differs
      have different : own ≠ other := by simpa using differs
      have size : (trie.cut id node parts).nodes.size = trie.nodes.size + 1 := by
        simp [cut_nodes]
      have present : ∀ target ∈ some id, target ∈
          (forest.alter id (Branch.cut trie.nodes.size parts.shared.length)).ids := by
        rintro target ⟨⟩
        exact Forest.mem_ids_of_branch foundCut
      have free : (forest.alter id (Branch.cut trie.nodes.size parts.shared.length)).child
          (some id) other = none := by
        rw [Forest.child_alter_self _ laid.distinct found]
        simp [Branch.cut, Forest.childWith, fragment, left, different]
      rw [← size]
      exact cut.attach present free otherTail value

theorem setValue_plant (laid : trie.Laid forest) (compact : forest.shape.Compact)
    (filled : key ≠ []) {id : NodeId} {node : Node V}
    (stops : forest.stop none key = .store id node) (value : V) :
    (trie.setValue id value).Laid (forest.plant trie.nodes.size key value) := by
  obtain ⟨branch, leads, _⟩ := Forest.leads_of_store compact filled stops
  simp only [Forest.plant, stops]
  exact laid.setValue (leads.branch? laid.distinct) value

end Laid

theorem insertNormal_config (trie : Trie V) (key : Key) (value : V) (replace : Bool) :
    (trie.insertNormal key value replace).trie.config = trie.config := by
  unfold insertNormal
  split
  · exact attach_config trie none key value
  · split
    · exact attach_config trie _ _ value
    · unfold split
      split
      · exact cut_config trie _ _ _
      · exact (attach_config _ _ _ value).trans (cut_config trie _ _ _)
    · unfold store
      split
      · rfl
      · split <;> rfl

theorem StandsFor.empty (config : Config) : (Trie.empty config : Trie V).StandsFor .nil where
  root := rfl
  holds := trivial
  ids := List.Perm.refl _
  index := by
    unfold Indexes
    cases dispatch : config.dispatch with
    | linear => simp [Trie.empty, dispatch]
    | indexed =>
        simp only [Trie.empty, dispatch]
        intro parent first
        cases parent <;> simp [Forest.child, Forest.childWith, Forest.branch?]
  compact := trivial
  size := rfl

namespace StandsFor

variable {trie : Trie V} {forest : Forest V} {key : Key}

theorem part (stands : trie.StandsFor forest) : Part trie forest forest :=
  ⟨stands.holds, stands.distinct, stands.compact, fun _ _ found => found⟩

theorem descend (stands : trie.StandsFor forest) (filled : key ≠ []) :
    trie.descend none key = forest.stop none key := by
  apply stands.toLaid.descend_eq_stop stands.part filled
  rintro first tail rfl
  exact stands.childSharing_none first tail

theorem locate (stands : trie.StandsFor forest) (filled : key ≠ []) :
    (trie.locate none key).bind (·.value) = forest.shape.lookup key := by
  apply stands.toLaid.locate_value stands.part filled
  rintro first tail rfl
  exact childMatching_eq stands.level_none stands.holds stands.compact tail
    (stands.childSharing_none first tail)

theorem find (stands : trie.StandsFor forest) (key : Key) :
    trie.find key = (trie.config.normalize key).map forest.shape.lookup := by
  unfold Trie.find
  cases admitted : trie.config.normalize key with
  | error refusal => rfl
  | ok normal => exact congrArg Except.ok (stands.locate (Config.ne_nil_of_normalize admitted))

theorem planted (stands : trie.StandsFor forest) (filled : key ≠ []) {value : V} {after : Trie V}
    (laid : after.Laid (forest.plant trie.nodes.size key value))
    (size : after.size = if (forest.shape.lookup key).isSome then trie.size else trie.size + 1) :
    after.StandsFor (forest.plant trie.nodes.size key value) where
  toLaid := laid
  compact := by
    rw [Forest.shape_plant stands.distinct stands.compact filled]
    exact Shape.compact_plant stands.compact filled value
  size := by
    rw [Forest.shape_plant stands.distinct stands.compact filled,
      Shape.valued_plant stands.compact filled, size, stands.size]

theorem insertNormal_new (stands : trie.StandsFor forest) (filled : key ≠ [])
    (absent : forest.shape.lookup key = none) (value : V) (replace : Bool) :
    (trie.insertNormal key value replace).outcome = .ok true ∧
      (trie.insertNormal key value replace).trie.StandsFor
        (forest.plant trie.nodes.size key value) := by
  have descends := stands.descend filled
  have counted {after : Trie V} (laid : after.Laid (forest.plant trie.nodes.size key value))
      (size : after.size = trie.size + 1) :
      after.StandsFor (forest.plant trie.nodes.size key value) :=
    stands.planted filled laid (by simp [absent, size])
  cases root : trie.root with
  | none =>
      -- The first key of all is hung up like any other that shares nothing.
      have noTrees : forest = .nil := by
        cases forest with
        | nil => rfl
        | cons head fragment value children siblings => simp [stands.root] at root
      have stops : forest.stop none key = .append none key := by
        rw [noTrees]
        rfl
      have grown := stands.attach_plant stands.compact filled stops value
      have noKeys : trie.size = 0 := by
        rw [stands.size, noTrees]
        rfl
      simp only [insertNormal, root]
      exact ⟨trivial, counted (grown.sized 1) (by rw [noKeys])⟩
  | some head =>
      simp only [insertNormal, root, descends]
      cases stops : forest.stop none key with
      | append place left =>
          have grown := stands.attach_plant stands.compact filled stops value
          exact ⟨rfl, counted (grown.sized _) rfl⟩
      | split id node parts =>
          have grown := stands.split_plant stands.compact filled stops value
          exact ⟨rfl, counted (grown.sized _) rfl⟩
      | store id node =>
          have free : node.value = none := by
            rw [← Forest.lookup_of_store stands.compact filled stops, absent]
          have grown := stands.setValue_plant stands.compact filled stops value
          simp only [store, free]
          exact ⟨trivial, counted (grown.sized _) rfl⟩

theorem insertNormal_bound (stands : trie.StandsFor forest) (filled : key ≠ []) {old : V}
    (bound : forest.shape.lookup key = some old) (value : V) (replace : Bool) :
    ∃ grown : Trie V, grown.StandsFor (forest.plant trie.nodes.size key value) ∧
      trie.insertNormal key value replace =
        if replace then ⟨.ok false, grown, []⟩
        else ⟨.error (.duplicateKey key), trie, [.rejectedDuplicate key]⟩ := by
  have descends := stands.descend filled
  cases root : trie.root with
  | none =>
      cases forest with
      | nil => simp [Forest.shape, Shape.lookup] at bound
      | cons head fragment value children siblings => simp [stands.root] at root
  | some head =>
      simp only [insertNormal, root, descends]
      cases stops : forest.stop none key with
      | append place left =>
          obtain ⟨_, _, _, _, _, absent, _⟩ :=
            Forest.spot_of_append stands.distinct stands.compact filled stops
          simp [absent] at bound
      | split id node parts =>
          simp [Forest.lookup_of_split stands.compact filled stops] at bound
      | store id node =>
          have valueEq : node.value = some old := by
            rw [← Forest.lookup_of_store stands.compact filled stops, bound]
          have grown := stands.setValue_plant stands.compact filled stops value
          refine ⟨_, stands.planted filled grown (by rw [bound]; rfl), ?_⟩
          simp only [store, valueEq]

end StandsFor

end RadixForest.Trie
