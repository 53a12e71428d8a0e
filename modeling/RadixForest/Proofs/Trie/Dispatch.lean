import RadixForest.Proofs.Trie.Insertion
import RadixForest.Proofs.Trie.Runs
import RadixForest.Trie.Walk

/-!
The dispatch cannot be told from outside. Two tries whose configurations differ in it stand for the
same forest all along, so they give the same replies, tell the same events and keep the same nodes.
-/

namespace RadixForest.Trie

variable {V : Type}

inductive Request (V : Type)
  | operation (operation : Operation V)
  | stats
  | render
  | nodeCount
  | destroy

inductive Reply (V : Type)
  | answer (answer : Answer V)
  | stats (stats : Stats)
  | text (text : Except Panic String)
  | nodeCount (count : Nat)
  | destroyed (released : Nat)

/-- All that can be seen of a step: the reply, the events, and the nodes after it. -/
structure View (V : Type) where
  reply : Reply V
  events : List Event
  root : Option NodeId
  nodes : Arena V

def serve (shown : V → String) (trie : Trie V) : Request V → View V × Trie V
  | .operation operation =>
    let effect := trie.perform operation
    (⟨.answer effect.answer, effect.events, effect.trie.root, effect.trie.nodes⟩, effect.trie)
  | .stats => (⟨.stats trie.stats, [], trie.root, trie.nodes⟩, trie)
  | .render => (⟨.text (trie.render shown), [], trie.root, trie.nodes⟩, trie)
  | .nodeCount => (⟨.nodeCount trie.nodeCount, [], trie.root, trie.nodes⟩, trie)
  | .destroy =>
    let (released, events) := trie.destroy
    let next : Trie V := empty trie.config
    (⟨.destroyed released, events, next.root, next.nodes⟩, next)

theorem Arena.Holds.agree {one other : Arena V} {forest : Forest V} (holds : one.Holds forest)
    (otherHolds : other.Holds forest) {id : NodeId} (member : id ∈ forest.ids) :
    one[id]? = other[id]? := by
  induction forest with
  | nil => simp [Forest.ids] at member
  | cons head fragment value children siblings below after =>
      simp only [Forest.ids, List.mem_cons, List.mem_append] at member
      rcases member with rfl | inside | behind
      · exact holds.1.trans otherHolds.1.symm
      · exact below holds.2.1 otherHolds.2.1 inside
      · exact after holds.2.2 otherHolds.2.2 behind

structure Twins (one other : Trie V) (forest : Forest V) : Prop where
  normalize : one.config.normalize = other.config.normalize
  left : one.StandsFor forest
  right : other.StandsFor forest

namespace Twins

variable {one other : Trie V} {forest : Forest V} {key : Key}

theorem empty {one other : Config} (normalize : one.normalize = other.normalize) :
    Twins (Trie.empty one : Trie V) (Trie.empty other) .nil :=
  ⟨normalize, .empty one, .empty other⟩

theorem root (twins : Twins one other forest) : one.root = other.root := by
  rw [twins.left.root, twins.right.root]

theorem size (twins : Twins one other forest) : one.size = other.size := by
  rw [twins.left.size, twins.right.size]

theorem nodes (twins : Twins one other forest) : one.nodes = other.nodes := by
  have size : one.nodes.size = other.nodes.size := by
    have lengths := twins.left.ids.symm.length_eq.trans twins.right.ids.length_eq
    simpa using lengths
  apply Array.ext_getElem?
  intro id
  by_cases member : id ∈ forest.ids
  · exact twins.left.holds.agree twins.right.holds member
  · have beyond : one.nodes.size ≤ id := by
      rwa [twins.left.mem_ids_iff, Nat.not_lt] at member
    rw [Array.getElem?_eq_none beyond, Array.getElem?_eq_none (size ▸ beyond)]

theorem walk {α : Type} (twins : Twins one other forest) (arrange : List NodeId → List NodeId)
    (depth : Nat) (visit : α → Sight V → α) (initial : α) :
    one.walk arrange depth visit initial = other.walk arrange depth visit initial := by
  simp only [Trie.walk, level, levelHead, twins.nodes, twins.root]

theorem find (twins : Twins one other forest) (key : Key) : one.find key = other.find key := by
  rw [twins.left.find, twins.right.find, twins.normalize]

theorem insertNormal_report (twins : Twins one other forest) (filled : key ≠ []) (value : V)
    (replace : Bool) :
    (one.insertNormal key value replace).outcome = (other.insertNormal key value replace).outcome ∧
      (one.insertNormal key value replace).events =
        (other.insertNormal key value replace).events := by
  simp only [insertNormal, twins.root, twins.nodes, twins.left.descend filled,
    twins.right.descend filled]
  cases other.root with
  | none => exact ⟨rfl, rfl⟩
  | some head =>
      cases forest.stop none key with
      | append place left => exact ⟨rfl, rfl⟩
      | split id node parts => exact ⟨rfl, rfl⟩
      | store id node =>
          simp only [store]
          cases node.value with
          | none => exact ⟨rfl, rfl⟩
          | some old => cases replace <;> exact ⟨rfl, rfl⟩

theorem insertNormal (twins : Twins one other forest) (filled : key ≠ []) (value : V)
    (replace : Bool) :
    ∃ grown, Twins (one.insertNormal key value replace).trie
      (other.insertNormal key value replace).trie grown := by
  have normalize : (one.insertNormal key value replace).trie.config.normalize =
      (other.insertNormal key value replace).trie.config.normalize := by
    rw [insertNormal_config, insertNormal_config, twins.normalize]
  cases bound : forest.shape.lookup key with
  | none =>
      have left := (twins.left.insertNormal_new filled bound value replace).2
      have right := (twins.right.insertNormal_new filled bound value replace).2
      rw [← twins.nodes] at right
      exact ⟨_, normalize, left, right⟩
  | some old =>
      obtain ⟨_, left, leftEq⟩ := twins.left.insertNormal_bound filled bound value replace
      obtain ⟨_, right, rightEq⟩ := twins.right.insertNormal_bound filled bound value replace
      rw [← twins.nodes] at right
      rw [leftEq, rightEq] at normalize ⊢
      cases replace with
      | true => exact ⟨_, normalize, left, right⟩
      | false => exact ⟨forest, twins⟩

theorem insert (twins : Twins one other forest) (key : Key) (value : V) (replace : Bool) :
    (one.insert key value replace).outcome = (other.insert key value replace).outcome ∧
      (one.insert key value replace).events = (other.insert key value replace).events ∧
      ∃ grown, Twins (one.insert key value replace).trie (other.insert key value replace).trie
        grown := by
  simp only [Trie.insert, twins.normalize]
  cases admitted : other.config.normalize key with
  | error refusal => exact ⟨rfl, rfl, forest, twins⟩
  | ok normal =>
      have filled := Config.ne_nil_of_normalize admitted
      obtain ⟨outcome, events⟩ := twins.insertNormal_report filled value replace
      exact ⟨outcome, events, twins.insertNormal filled value replace⟩

theorem perform (twins : Twins one other forest) (operation : Operation V) :
    (one.perform operation).answer = (other.perform operation).answer ∧
      (one.perform operation).events = (other.perform operation).events ∧
      ∃ grown, Twins (one.perform operation).trie (other.perform operation).trie grown := by
  cases operation with
  | insert key value replace =>
      obtain ⟨outcome, events, grown⟩ := twins.insert key value replace
      exact ⟨congrArg Answer.inserted outcome, events, grown⟩
  | find key => exact ⟨congrArg Answer.found (twins.find key), rfl, forest, twins⟩
  | contains key =>
      refine ⟨?_, rfl, forest, twins⟩
      simp only [Trie.perform, contains, twins.find]
  | size => exact ⟨congrArg Answer.size twins.size, rfl, forest, twins⟩
  | isEmpty =>
      refine ⟨?_, rfl, forest, twins⟩
      simp only [Trie.perform, isEmpty, twins.size]
  | clear => exact ⟨rfl, rfl, .nil, .empty twins.normalize⟩

theorem serve (twins : Twins one other forest) (shown : V → String) (request : Request V) :
    (one.serve shown request).1 = (other.serve shown request).1 ∧
      ∃ grown, Twins (one.serve shown request).2 (other.serve shown request).2 grown := by
  cases request with
  | operation operation =>
      obtain ⟨answer, events, grown, after⟩ := twins.perform operation
      refine ⟨?_, grown, after⟩
      simp only [Trie.serve, answer, events, after.root, after.nodes]
  | stats =>
      refine ⟨?_, forest, twins⟩
      simp only [Trie.serve, stats, twins.walk, twins.root, twins.nodes]
  | render =>
      refine ⟨?_, forest, twins⟩
      simp only [Trie.serve, render, twins.walk, twins.root, twins.nodes]
  | nodeCount =>
      refine ⟨?_, forest, twins⟩
      simp only [Trie.serve, nodeCount, twins.root, twins.nodes]
  | destroy =>
      refine ⟨?_, .nil, .empty twins.normalize⟩
      simp only [Trie.serve, destroy, nodeCount, twins.size, twins.nodes]
      rfl

end Twins

/-- Nothing that is seen of a run depends on the dispatch. -/
theorem dispatch_unseen (config : Config) (one other : Dispatch) (shown : V → String)
    (requests : List (Request V)) :
    (transcript (serve shown) (empty { config with dispatch := one }) requests).1 =
      (transcript (serve shown) (empty { config with dispatch := other }) requests).1 := by
  have start : ∃ forest, Twins (empty { config with dispatch := one } : Trie V)
      (empty { config with dispatch := other }) forest := ⟨.nil, .empty rfl⟩
  refine (transcript_related (fun left right => ∃ forest, Twins left right forest) ?_ requests
    start).1
  rintro left right request ⟨forest, twins⟩
  exact twins.serve shown request

end RadixForest.Trie
