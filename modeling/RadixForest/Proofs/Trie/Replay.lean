import RadixForest.Proofs.Text.Cuts
import RadixForest.Proofs.Trie.Refusals

/-!
Tries rebuilt from what they tell. Their events, read one after the other, give the same nodes with
the same numbers in the same places; only the values are not told.
-/

namespace RadixForest.Trie

variable {V : Type}

def Node.bare (node : Node V) : Node Empty :=
  ⟨node.fragment, none, node.firstChild, node.nextSibling⟩

structure Outlined (trie : Trie V) (forest : Forest Empty) : Prop where
  root : trie.root = forest.first
  nodes : Arena.Holds (trie.nodes.map Node.bare) forest
  ids : forest.ids.Perm (List.range trie.nodes.size)

namespace Forest

def bare : Forest V → Forest Empty
  | nil => .nil
  | cons id fragment _ children siblings => .cons id fragment none children.bare siblings.bare

def blank (id : NodeId) (fragment : Key) : Forest Empty := .cons id fragment none .nil .nil

def above? (target : NodeId) : Forest V → Option Key
  | nil => none
  | cons id fragment _ children siblings =>
    if id = target then some []
    else ((children.above? target).map (fragment ++ ·)).or (siblings.above? target)

/-- Makes the change that an event tells of. A split does not tell of the second child; it is there
if the key goes on behind the place of the cut. An event that numbers its nodes otherwise than from
the first free number on is refused, and so is a cut inside a character. -/
def replay (forest : Forest Empty) : Event → Option (Forest Empty)
  | .createdRoot key root =>
    if forest.ids = [] ∧ root = 0 then some (blank root key) else none
  | .appendedNode _ fragment parent id =>
    if id = forest.ids.length then some (forest.attach parent (blank id fragment)) else none
  | .splitNode key node cut => do
    let above ← forest.above? node
    let branch ← forest.branch? node
    let kept ← (Text.splitAtByte? cut branch.fragment).map Prod.fst
    let rest ← (Text.splitAtByte? (Text.utf8Length above + cut) key).map Prod.snd
    let lower := forest.ids.length
    let split := forest.alter node (Branch.cut lower kept.length)
    return if rest.isEmpty then split else split.attach (some node) (blank (lower + 1) rest)
  | _ => none

end Forest

/-- The events since the trie was last cleared. -/
def logSinceClear (trie : Trie V) (log : List Event) : List (Operation V) → List Event
  | [] => log
  | .clear :: operations => logSinceClear trie.clear [] operations
  | operation :: operations =>
    logSinceClear (trie.perform operation).trie (log ++ (trie.perform operation).events) operations

def Event.growth : Event → List Nat
  | .createdRoot _ _ => [1]
  | .appendedNode _ _ _ _ => [1]
  | .splitNode _ _ _ => [1, 2]
  | _ => []

inductive Announced (before : Trie V) : Insertion V → Prop
  | grown {after : Trie V} {event : Event} {more : Nat} : event.record.level = .trace →
      more ∈ event.growth → after.nodeCount = before.nodeCount + more →
      Announced before ⟨.ok true, after, [event]⟩
  | stored {after : Trie V} {new : Bool} : after.nodeCount = before.nodeCount →
      Announced before ⟨.ok new, after, []⟩
  | duplicate {key : Key} {event : Event} : event.record.level = .debug →
      Announced before ⟨.error (.duplicateKey key), before, [event]⟩
  | refused {cause : KeyError} : (∀ key, cause ≠ .duplicateKey key) →
      Announced before ⟨.error cause, before, []⟩

theorem split_size (trie : Trie V) (id : NodeId) (node : Node V) (parts : Text.Divergence)
    (value : V) :
    (trie.split id node parts value).nodes.size =
      trie.nodes.size + if parts.right = [] then 1 else 2 := by
  have lower : (trie.cut id node parts).nodes.size = trie.nodes.size + 1 := by simp [cut_nodes]
  unfold split
  split
  · rename_i none
    rw [none, if_pos rfl, ← lower]
    exact Array.size_modify
  · rename_i c tail more
    rw [more, if_neg (List.cons_ne_nil c tail), attach_size, lower]

theorem setValue_size (trie : Trie V) (id : NodeId) (value : V) :
    (trie.setValue id value).nodes.size = trie.nodes.size := Array.size_modify

theorem insertNormal_announced (trie : Trie V) (key : Key) (value : V) (replace : Bool) :
    trie.Announced (trie.insertNormal key value replace) := by
  cases root : trie.root with
  | none =>
      simp only [insertNormal, root]
      exact .grown rfl List.mem_cons_self (attach_size trie none key value)
  | some head =>
      cases stops : trie.descend none key with
      | append place rest =>
          simp only [insertNormal, root, stops]
          exact .grown rfl List.mem_cons_self (attach_size trie place rest value)
      | split id node parts =>
          simp only [insertNormal, root, stops]
          refine .grown rfl ?_ (split_size trie id node parts value)
          simp only [Event.growth]
          split <;> simp
      | store id node =>
          simp only [insertNormal, root, stops, store]
          cases node.value with
          | none => exact .stored (setValue_size trie id value)
          | some old =>
              cases replace with
              | true => exact .stored (setValue_size trie id value)
              | false => exact .duplicate rfl

theorem insert_announced (trie : Trie V) (key : Key) (value : V) (replace : Bool) :
    trie.Announced (trie.insert key value replace) := by
  unfold insert
  rcases trie.config.normalize_cases key with ⟨_, named⟩ | ⟨_, _, _, _, named⟩ | ⟨_, named⟩
  · rw [named]
    exact .refused (by simp)
  · rw [named]
    exact .refused (by simp)
  · rw [named]
    exact insertNormal_announced trie _ value replace

def Branch.bare (branch : Branch V) : Branch Empty := ⟨branch.fragment, none, branch.children.bare⟩

namespace Forest

@[simp] theorem first_bare (forest : Forest V) : forest.bare.first = forest.first := by
  cases forest <;> rfl

@[simp] theorem ids_bare (forest : Forest V) : forest.bare.ids = forest.ids := by
  induction forest with
  | nil => rfl
  | cons id fragment value children siblings below after => simp [bare, ids, below, after]

theorem bare_append (forest more : Forest V) :
    (forest.append more).bare = forest.bare.append more.bare := by
  induction forest with
  | nil => rfl
  | cons id fragment value children siblings _ after => simp [append, bare, after]

theorem branch?_bare (forest : Forest V) (id : NodeId) :
    forest.bare.branch? id = (forest.branch? id).map Branch.bare := by
  induction forest with
  | nil => rfl
  | cons head fragment value children siblings below after =>
      by_cases same : head = id
      · simp [bare, branch?, same, Branch.bare]
      · simp [bare, branch?, same, below, after, Option.map_or]

theorem above?_bare (forest : Forest V) (id : NodeId) :
    forest.bare.above? id = forest.above? id := by
  induction forest with
  | nil => rfl
  | cons head fragment value children siblings below after =>
      simp only [bare, above?, below, after]

theorem bare_alter {change : Branch V → Branch V} {bareChange : Branch Empty → Branch Empty}
    (same : ∀ branch, (change branch).bare = bareChange branch.bare) (forest : Forest V)
    (id : NodeId) : (forest.alter id change).bare = forest.bare.alter id bareChange := by
  induction forest with
  | nil => rfl
  | cons head fragment value children siblings below after =>
      by_cases here : head = id
      · have changed := same ⟨fragment, value, children⟩
        subst here
        simp only [bare, alter_first]
        simp only [Branch.bare] at changed
        rw [← changed]
      · simp only [bare, alter, here, if_false, below, after]

theorem bare_withValue (forest : Forest V) (id : NodeId) (value : V) :
    (forest.alter id (Branch.withValue value)).bare = forest.bare := by
  induction forest with
  | nil => rfl
  | cons head fragment old children siblings below after =>
      by_cases here : head = id
      · subst here
        rw [alter_first]
        rfl
      · simp only [bare, alter, here, if_false, below, after]

theorem bare_attach (forest : Forest V) (parent : Option NodeId) (id : NodeId) (fragment : Key)
    (value : V) :
    (forest.attach parent (leaf id fragment value)).bare =
      forest.bare.attach parent (blank id fragment) := by
  cases parent with
  | none => exact bare_append forest _
  | some target =>
      refine bare_alter (fun branch => ?_) forest target
      simp only [Branch.bare, Branch.adopt, bare_append]
      rfl

theorem bare_cut (forest : Forest V) (id lower : NodeId) (kept : Nat) :
    (forest.alter id (Branch.cut lower kept)).bare =
      forest.bare.alter id (Branch.cut lower kept) := by
  refine bare_alter ?_ forest id
  intro branch
  rfl

theorem above?_eq_none {forest : Forest V} {id : NodeId} (absent : id ∉ forest.ids) :
    forest.above? id = none := by
  induction forest with
  | nil => rfl
  | cons head fragment value children siblings below after =>
      simp only [ids, List.mem_cons, List.mem_append, not_or] at absent
      simp [above?, Ne.symm absent.1, below absent.2.1, after absent.2.2]

theorem Leads.above? {forest : Forest V} {rest left : Key} {id : NodeId} {branch : Branch V}
    (leads : Leads forest rest id branch left) (distinct : forest.ids.Nodup) :
    ∃ above, forest.above? id = some above ∧ rest = above ++ left := by
  induction leads with
  | here _ => exact ⟨[], by simp [Forest.above?], rfl⟩
  | @under _ fragment _ _ _ _ _ _ _ _ inner ih =>
      obtain ⟨⟨notBelow, _⟩, distinctBelow, _, _⟩ := ids_nodup_cons.mp distinct
      have notHead := (ne_of_mem_of_not_mem inner.mem_ids notBelow).symm
      obtain ⟨above, found, whole⟩ := ih distinctBelow
      refine ⟨fragment ++ above, ?_, ?_⟩
      · simp [Forest.above?, notHead, found]
      · rw [whole, List.append_assoc]
  | past _ inner ih =>
      obtain ⟨⟨_, notAfter⟩, _, distinctAfter, apart⟩ := ids_nodup_cons.mp distinct
      have notHead := (ne_of_mem_of_not_mem inner.mem_ids notAfter).symm
      have notBelow := fun inside => apart _ inside inner.mem_ids
      obtain ⟨above, found, whole⟩ := ih distinctAfter
      exact ⟨above, by simp [Forest.above?, notHead, above?_eq_none notBelow, found], whole⟩

end Forest

theorem Arena.Holds.bare {arena : Arena V} {forest : Forest V} (holds : arena.Holds forest) :
    Arena.Holds (arena.map Node.bare) forest.bare := by
  induction forest with
  | nil => trivial
  | cons id fragment value children siblings below after =>
      obtain ⟨here, inner, later⟩ := holds
      refine ⟨?_, below inner, after later⟩
      rw [Array.getElem?_map, here, Forest.first_bare, Forest.first_bare]
      rfl

theorem StandsFor.outlined {trie : Trie V} {forest : Forest V} (stands : trie.StandsFor forest) :
    trie.Outlined forest.bare where
  root := by rw [Forest.first_bare, stands.root]
  nodes := stands.holds.bare
  ids := by
    rw [Forest.ids_bare]
    exact stands.ids

namespace StandsFor

variable {trie : Trie V} {forest : Forest V} {key : Key}

theorem length_ids_bare (stands : trie.StandsFor forest) :
    forest.bare.ids.length = trie.nodes.size := by
  rw [Forest.ids_bare, stands.length_ids]

theorem replay_append (stands : trie.StandsFor forest) {place : Option NodeId} {rest : Key}
    (stops : forest.stop none key = .append place rest) (value : V) :
    forest.bare.replay (.appendedNode key rest place trie.nodes.size) =
      some (forest.plant trie.nodes.size key value).bare := by
  rw [Forest.replay, if_pos stands.length_ids_bare.symm,
    ← Forest.bare_attach forest place _ rest value, Forest.plant, stops]

theorem replay_root (stands : trie.StandsFor forest) (empty : trie.root = none) (key : Key)
    (value : V) :
    forest.bare.replay (.createdRoot key trie.nodes.size) =
      some (forest.plant trie.nodes.size key value).bare := by
  cases forest with
  | nil =>
      have noNodes : trie.nodes.size = 0 := stands.length_ids_bare.symm
      rw [noNodes]
      rfl
  | cons head fragment old children siblings => simp [stands.root] at empty

theorem replay_split (stands : trie.StandsFor forest) (filled : key ≠ []) {id : NodeId}
    {node : Node V} {parts : Text.Divergence}
    (stops : forest.stop none key = .split id node parts) (value : V) :
    forest.bare.replay (.splitNode key id (Text.utf8Length parts.shared)) =
      some (forest.plant trie.nodes.size key value).bare := by
  obtain ⟨branch, _, _, leads, fragment, _, _, _⟩ :=
    Forest.leads_of_split stands.compact filled stops
  obtain ⟨above, aboveFound, whole⟩ := leads.above? stands.distinct
  have found := leads.branch? stands.distinct
  have kept : Text.splitAtByte? (Text.utf8Length parts.shared) branch.fragment =
      some (parts.shared, parts.left) := by
    rw [fragment, Text.splitAtByte?_append]
  have rest : Text.splitAtByte? (Text.utf8Length above + Text.utf8Length parts.shared) key =
      some (above ++ parts.shared, parts.right) := by
    rw [whole, ← Text.utf8Length_append, ← List.append_assoc, Text.splitAtByte?_append]
  simp only [Forest.replay, Forest.above?_bare, aboveFound, Forest.branch?_bare, found,
    Option.map_some, Option.bind_eq_bind, Option.bind_some, Branch.bare, kept, rest,
    stands.length_ids_bare, Forest.plant, stops, ← Forest.bare_cut]
  cases parts.right with
  | nil =>
      simp only [List.isEmpty_nil, if_true, Forest.bare_withValue]
      rfl
  | cons first tail =>
      simp only [List.isEmpty_cons, Bool.false_eq_true, if_false, Forest.bare_attach]
      rfl

theorem replay_store {id : NodeId} {node : Node V} (stops : forest.stop none key = .store id node)
    (fresh : NodeId) (value : V) : (forest.plant fresh key value).bare = forest.bare := by
  rw [Forest.plant, stops]
  exact Forest.bare_withValue forest id value

theorem insertNormal_replay (stands : trie.StandsFor forest) (filled : key ≠ []) (value : V)
    (replace : Bool) {new : Bool}
    (accepted : (trie.insertNormal key value replace).outcome = .ok new) :
    ((trie.insertNormal key value replace).events.filter Event.structural).foldlM Forest.replay
        forest.bare =
      some (forest.plant trie.nodes.size key value).bare := by
  have single {event : Event} (structural : event.structural) :
      ([event].filter Event.structural).foldlM Forest.replay forest.bare =
        forest.bare.replay event := by
    simp [structural]
  have descends := stands.descend filled
  cases root : trie.root with
  | none =>
      simp only [insertNormal, root]
      rw [single rfl, stands.replay_root root]
  | some head =>
      simp only [insertNormal, root, descends] at accepted ⊢
      cases stops : forest.stop none key with
      | append place rest =>
          simp only
          rw [single rfl, stands.replay_append stops]
      | split id node parts =>
          simp only
          rw [single rfl, stands.replay_split filled stops]
      | store id node =>
          rw [replay_store stops]
          simp only [stops, store] at accepted ⊢
          cases stored : node.value with
          | none => rfl
          | some old =>
              cases replace with
              | true => rfl
              | false => simp [stored] at accepted

theorem insertNormal_accepted (stands : trie.StandsFor forest) (filled : key ≠ []) (value : V)
    (replace : Bool) {new : Bool}
    (accepted : (trie.insertNormal key value replace).outcome = .ok new) :
    (trie.insertNormal key value replace).trie.StandsFor
      (forest.plant trie.nodes.size key value) := by
  cases bound : forest.shape.lookup key with
  | none => exact (stands.insertNormal_new filled bound value replace).2
  | some old =>
      obtain ⟨grown, standsAfter, insertion⟩ := stands.insertNormal_bound filled bound value replace
      rw [insertion] at accepted ⊢
      cases replace with
      | true => exact standsAfter
      | false => cases accepted

theorem insert_replay (stands : trie.StandsFor forest) (key : Key) (value : V) (replace : Bool) :
    ∃ grown, (trie.insert key value replace).trie.StandsFor grown ∧
      ((trie.insert key value replace).events.filter Event.structural).foldlM Forest.replay
        forest.bare = some grown.bare := by
  cases outcome : (trie.insert key value replace).outcome with
  | error cause =>
      obtain ⟨same, silent⟩ := insert_refused outcome
      exact ⟨forest, by rw [same]; exact stands, by rw [silent]; rfl⟩
  | ok new =>
      cases admitted : trie.config.normalize key with
      | error refusal => simp [insert, admitted] at outcome
      | ok normal =>
          have filled := Config.ne_nil_of_normalize admitted
          simp only [insert, admitted] at outcome ⊢
          exact ⟨_, stands.insertNormal_accepted filled value replace outcome,
            stands.insertNormal_replay filled value replace outcome⟩

theorem run_replay (stands : trie.StandsFor forest) {log : List Event}
    (replayed : (log.filter Event.structural).foldlM Forest.replay .nil = some forest.bare)
    (operations : List (Operation V)) :
    ∃ last, (trie.run operations).2.StandsFor last ∧
      ((logSinceClear trie log operations).filter Event.structural).foldlM Forest.replay .nil =
        some last.bare := by
  induction operations generalizing trie forest log with
  | nil => exact ⟨forest, stands, replayed⟩
  | cons operation operations ih =>
      have unchanged : ((log ++ []).filter Event.structural).foldlM Forest.replay .nil =
          some forest.bare := by
        rw [List.append_nil, replayed]
      cases operation with
      | insert key value replace =>
          obtain ⟨grown, standsAfter, step⟩ := stands.insert_replay key value replace
          refine ih standsAfter ?_
          rw [List.filter_append, List.foldlM_append, replayed]
          exact step
      | clear => exact ih (.empty trie.config) rfl
      | find key => exact ih stands unchanged
      | contains key => exact ih stands unchanged
      | size => exact ih stands unchanged
      | isEmpty => exact ih stands unchanged

end StandsFor

/-- The events since the last clearing rebuild the nodes, and every insertion tells of those that it
makes. -/
theorem log_rebuilds_nodes (config : Config) (operations : List (Operation V)) :
    let trie := ((Trie.empty config).run operations).2
    let log := logSinceClear (Trie.empty config) [] operations
    (∃ forest, (log.filter Event.structural).foldlM Forest.replay .nil = some forest ∧
      trie.Outlined forest) ∧
    ∀ key value replace, trie.Announced (trie.insert key value replace) := by
  intro trie log
  have blank : (([] : List Event).filter Event.structural).foldlM Forest.replay .nil =
      some (Forest.nil : Forest V).bare := rfl
  obtain ⟨last, stands, replayed⟩ := (StandsFor.empty config).run_replay blank operations
  exact ⟨⟨last.bare, replayed, stands.outlined⟩, trie.insert_announced⟩

end RadixForest.Trie
