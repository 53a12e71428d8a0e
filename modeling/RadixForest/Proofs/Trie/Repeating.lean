import RadixForest.Proofs.Trie.Paths
import RadixForest.Proofs.Trie.Replay

/-!
Insertions that are made again. Once the names of their keys are bound they change values only, and
the values that they leave in the end are those that are there already.
-/

namespace RadixForest.Trie

variable {V : Type}

/-- Two tries that differ in the values of their nodes at most. -/
structure Revalued (before after : Trie V) : Prop where
  config : after.config = before.config
  root : after.root = before.root
  index : after.index = before.index
  nodes : after.nodes.map Node.bare = before.nodes.map Node.bare

namespace Revalued

variable {before between after : Trie V}

theorem refl (trie : Trie V) : Revalued trie trie := ⟨rfl, rfl, rfl, rfl⟩

theorem trans (first : Revalued before between) (second : Revalued between after) :
    Revalued before after :=
  ⟨second.config.trans first.config, second.root.trans first.root, second.index.trans first.index,
    second.nodes.trans first.nodes⟩

theorem setValue (trie : Trie V) (id : NodeId) (value : V) :
    Revalued trie (trie.setValue id value) := by
  refine ⟨rfl, rfl, rfl, ?_⟩
  apply Array.ext_getElem?
  intro number
  rw [Array.getElem?_map, Array.getElem?_map, Trie.setValue, Array.getElem?_modify]
  split
  · cases trie.nodes[number]? <;> rfl
  · rfl

end Revalued

theorem insertNormal_revalued {trie : Trie V} {key : Key} {value : V} {replace : Bool}
    (known : (trie.insertNormal key value replace).outcome ≠ .ok true) :
    Revalued trie (trie.insertNormal key value replace).trie := by
  cases root : trie.root with
  | none => simp [insertNormal, root] at known
  | some head =>
      cases stops : trie.descend none key with
      | append place rest => simp [insertNormal, root, stops] at known
      | split id node parts => simp [insertNormal, root, stops] at known
      | store id node =>
          simp only [insertNormal, root, stops, store] at known ⊢
          cases stored : node.value with
          | none => simp [stored] at known
          | some old =>
              cases replace with
              | true => exact .setValue trie id value
              | false => exact .refl trie

theorem insert_revalued {trie : Trie V} {key : Key} {value : V} {replace : Bool}
    (known : (trie.insert key value replace).outcome ≠ .ok true) :
    Revalued trie (trie.insert key value replace).trie := by
  unfold insert at known ⊢
  cases named : trie.config.normalize key with
  | error cause => exact .refl trie
  | ok normal =>
      simp only [named] at known
      exact insertNormal_revalued known

def AllBound (config : Config) (bindings : Bindings V) (inserts : List (Insert V)) : Prop :=
  ∀ insert ∈ inserts, ∀ name, Dictionary.name config insert.key = .ok name →
    (bindings.lookup name).isSome

section Bound

variable {config : Config} {trie : Trie V} {bindings : Bindings V} {insert : Insert V}
  {inserts : List (Insert V)}

theorem AllBound.outcome_ne (bound : AllBound config bindings (insert :: inserts)) :
    insert.outcome config (fun name => (bindings.lookup name).isSome) ≠ .ok true := by
  unfold Insert.outcome
  cases named : Dictionary.name config insert.key with
  | error cause => simp
  | ok name =>
      simp only [bound insert List.mem_cons_self name named, if_true]
      cases insert.replace <;> simp

theorem AllBound.perform (bound : AllBound config bindings (insert :: inserts)) :
    AllBound config (Dictionary.perform config bindings insert.operation).2 inserts := by
  intro other member name named
  rw [Dictionary.lookup_perform_insert]
  split
  · exact insert.offer_isSome _
  · exact bound other (List.mem_cons_of_mem _ member) name named

theorem Mirrors.run_revalued (mirrors : Mirrors config trie bindings)
    (bound : AllBound config bindings inserts) :
    Revalued trie (trie.run (inserts.map (·.operation))).2 := by
  induction inserts generalizing trie bindings with
  | nil => exact .refl trie
  | cons insert inserts ih =>
      have known : (trie.insert insert.key insert.value insert.replace).outcome ≠ .ok true := by
        rw [mirrors.insert_outcome]
        exact bound.outcome_ne
      exact (insert_revalued known).trans
        (ih (mirrors.insert insert.key insert.value insert.replace).2 bound.perform)

end Bound

theorem Arena.Holds.unique {arena : Arena V} {one other : Forest V} (holds : arena.Holds one)
    (otherHolds : arena.Holds other) (first : one.first = other.first) : one = other := by
  induction one generalizing other with
  | nil =>
      cases other with
      | nil => rfl
      | cons id fragment value children siblings => cases first
  | cons id fragment value children siblings below after =>
      cases other with
      | nil => cases first
      | cons otherId otherFragment otherValue otherChildren otherSiblings =>
          obtain ⟨here, inner, later⟩ := holds
          obtain ⟨otherHere, otherInner, otherLater⟩ := otherHolds
          obtain rfl : id = otherId := Option.some.inj first
          rw [here, Option.some.injEq, Node.mk.injEq] at otherHere
          obtain ⟨rfl, rfl, child, next⟩ := otherHere
          rw [below inner otherInner child, after later otherLater next]

theorem Shape.lookup_nil {shape : Shape V} (compact : shape.Compact) : shape.lookup [] = none :=
  Option.not_isSome_iff_eq_none.mp fun binds => ne_nil_of_binds compact binds rfl

theorem Forest.eq_of_lookup {one other : Forest V} (bare : one.bare = other.bare)
    (compact : one.shape.Compact) (otherCompact : other.shape.Compact)
    (same : ∀ key, one.shape.lookup key = other.shape.lookup key) : one = other := by
  induction one generalizing other with
  | nil =>
      cases other with
      | nil => rfl
      | cons id fragment value children siblings => cases bare
  | cons id fragment value children siblings below after =>
      cases other with
      | nil => cases bare
      | cons otherId otherFragment otherValue otherChildren otherSiblings =>
          simp only [Forest.bare, Forest.cons.injEq, true_and] at bare
          obtain ⟨rfl, rfl, bareBelow, bareAfter⟩ := bare
          obtain ⟨filled, apart, _, inner, later⟩ := compact
          obtain ⟨_, otherApart, _, otherInner, otherLater⟩ := otherCompact
          have values : value = otherValue := by
            have here := same (fragment ++ [])
            rwa [Forest.shape, Forest.shape, Shape.lookup_here, Shape.lookup_here] at here
          have childrenSame : children = otherChildren := by
            refine below bareBelow inner otherInner fun key => ?_
            cases key with
            | nil => rw [Shape.lookup_nil inner, Shape.lookup_nil otherInner]
            | cons c rest =>
                have here := same (fragment ++ c :: rest)
                rwa [Forest.shape, Forest.shape, Shape.lookup_here, Shape.lookup_here] at here
          have siblingsSame : siblings = otherSiblings := by
            refine after bareAfter later otherLater fun key => ?_
            by_cases starts : fragment.head? = key.head?
            · rw [Shape.lookup_of_start later (starts ▸ apart),
                Shape.lookup_of_start otherLater (starts ▸ otherApart)]
            · have here := same key
              rwa [Forest.shape, Forest.shape, Shape.lookup_past filled starts,
                Shape.lookup_past filled starts] at here
          rw [values, childrenSame, siblingsSame]

theorem Mirrors.eq_of_revalued {config : Config} {before after : Trie V}
    {bindings later : Bindings V} (mirrors : Mirrors config before bindings)
    (laterMirrors : Mirrors config after later) (revalued : Revalued before after)
    (same : ∀ name, bindings.lookup name = later.lookup name) : after = before := by
  obtain ⟨_, forest, stands, filled⟩ := mirrors
  obtain ⟨_, laterForest, laterStands, laterFilled⟩ := laterMirrors
  have bare : forest.bare = laterForest.bare := by
    have holds := laterStands.holds.bare
    rw [revalued.nodes] at holds
    refine stands.holds.bare.unique holds ?_
    rw [Forest.first_bare, Forest.first_bare, ← stands.root, ← laterStands.root, revalued.root]
  have forests : forest = laterForest := by
    refine Forest.eq_of_lookup bare stands.compact laterStands.compact fun key => ?_
    rw [filled.lookup, laterFilled.lookup, same]
  subst forests
  have twins : Twins after before forest := ⟨by rw [revalued.config], laterStands, stands⟩
  have config := revalued.config
  have root := revalued.root
  have index := revalued.index
  have nodes := twins.nodes
  have size := twins.size
  cases before
  cases after
  simp only at config root index nodes size
  subst config root index nodes size
  rfl

theorem Insert.foldl_offer_kept {inserts : List (Insert V)}
    (keep : ∀ insert ∈ inserts, insert.replace = false) (value : V) :
    inserts.foldl (fun old insert => insert.offer old) (some value) = some value := by
  induction inserts with
  | nil => rfl
  | cons insert inserts ih =>
      rw [List.forall_mem_cons] at keep
      rw [List.foldl_cons, Insert.offer, keep.1, if_neg Bool.false_ne_true]
      exact ih keep.2

theorem Insert.foldl_offer_again {inserts : List (Insert V)} {replace : Bool}
    (uniform : ∀ insert ∈ inserts, insert.replace = replace) (old : Option V) :
    inserts.foldl (fun old insert => insert.offer old)
        (inserts.foldl (fun old insert => insert.offer old) old) =
      inserts.foldl (fun old insert => insert.offer old) old := by
  cases inserts with
  | nil => rfl
  | cons insert inserts =>
      cases replace with
      | true =>
          have first (before : Option V) : insert.offer before = some insert.value := by
            rw [Insert.offer, uniform insert List.mem_cons_self, if_pos rfl]
          simp only [List.foldl_cons, first]
      | false =>
          have bound := foldl_offer_isSome (insert :: inserts) old
          rw [List.isEmpty_cons, Bool.not_false, Bool.or_true] at bound
          obtain ⟨value, bound⟩ := Option.isSome_iff_exists.mp bound
          rw [bound, foldl_offer_kept uniform]

/-- Insertions that all replace, or all do not, come to the same trie when they are made twice. -/
theorem Mirrors.run_again {config : Config} {trie : Trie V} {bindings : Bindings V}
    (mirrors : Mirrors config trie bindings) {inserts : List (Insert V)} {replace : Bool}
    (uniform : ∀ insert ∈ inserts, insert.replace = replace) :
    let once := (trie.run (inserts.map (·.operation))).2
    (once.run (inserts.map (·.operation))).2 = once := by
  intro once
  have onceMirrors := (mirrors.run (inserts.map (·.operation))).2
  have twiceMirrors := (onceMirrors.run (inserts.map (·.operation))).2
  refine onceMirrors.eq_of_revalued twiceMirrors (onceMirrors.run_revalued ?_) ?_
  · intro insert member name named
    have own : insert ∈ Insert.naming config name inserts :=
      List.mem_filter.mpr ⟨member, decide_eq_true named⟩
    rw [Dictionary.lookup_inserts, Insert.foldl_offer_isSome]
    simp [List.ne_nil_of_mem own]
  · intro name
    rw [Dictionary.lookup_inserts, Dictionary.lookup_inserts, Dictionary.lookup_inserts]
    exact (Insert.foldl_offer_again
      (fun insert member => uniform insert (List.mem_filter.mp member).1) _).symm

end RadixForest.Trie
