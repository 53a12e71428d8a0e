import RadixForest.Proofs.Trie.Layout

/-!
Walks down the linked nodes of a trie. Whichever way a child is chosen, a walk goes where the forest
that is laid out in the nodes leads: an insertion stops where its key stops there, and a look-up
finds what is found in its shape.
-/

namespace RadixForest.Trie

variable {V : Type}

theorem Arena.Holds.find_leading {arena : Arena V} {level : Forest V} (holds : arena.Holds level)
    (first : Char) :
    level.top.find? (fun id => arena.leading id == some first) = level.childWith first := by
  induction level with
  | nil => rfl
  | cons head fragment value children siblings _ ih =>
      have leading : arena.leading head = fragment.head? := by simp [Arena.leading, holds.1]
      by_cases same : fragment.head? = some first
      · simp [Forest.top, Forest.childWith, leading, same]
      · rw [Forest.top, List.find?_cons_of_neg (by simpa [leading] using same), ih holds.2.2]
        simp [Forest.childWith, same]

theorem spellsStartOf_eq {trie : Trie V} {id : NodeId} {node : Node V}
    (record : trie.nodes[id]? = some node) (rest : Key) :
    trie.spellsStartOf rest id = node.fragment.isPrefixOf rest := by
  simp [spellsStartOf, record]

theorem find_spelling {trie : Trie V} {level : Forest V} (holds : trie.nodes.Holds level)
    (compact : level.shape.Compact) (first : Char) (tail : Key) :
    level.top.find? (trie.spellsStartOf (first :: tail)) =
      (level.childWith first).filter (trie.spellsStartOf (first :: tail)) := by
  induction level with
  | nil => rfl
  | cons head fragment value children siblings _ ih =>
      obtain ⟨filled, notAfter, _, _, later⟩ := compact
      have spells : trie.spellsStartOf (first :: tail) head = fragment.isPrefixOf (first :: tail) :=
        spellsStartOf_eq holds.1 _
      have behind := ih holds.2.2 later
      by_cases starts : fragment.isPrefixOf (first :: tail)
      · have leading : fragment.head? = some first := by
          obtain ⟨left, whole⟩ := List.isPrefixOf_iff_prefix.mp starts
          have heads := congrArg List.head? whole
          rwa [List.head?_append_of_ne_nil _ filled] at heads
        rw [Forest.top, List.find?_cons_of_pos (by rw [spells]; exact starts)]
        simp [Forest.childWith, leading, Option.filter_some, spells, starts]
      · rw [Forest.top, List.find?_cons_of_neg (by rw [spells]; exact starts), behind]
        by_cases leading : fragment.head? = some first
        · have noLater : siblings.childWith first = none :=
            Forest.childWith_eq_none (leading ▸ notAfter)
          simp [Forest.childWith, leading, noLater, Option.filter_some, spells, starts]
        · simp [Forest.childWith, leading]

namespace Laid

variable {trie : Trie V} {forest : Forest V}

theorem childSharing_none (laid : trie.Laid forest) (first : Char) (tail : Key) :
    trie.childSharing none (first :: tail) = forest.childWith first := by
  have index := laid.index
  unfold Indexes at index
  cases dispatch : trie.config.dispatch with
  | linear =>
      simp only [childSharing, dispatch, laid.level_none]
      exact laid.holds.find_leading first
  | indexed =>
      simp only [dispatch] at index
      simp only [childSharing, dispatch]
      exact index none first

theorem childSharing_some (laid : trie.Laid forest) {id : NodeId} {branch : Branch V}
    (found : forest.branch? id = some branch) (first : Char) (tail : Key) :
    trie.childSharing (some id) (first :: tail) = branch.children.childWith first := by
  have index := laid.index
  unfold Indexes at index
  cases dispatch : trie.config.dispatch with
  | linear =>
      simp only [childSharing, dispatch, laid.level_some found]
      exact (laid.holds.branch? found).1.find_leading first
  | indexed =>
      simp only [dispatch] at index
      simp only [childSharing, dispatch]
      rw [index]
      simp [Forest.child, found]

theorem childSharing_eq (laid : trie.Laid forest) {parent : Option NodeId}
    (present : ∀ id ∈ parent, id ∈ forest.ids) (first : Char) (tail : Key) :
    trie.childSharing parent (first :: tail) = forest.child parent first := by
  cases parent with
  | none => exact laid.childSharing_none first tail
  | some upper =>
      obtain ⟨branch, found⟩ := Forest.exists_branch (present upper rfl)
      rw [laid.childSharing_some found, Forest.child, found]
      rfl

end Laid

theorem childMatching_eq {trie : Trie V} {parent : Option NodeId} {level : Forest V}
    (levelTop : trie.level parent = level.top) (holds : trie.nodes.Holds level)
    (compact : level.shape.Compact) {first : Char} (tail : Key)
    (sharing : trie.childSharing parent (first :: tail) = level.childWith first) :
    trie.childMatching parent (first :: tail) =
      (level.childWith first).filter (trie.spellsStartOf (first :: tail)) := by
  cases dispatch : trie.config.dispatch with
  | linear =>
      simp only [childMatching, dispatch, levelTop]
      exact find_spelling holds compact first tail
  | indexed =>
      simp only [childSharing, dispatch] at sharing
      simp only [childMatching, dispatch, sharing]

/-- A part of a forest as a walk comes to it: the rest of a level, with all that is below. -/
structure Part (trie : Trie V) (forest part : Forest V) : Prop where
  holds : trie.nodes.Holds part
  distinct : part.ids.Nodup
  compact : part.shape.Compact
  inside : ∀ id branch, part.branch? id = some branch → forest.branch? id = some branch

namespace Part

variable {trie : Trie V} {forest : Forest V} {head : NodeId} {fragment : Key} {value : Option V}
  {children siblings : Forest V}

theorem here (part : Part trie forest (.cons head fragment value children siblings)) :
    forest.branch? head = some ⟨fragment, value, children⟩ :=
  part.inside head _ (by simp [Forest.branch?])

theorem below (part : Part trie forest (.cons head fragment value children siblings)) :
    Part trie forest children := by
  obtain ⟨⟨headBelow, _⟩, distinct, _, _⟩ := Forest.ids_nodup_cons.mp part.distinct
  refine ⟨part.holds.2.1, distinct, part.compact.2.2.2.1, ?_⟩
  intro id branch found
  have notHead := ne_of_mem_of_not_mem (Forest.mem_ids_of_branch found) headBelow
  exact part.inside id branch (by simp [Forest.branch?, notHead.symm, found])

theorem after (part : Part trie forest (.cons head fragment value children siblings)) :
    Part trie forest siblings := by
  obtain ⟨⟨_, headAfter⟩, _, distinct, apart⟩ := Forest.ids_nodup_cons.mp part.distinct
  refine ⟨part.holds.2.2, distinct, part.compact.2.2.2.2, ?_⟩
  intro id branch found
  have member := Forest.mem_ids_of_branch found
  have notHead := ne_of_mem_of_not_mem member headAfter
  have notBelow := Forest.branch?_eq_none fun inside => apart id inside member
  exact part.inside id branch (by simp [Forest.branch?, notHead.symm, notBelow, found])

theorem level {part : Forest V} (sound : Part trie forest part) {id : NodeId} {branch : Branch V}
    (found : part.branch? id = some branch) : Part trie forest branch.children := by
  induction part with
  | nil => simp [Forest.branch?] at found
  | cons head fragment value children siblings below after =>
      simp only [Forest.branch?] at found
      split at found
      · simp only [Option.some.injEq] at found
        subst found
        exact sound.below
      · rcases Option.or_eq_some_iff.mp found with inside | ⟨_, behind⟩
        · exact below sound.below inside
        · exact after sound.after behind

theorem ids_subset {part : Forest V} (sound : Part trie forest part) : part.ids ⊆ forest.ids := by
  intro id member
  obtain ⟨branch, found⟩ := Forest.exists_branch member
  exact Forest.mem_ids_of_branch (sound.inside id branch found)

end Part

theorem Laid.descend_eq_stop {trie : Trie V} {forest part : Forest V} (laid : trie.Laid forest)
    (sound : Part trie forest part) {parent : Option NodeId} {rest : Key} (filled : rest ≠ [])
    (sharing : ∀ first tail, rest = first :: tail →
      trie.childSharing parent rest = part.childWith first) :
    trie.descend parent rest = part.stop parent rest := by
  -- Siblings that are passed over keep `parent` and what is known of its edges; one step down
  -- learns the edges of the node it goes to.
  induction part generalizing parent rest with
  | nil =>
      obtain ⟨first, tail, rfl⟩ := List.exists_cons_of_ne_nil filled
      rw [descend, sharing first tail rfl]
      rfl
  | cons head fragment value children siblings below after =>
      have record := sound.holds.1
      have own := sound.compact.1
      by_cases starts : fragment.head? = rest.head?
      · have chosen : trie.childSharing parent rest = some head := by
          obtain ⟨first, tail, rfl⟩ := List.exists_cons_of_ne_nil filled
          rw [sharing first tail rfl]
          simp [Forest.childWith, starts]
        rw [descend, chosen]
        simp only [record]
        cases meeting_of_head starts with
        | same _ =>
            rw [Forest.stop_same, Text.diverge_self]
            rfl
        | within _ first tail =>
            rw [Forest.stop_within filled, Text.diverge_extended_left]
            rfl
        | apart shared c ownTail d otherTail sharedFilled different =>
            rw [Forest.stop_apart sharedFilled different, Text.diverge_fork different]
            rfl
        | beyond _ first tail =>
            rw [Forest.stop_beyond own, Text.diverge_extended_right]
            simp only [List.isEmpty_nil, List.isEmpty_cons, List.isEmpty_iff, own, Bool.not_true,
              Bool.false_eq_true, if_false]
            apply below sound.below (List.cons_ne_nil first tail)
            rintro next rest ⟨⟩
            exact laid.childSharing_some sound.here first tail
      · rw [Forest.stop_past starts]
        apply after sound.after filled
        intro first tail restEq
        rw [sharing first tail restEq]
        rw [restEq] at starts
        have differs : fragment.head? ≠ some first := starts
        simp [Forest.childWith, differs]

theorem Laid.locate_value {trie : Trie V} {forest part : Forest V} (laid : trie.Laid forest)
    (sound : Part trie forest part) {parent : Option NodeId} {rest : Key} (filled : rest ≠ [])
    (spelling : ∀ first tail, rest = first :: tail →
      trie.childMatching parent rest = (part.childWith first).filter (trie.spellsStartOf rest)) :
    (trie.locate parent rest).bind (·.value) = part.shape.lookup rest := by
  induction part generalizing parent rest with
  | nil =>
      obtain ⟨first, tail, rfl⟩ := List.exists_cons_of_ne_nil filled
      rw [locate, spelling first tail rfl]
      rfl
  | cons head fragment value children siblings below after =>
      obtain ⟨record, holdsBelow, _⟩ := sound.holds
      obtain ⟨own, notAfter, _, inner, later⟩ := sound.compact
      by_cases starts : fragment.head? = rest.head?
      · have chosen : trie.childMatching parent rest =
            if fragment.isPrefixOf rest then some head else none := by
          obtain ⟨first, tail, rfl⟩ := List.exists_cons_of_ne_nil filled
          rw [spelling first tail rfl]
          rw [List.head?_cons] at starts
          simp [Forest.childWith, starts, Option.filter_some, spellsStartOf_eq record]
        by_cases whole : fragment <+: rest
        · obtain ⟨left, rfl⟩ := whole
          rw [locate, chosen, if_pos (by simp), Forest.shape, Shape.lookup_here]
          simp only [record, List.drop_left]
          cases left with
          | nil => rfl
          | cons first tail =>
              simp only [List.isEmpty_cons, List.isEmpty_iff, own, Bool.false_eq_true, if_false]
              apply below sound.below (List.cons_ne_nil first tail)
              rintro next rest ⟨⟩
              exact childMatching_eq (laid.level_some sound.here) holdsBelow inner tail
                (laid.childSharing_some sound.here first tail)
        · rw [locate, chosen, if_neg (by simpa using whole), Forest.shape,
            Shape.lookup_after whole, Shape.lookup_of_start later (starts ▸ notAfter)]
          rfl
      · rw [Forest.shape, Shape.lookup_past own starts]
        apply after sound.after filled
        intro first tail restEq
        rw [spelling first tail restEq]
        rw [restEq] at starts
        have differs : fragment.head? ≠ some first := starts
        simp [Forest.childWith, differs]

end RadixForest.Trie
