import Mathlib.Data.List.Perm.Subperm
import RadixForest.Proofs.Trie.Descent
import RadixForest.Trie.Basic

/-!
A forest laid out in the nodes of a trie. Hanging up a new node, cutting a fragment and storing a
value change the links, the index and the forest in step.
-/

namespace RadixForest.Trie

variable {V : Type}

/-- The nodes of a forest stand in the array, linked as the forest says. -/
def Arena.Holds (arena : Arena V) : Forest V → Prop
  | .nil => True
  | .cons id fragment value children siblings =>
    arena[id]? = some ⟨fragment, value, children.first, siblings.first⟩ ∧
      arena.Holds children ∧ arena.Holds siblings

/-- An index leads along the edges of a forest and nowhere else; without indexed dispatch there is
none. -/
def Indexes (trie : Trie V) (forest : Forest V) : Prop :=
  match trie.config.dispatch with
  | .indexed => ∀ parent first, trie.index[Edge.mk parent first]? = forest.child parent first
  | .linear => trie.index = ∅

structure Laid (trie : Trie V) (forest : Forest V) : Prop where
  root : trie.root = forest.first
  holds : trie.nodes.Holds forest
  ids : forest.ids.Perm (List.range trie.nodes.size)
  index : trie.Indexes forest

namespace Arena.Holds

theorem congr {arena after : Arena V} {forest : Forest V} (holds : arena.Holds forest)
    (same : ∀ id ∈ forest.ids, after[id]? = arena[id]?) : after.Holds forest := by
  induction forest with
  | nil => trivial
  | cons head fragment value children siblings below behind =>
      obtain ⟨here, inner, later⟩ := holds
      simp only [Forest.ids, List.mem_cons, List.mem_append] at same
      refine ⟨?_, ?_, ?_⟩
      · rw [same head (Or.inl rfl)]
        exact here
      · exact below inner fun id member => same id (Or.inr (Or.inl member))
      · exact behind later fun id member => same id (Or.inr (Or.inr member))

theorem branch? {arena : Arena V} {forest : Forest V} {id : NodeId} {branch : Branch V}
    (holds : arena.Holds forest) (found : forest.branch? id = some branch) :
    arena.Holds branch.children ∧ ∃ next,
      arena[id]? = some ⟨branch.fragment, branch.value, branch.children.first, next⟩ := by
  induction forest with
  | nil => simp [Forest.branch?] at found
  | cons head fragment value children siblings below behind =>
      obtain ⟨here, inner, later⟩ := holds
      simp only [Forest.branch?] at found
      split at found
      · rename_i same
        subst same
        simp only [Option.some.injEq] at found
        subst found
        exact ⟨inner, siblings.first, here⟩
      · rcases Option.or_eq_some_iff.mp found with inside | ⟨_, outside⟩
        · exact below inner inside
        · exact behind later outside

theorem chain_eq_top {arena : Arena V} {forest : Forest V} (holds : arena.Holds forest)
    {fuel : Nat} (enough : forest.top.length ≤ fuel) :
    arena.chain fuel forest.first = forest.top := by
  induction forest generalizing fuel with
  | nil => cases fuel <;> rfl
  | cons head fragment value children siblings below behind =>
      cases fuel with
      | zero => simp [Forest.top] at enough
      | succ fuel =>
          simp only [Forest.top, List.length_cons, Nat.add_le_add_iff_right] at enough
          simp [chain, Forest.top, holds.1, behind holds.2.2 enough]

theorem lt_size {arena : Arena V} {forest : Forest V} (holds : arena.Holds forest)
    {id : NodeId} (member : id ∈ forest.ids) : id < arena.size := by
  obtain ⟨branch, found⟩ := Forest.exists_branch member
  obtain ⟨_, next, record⟩ := holds.branch? found
  exact (Array.getElem?_eq_some_iff.mp record).1

theorem top_length_le {arena : Arena V} {forest : Forest V} (holds : arena.Holds forest)
    (distinct : forest.ids.Nodup) : forest.top.length ≤ arena.size := by
  have inside : forest.ids ⊆ List.range arena.size := fun id member =>
    List.mem_range.mpr (holds.lt_size member)
  calc
    forest.top.length ≤ forest.ids.length := forest.top_sublist_ids.length_le
    _ ≤ (List.range arena.size).length := (distinct.subperm inside).length_le
    _ = arena.size := List.length_range

theorem siblings {arena : Arena V} {forest : Forest V} (holds : arena.Holds forest)
    (distinct : forest.ids.Nodup) : arena.siblings forest.first = forest.top :=
  holds.chain_eq_top (holds.top_length_le distinct)

theorem alter {arena after : Arena V} {forest : Forest V} {id : NodeId} {branch : Branch V}
    {change : Branch V → Branch V} (holds : arena.Holds forest) (distinct : forest.ids.Nodup)
    (found : forest.branch? id = some branch)
    (kept : ∀ other ∈ forest.ids, other ≠ id → other ∉ branch.children.ids →
      after[other]? = arena[other]?)
    (inside : after.Holds (change branch).children)
    (written : ∀ next,
      arena[id]? = some ⟨branch.fragment, branch.value, branch.children.first, next⟩ →
      after[id]? = some ⟨(change branch).fragment, (change branch).value,
        (change branch).children.first, next⟩) :
    after.Holds (forest.alter id change) := by
  induction forest with
  | nil => trivial
  | cons head fragment value children siblings below behind =>
      obtain ⟨here, inner, later⟩ := holds
      obtain ⟨⟨headBelow, headAfter⟩, distinctBelow, distinctAfter, apart⟩ :=
        Forest.ids_nodup_cons.mp distinct
      simp only [Forest.ids, List.mem_cons, List.mem_append] at kept
      rcases Forest.branch?_cons distinct found with
        ⟨rfl, rfl, notBelow, notAfter⟩ | ⟨different, within, notAfter⟩ | ⟨different, past, notBelow⟩
      · rw [Forest.alter_first]
        refine ⟨written _ here, inside, later.congr ?_⟩
        intro other member
        refine kept other (Or.inr (Or.inr member)) (ne_of_mem_of_not_mem member notAfter) ?_
        exact fun below => apart other below member
      · have lower := (Forest.ids_sublist_of_branch within).subset
        rw [Forest.alter_below change different notAfter]
        refine ⟨?_, ?_, later.congr ?_⟩
        · rw [Forest.first_alter, kept head (Or.inl rfl) different.symm]
          · exact here
          · exact fun member => headBelow (lower (List.mem_cons_of_mem _ member))
        · exact below inner distinctBelow within fun other member =>
            kept other (Or.inr (Or.inl member))
        · intro other member
          refine kept other (Or.inr (Or.inr member)) (ne_of_mem_of_not_mem member notAfter) ?_
          exact fun below => apart other (lower (List.mem_cons_of_mem _ below)) member
      · have lower := (Forest.ids_sublist_of_branch past).subset
        rw [Forest.alter_after change different notBelow]
        refine ⟨?_, inner.congr ?_, ?_⟩
        · rw [Forest.first_alter, kept head (Or.inl rfl) different.symm]
          · exact here
          · exact fun member => headAfter (lower (List.mem_cons_of_mem _ member))
        · intro other member
          refine kept other (Or.inr (Or.inl member)) (ne_of_mem_of_not_mem member notBelow) ?_
          exact fun below => apart other member (lower (List.mem_cons_of_mem _ below))
        · exact behind later distinctAfter past fun other member =>
            kept other (Or.inr (Or.inr member))

theorem append {arena after : Arena V} {forest more : Forest V} {last : NodeId}
    (holds : arena.Holds forest) (distinct : forest.ids.Nodup) (behind : after.Holds more)
    (final : forest.top.getLast? = some last)
    (linked : after[last]? = arena[last]?.map fun node => { node with nextSibling := more.first })
    (kept : ∀ other ∈ forest.ids, other ≠ last → after[other]? = arena[other]?) :
    after.Holds (forest.append more) := by
  induction forest with
  | nil => simp [Forest.top] at final
  | cons head fragment value children siblings _ later =>
      obtain ⟨here, inner, outer⟩ := holds
      obtain ⟨⟨headBelow, headAfter⟩, distinctBelow, distinctAfter, apart⟩ :=
        Forest.ids_nodup_cons.mp distinct
      simp only [Forest.ids, List.mem_cons, List.mem_append] at kept
      cases siblings with
      | nil =>
          simp only [Forest.top, List.getLast?_singleton, Option.some.injEq] at final
          subst final
          refine ⟨?_, inner.congr ?_, behind⟩
          · rw [linked, here]
            rfl
          · intro other member
            exact kept other (Or.inr (Or.inl member)) (ne_of_mem_of_not_mem member headBelow)
      | cons next nextFragment nextValue nextChildren nextSiblings =>
          rw [Forest.top, Forest.top, List.getLast?_cons_cons, ← Forest.top] at final
          have member := (Forest.top_sublist_ids _).subset (List.mem_of_getLast? final)
          have notBelow := fun inside => apart last inside member
          refine ⟨?_, inner.congr ?_, later outer distinctAfter final ?_⟩
          · rw [kept head (Or.inl rfl) (ne_of_mem_of_not_mem member headAfter).symm]
            exact here
          · intro other belowMember
            exact kept other (Or.inr (Or.inl belowMember))
              (ne_of_mem_of_not_mem belowMember notBelow)
          · exact fun other afterMember => kept other (Or.inr (Or.inr afterMember))

end Arena.Holds

namespace Laid

variable {trie : Trie V} {forest : Forest V}

theorem mem_ids_iff (laid : trie.Laid forest) (id : NodeId) :
    id ∈ forest.ids ↔ id < trie.nodes.size := by
  rw [laid.ids.mem_iff, List.mem_range]

theorem mem_ids_of_record (laid : trie.Laid forest) {id : NodeId} {node : Node V}
    (known : trie.nodes[id]? = some node) : id ∈ forest.ids :=
  (laid.mem_ids_iff id).mpr (Array.getElem?_eq_some_iff.mp known).1

theorem length_ids (laid : trie.Laid forest) : forest.ids.length = trie.nodes.size := by
  rw [laid.ids.length_eq, List.length_range]

theorem distinct (laid : trie.Laid forest) : forest.ids.Nodup :=
  laid.ids.nodup_iff.mpr List.nodup_range

theorem new (laid : trie.Laid forest) : trie.nodes.size ∉ forest.ids := by
  simp [laid.mem_ids_iff]

theorem level_none (laid : trie.Laid forest) : trie.level none = forest.top := by
  rw [level, levelHead, laid.root]
  exact laid.holds.siblings laid.distinct

theorem level_some (laid : trie.Laid forest) {id : NodeId} {branch : Branch V}
    (found : forest.branch? id = some branch) : trie.level (some id) = branch.children.top := by
  obtain ⟨holds, next, record⟩ := laid.holds.branch? found
  rw [level, levelHead, record]
  exact holds.siblings
    (laid.distinct.sublist (Forest.ids_sublist_of_branch found)).of_cons

end Laid

theorem Arena.getElem?_linkAfter (arena : Arena V) (last id other : NodeId) :
    (arena.linkAfter last id)[other]? =
      if last = other then arena[other]?.map fun node => { node with nextSibling := some id }
      else arena[other]? :=
  Array.getElem?_modify

theorem Arena.getElem?_linkBelow (arena : Arena V) (parent id other : NodeId) :
    (arena.linkBelow parent id)[other]? =
      if parent = other then arena[other]?.map fun node => { node with firstChild := some id }
      else arena[other]? :=
  Array.getElem?_modify

theorem attach_config (trie : Trie V) (parent : Option NodeId) (fragment : Key) (value : V) :
    (trie.attach parent fragment value).config = trie.config := by
  unfold attach
  split <;> rfl

theorem attach_index (trie : Trie V) (parent : Option NodeId) (fragment : Key) (value : V) :
    (trie.attach parent fragment value).index =
      trie.indexChild parent fragment trie.nodes.size := by
  unfold attach
  split <;> rfl

theorem attach_size (trie : Trie V) (parent : Option NodeId) (fragment : Key) (value : V) :
    (trie.attach parent fragment value).nodes.size = trie.nodes.size + 1 := by
  unfold attach
  split <;> simp [Arena.linkAfter, Arena.linkBelow]

theorem Arena.Holds.append_leaf {arena : Arena V} {level : Forest V} {last : NodeId}
    (holds : arena.Holds level) (distinct : level.ids.Nodup)
    (final : level.top.getLast? = some last) (fragment : Key) (value : V) :
    (Arena.linkAfter (arena.push { fragment, value := some value }) last arena.size).Holds
      (level.append (.leaf arena.size fragment value)) := by
  have bound := holds.lt_size (level.top_sublist_ids.subset (List.mem_of_getLast? final))
  refine holds.append distinct ⟨?_, trivial, trivial⟩ final ?_ ?_
  · rw [getElem?_linkAfter, if_neg (Nat.ne_of_lt bound), Array.getElem?_push_size]
    rfl
  · rw [getElem?_linkAfter, if_pos rfl, Array.getElem?_push, if_neg (Nat.ne_of_lt bound)]
    rfl
  · intro other member different
    rw [getElem?_linkAfter, if_neg different.symm, Array.getElem?_push,
      if_neg (Nat.ne_of_lt (holds.lt_size member))]

theorem Laid.attach_none {trie : Trie V} {forest : Forest V} (laid : trie.Laid forest)
    (fragment : Key) (value : V) :
    (trie.attach none fragment value).root =
        (forest.append (.leaf trie.nodes.size fragment value)).first ∧
      (trie.attach none fragment value).nodes.Holds
        (forest.append (.leaf trie.nodes.size fragment value)) := by
  cases forest with
  | nil =>
      simp only [attach, laid.level_none, Forest.top, List.getLast?_nil]
      exact ⟨rfl, Array.getElem?_push_size, trivial, trivial⟩
  | cons head headFragment headValue children siblings =>
      obtain ⟨last, final⟩ : ∃ last, (head :: siblings.top).getLast? = some last :=
        ⟨_, List.getLast?_cons⟩
      simp only [attach, laid.level_none, Forest.top, final]
      exact ⟨laid.root, laid.holds.append_leaf laid.distinct final fragment value⟩

theorem Laid.attach_some {trie : Trie V} {forest : Forest V} (laid : trie.Laid forest)
    {id : NodeId} (present : id ∈ forest.ids) (fragment : Key) (value : V) :
    (trie.attach (some id) fragment value).root = trie.root ∧
      (trie.attach (some id) fragment value).nodes.Holds
        (forest.alter id (Branch.adopt (.leaf trie.nodes.size fragment value))) := by
  obtain ⟨branch, found⟩ := Forest.exists_branch present
  obtain ⟨inner, _, record⟩ := laid.holds.branch? found
  have below := Forest.ids_sublist_of_branch found
  obtain ⟨notBelow, distinct⟩ := List.nodup_cons.mp (laid.distinct.sublist below)
  have bound := laid.holds.lt_size present
  have old {other : NodeId} (member : other ∈ forest.ids) : other ≠ trie.nodes.size :=
    Nat.ne_of_lt (laid.holds.lt_size member)
  cases children : branch.children with
  | nil =>
      simp only [attach, laid.level_some found, children, Forest.top, List.getLast?_nil, true_and]
      refine laid.holds.alter laid.distinct found ?_ ?_ ?_
      · intro other member different _
        rw [Arena.getElem?_linkBelow, if_neg different.symm, Array.getElem?_push,
          if_neg (old member)]
      · simp only [Branch.adopt, children]
        refine ⟨?_, trivial, trivial⟩
        rw [Arena.getElem?_linkBelow, if_neg (Nat.ne_of_lt bound), Array.getElem?_push_size]
        rfl
      · intro next record
        rw [Arena.getElem?_linkBelow, if_pos rfl, Array.getElem?_push, if_neg (old present), record]
        simp [Branch.adopt, children, Forest.append, Forest.leaf]
  | cons head headFragment headValue headChildren siblings =>
      obtain ⟨last, final⟩ : ∃ last, (head :: siblings.top).getLast? = some last :=
        ⟨_, List.getLast?_cons⟩
      have finalTop : branch.children.top.getLast? = some last := by
        rw [children]
        exact final
      have member := branch.children.top_sublist_ids.subset (List.mem_of_getLast? finalTop)
      simp only [attach, laid.level_some found, finalTop, true_and]
      refine laid.holds.alter laid.distinct found ?_ ?_ ?_
      · intro other otherMember different outside
        rw [Arena.getElem?_linkAfter, if_neg (ne_of_mem_of_not_mem member outside),
          Array.getElem?_push, if_neg (old otherMember)]
      · exact inner.append_leaf distinct finalTop fragment value
      · intro next record
        rw [Arena.getElem?_linkAfter, if_neg (ne_of_mem_of_not_mem member notBelow),
          Array.getElem?_push, if_neg (old present), record]
        simp [Branch.adopt, children, Forest.append]

/-- A new node, linked and indexed, is a new leaf of the forest. -/
theorem Laid.attach {trie : Trie V} {forest : Forest V} (laid : trie.Laid forest)
    {parent : Option NodeId} (present : ∀ id ∈ parent, id ∈ forest.ids) {first : Char}
    (free : forest.child parent first = none) (tail : Key) (value : V) :
    (trie.attach parent (first :: tail) value).Laid
      (forest.attach parent (.leaf trie.nodes.size (first :: tail) value)) := by
  have links : (trie.attach parent (first :: tail) value).root =
        (forest.attach parent (.leaf trie.nodes.size (first :: tail) value)).first ∧
      (trie.attach parent (first :: tail) value).nodes.Holds
        (forest.attach parent (.leaf trie.nodes.size (first :: tail) value)) := by
    cases parent with
    | none => exact laid.attach_none (first :: tail) value
    | some id =>
        have ⟨root, holds⟩ := laid.attach_some (present id rfl) (first :: tail) value
        refine ⟨?_, holds⟩
        rw [root, laid.root, Forest.attach, Forest.first_alter]
  refine ⟨links.1, links.2, ?_, ?_⟩
  · rw [attach_size, List.range_succ]
    exact (Forest.ids_attach parent _ laid.distinct present).trans (laid.ids.append_right _)
  · have index := laid.index
    unfold Indexes at index ⊢
    rw [attach_config, attach_index]
    cases dispatch : trie.config.dispatch with
    | linear =>
        simp only [dispatch] at index ⊢
        simp [indexChild, indexed, dispatch, index]
    | indexed =>
        simp only [dispatch] at index ⊢
        intro start next
        rw [Forest.child_attach tail value laid.distinct present laid.new free, ← index]
        simp only [indexChild, indexed, dispatch, List.head?_cons, beq_self_eq_true, if_true,
          Std.HashMap.getElem?_insert, beq_iff_eq, Edge.mk.injEq]

theorem setValue_nodes (trie : Trie V) (id : NodeId) (value : V) (other : NodeId) :
    (trie.setValue id value).nodes[other]? =
      if id = other then trie.nodes[other]?.map fun node => { node with value := some value }
      else trie.nodes[other]? :=
  Array.getElem?_modify

theorem Laid.setValue_indexes {trie : Trie V} {forest : Forest V} (laid : trie.Laid forest)
    {id : NodeId} {branch : Branch V} (found : forest.branch? id = some branch) (value : V) :
    (trie.setValue id value).Indexes (forest.alter id (Branch.withValue value)) := by
  have index := laid.index
  unfold Indexes at index ⊢
  cases dispatch : trie.config.dispatch with
  | linear =>
      simp only [dispatch] at index
      simp only [Trie.setValue, dispatch]
      exact index
  | indexed =>
      simp only [dispatch] at index
      simp only [Trie.setValue, dispatch]
      intro start next
      rw [index]
      by_cases atNode : start = some id
      · subst atNode
        rw [Forest.child_alter_self _ laid.distinct found]
        simp [Forest.child, found, Branch.withValue]
      · symm
        apply Forest.child_alter_of_ne forest _ atNode
        · exact fun _ _ _ => rfl
        · exact fun _ => rfl

theorem Laid.setValue {trie : Trie V} {forest : Forest V} (laid : trie.Laid forest)
    {id : NodeId} {branch : Branch V} (found : forest.branch? id = some branch) (value : V) :
    (trie.setValue id value).Laid (forest.alter id (Branch.withValue value)) := by
  have below := Forest.ids_sublist_of_branch found
  obtain ⟨notBelow, _⟩ := List.nodup_cons.mp (laid.distinct.sublist below)
  refine ⟨?_, ?_, ?_, laid.setValue_indexes found value⟩
  · rw [Forest.first_alter]
    exact laid.root
  · refine laid.holds.alter laid.distinct found ?_ ?_ ?_
    · intro other _ different _
      rw [setValue_nodes, if_neg different.symm]
    · refine (laid.holds.branch? found).1.congr ?_
      intro other member
      rw [setValue_nodes, if_neg (ne_of_mem_of_not_mem member notBelow).symm]
    · intro next record
      rw [setValue_nodes, if_pos rfl, record]
      rfl
  · obtain ⟨rest, before, later⟩ := Forest.ids_alter (Branch.withValue value) laid.distinct found
    have size : (trie.setValue id value).nodes.size = trie.nodes.size := Array.size_modify
    rw [size]
    exact (later.trans before.symm).trans laid.ids

/-! ### Cutting a fragment -/

theorem getElem?_reindexChildren {nodes : Arena V} {children : Forest V}
    (holds : nodes.Holds children) (compact : children.shape.Compact) {source target : NodeId}
    (different : source ≠ target) (index : Index) (parent : Option NodeId) (first : Char) :
    (reindexChildren nodes source target children.top index)[Edge.mk parent first]? =
      if parent = some target then
        (children.childWith first).or index[Edge.mk parent first]?
      else if parent = some source ∧ (children.childWith first).isSome then none
      else index[Edge.mk parent first]? := by
  induction children generalizing index with
  | nil => simp [reindexChildren, Forest.top, Forest.childWith]
  | cons head fragment value inner siblings _ ih =>
      obtain ⟨here, _, later⟩ := holds
      obtain ⟨filled, notAfter, _, _, compactLater⟩ := compact
      obtain ⟨c, tail, rfl⟩ := List.exists_cons_of_ne_nil filled
      have leading : nodes.leading head = some c := by simp [Arena.leading, here]
      have step : reindexChildren nodes source target (head :: siblings.top) index =
          reindexChildren nodes source target siblings.top
            ((index.erase ⟨some source, c⟩).insert ⟨some target, c⟩ head) := by
        simp [reindexChildren, leading]
      rw [Forest.top, step, ih later compactLater]
      -- No later sibling starts like this child, so its new entry stays.
      have noLater : siblings.childWith c = none := Forest.childWith_eq_none notAfter
      simp only [Std.HashMap.getElem?_insert, Std.HashMap.getElem?_erase, beq_iff_eq,
        Edge.mk.injEq, Forest.childWith, List.head?_cons, Option.some.injEq]
      by_cases same : c = first
      · subst same
        by_cases atTarget : parent = some target
        · simp [atTarget, noLater]
        · by_cases atSource : parent = some source
          · simp [atSource, noLater, different, different.symm]
          · simp [atTarget, atSource, Ne.symm atTarget, Ne.symm atSource]
      · simp [same]

theorem cut_config (trie : Trie V) (id : NodeId) (node : Node V) (parts : Text.Divergence) :
    (trie.cut id node parts).config = trie.config := by
  unfold cut
  split <;> rfl

theorem cut_root (trie : Trie V) (id : NodeId) (node : Node V) (parts : Text.Divergence) :
    (trie.cut id node parts).root = trie.root := by
  unfold cut
  split <;> rfl

theorem cut_nodes (trie : Trie V) (id : NodeId) (node : Node V) (parts : Text.Divergence) :
    (trie.cut id node parts).nodes =
      Array.setIfInBounds
        (trie.nodes.push
          { fragment := parts.left, value := node.value, firstChild := node.firstChild })
        id { node with
          fragment := parts.shared, value := none, firstChild := some trie.nodes.size } := by
  unfold cut
  split <;> rfl

theorem cut_index (trie : Trie V) (id : NodeId) (node : Node V) {parts : Text.Divergence}
    {own : Char} {ownTail : Key} (left : parts.left = own :: ownTail)
    (dispatch : trie.config.dispatch = .indexed) :
    (trie.cut id node parts).index =
      (reindexChildren (trie.cut id node parts).nodes id trie.nodes.size
        ((trie.cut id node parts).nodes.siblings node.firstChild) trie.index).insert
        ⟨some id, own⟩ trie.nodes.size := by
  simp [Trie.cut, indexed, dispatch, indexChild, left]

namespace Laid

variable {trie : Trie V} {forest : Forest V} {id : NodeId} {branch : Branch V} {node : Node V}
  {parts : Text.Divergence}

theorem cut_kept (laid : trie.Laid forest) {other : NodeId} (member : other ∈ forest.ids)
    (different : other ≠ id) : (trie.cut id node parts).nodes[other]? = trie.nodes[other]? := by
  rw [cut_nodes, Array.getElem?_setIfInBounds, if_neg different.symm, Array.getElem?_push,
    if_neg (Nat.ne_of_lt (laid.holds.lt_size member))]

theorem cut_holds_children (laid : trie.Laid forest) (found : forest.branch? id = some branch) :
    (trie.cut id node parts).nodes.Holds branch.children := by
  have below := Forest.ids_sublist_of_branch found
  obtain ⟨notBelow, _⟩ := List.nodup_cons.mp (laid.distinct.sublist below)
  refine (laid.holds.branch? found).1.congr fun other member => ?_
  exact laid.cut_kept (below.subset (List.mem_cons_of_mem _ member))
    (ne_of_mem_of_not_mem member notBelow)

theorem cut_holds (laid : trie.Laid forest) (found : forest.branch? id = some branch)
    (record : trie.nodes[id]? = some node)
    (fragment : branch.fragment = parts.shared ++ parts.left) :
    (trie.cut id node parts).nodes.Holds
      (forest.alter id (Branch.cut trie.nodes.size parts.shared.length)) := by
  have bound := laid.holds.lt_size (Forest.mem_ids_of_branch found)
  obtain ⟨_, _, known⟩ := laid.holds.branch? found
  have nodeEq := Option.some.inj (record.symm.trans known)
  refine laid.holds.alter laid.distinct found ?_ ⟨?_, laid.cut_holds_children found, trivial⟩ ?_
  · exact fun other member different _ => laid.cut_kept member different
  · rw [cut_nodes, Array.getElem?_setIfInBounds, if_neg (Nat.ne_of_lt bound),
      Array.getElem?_push_size, fragment, List.drop_left, nodeEq]
    rfl
  · intro next known
    have nodeEq := Option.some.inj (record.symm.trans known)
    rw [cut_nodes, Array.getElem?_setIfInBounds, if_pos rfl, Array.size_push,
      if_pos (Nat.lt_succ_of_lt bound), nodeEq]
    simp [Branch.cut, fragment]

theorem cut_indexes (laid : trie.Laid forest) (found : forest.branch? id = some branch)
    (record : trie.nodes[id]? = some node)
    (fragment : branch.fragment = parts.shared ++ parts.left) (filled : parts.shared ≠ [])
    {own : Char} {ownTail : Key} (left : parts.left = own :: ownTail)
    (compact : branch.children.shape.Compact) :
    (trie.cut id node parts).Indexes
      (forest.alter id (Branch.cut trie.nodes.size parts.shared.length)) := by
  have index := laid.index
  unfold Indexes at index ⊢
  rw [cut_config]
  cases dispatch : trie.config.dispatch with
  | linear =>
      simp only [dispatch] at index
      simp [Trie.cut, indexed, dispatch, index]
  | indexed =>
      simp only [dispatch] at index ⊢
      intro start next
      obtain ⟨_, _, known⟩ := laid.holds.branch? found
      have nodeEq := Option.some.inj (record.symm.trans known)
      have bound := laid.holds.lt_size (Forest.mem_ids_of_branch found)
      have different : id ≠ trie.nodes.size := Nat.ne_of_lt bound
      have inner : (trie.cut id node parts).nodes.Holds branch.children :=
        laid.cut_holds_children found
      have level : (trie.cut id node parts).nodes.siblings node.firstChild =
          branch.children.top := by
        have firstChild : node.firstChild = branch.children.first := by rw [nodeEq]
        rw [firstChild]
        exact inner.siblings
          (laid.distinct.sublist (Forest.ids_sublist_of_branch found)).of_cons
      have moved : branch.fragment.drop parts.shared.length = own :: ownTail := by
        rw [fragment, List.drop_left, left]
      rw [cut_index trie id node left dispatch, level, Std.HashMap.getElem?_insert,
        getElem?_reindexChildren inner compact different,
        Forest.child_cut laid.distinct found laid.new (List.length_pos_iff.mpr filled) moved,
        index]
      simp only [beq_iff_eq, Edge.mk.injEq]
      by_cases atNode : start = some id
      · subst atNode
        have edges : forest.child (some id) next = branch.children.childWith next := by
          simp [Forest.child, found]
        rw [edges]
        by_cases same : own = next
        · simp [same]
        · cases branch.children.childWith next <;> simp [same, different]
      · by_cases atLower : start = some trie.nodes.size
        · subst atLower
          simp [different, Forest.child_of_not_mem laid.new]
        · simp [atNode, atLower, Ne.symm atNode, Ne.symm atLower]

theorem cut (laid : trie.Laid forest) (found : forest.branch? id = some branch)
    (record : trie.nodes[id]? = some node)
    (fragment : branch.fragment = parts.shared ++ parts.left) (filled : parts.shared ≠ [])
    {own : Char} {ownTail : Key} (left : parts.left = own :: ownTail)
    (compact : branch.children.shape.Compact) :
    (trie.cut id node parts).Laid
      (forest.alter id (Branch.cut trie.nodes.size parts.shared.length)) := by
  refine ⟨?_, laid.cut_holds found record fragment, ?_,
    laid.cut_indexes found record fragment filled left compact⟩
  · rw [cut_root, Forest.first_alter, laid.root]
  · rw [cut_nodes, Array.size_setIfInBounds, Array.size_push, List.range_succ]
    exact (Forest.ids_cut _ _ laid.distinct found).trans
      ((laid.ids.cons _).trans (List.perm_append_singleton _ _).symm)

end Laid

end RadixForest.Trie
