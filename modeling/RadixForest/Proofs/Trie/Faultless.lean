import RadixForest.Proofs.Text.Cuts
import RadixForest.Proofs.Trie.Guarded
import RadixForest.Proofs.Trie.Rendering
import RadixForest.Proofs.Trie.Structure

/-!
No operation of a trie needs its checks. In every state that operations on an empty trie lead to,
all checks are passed, and the results are those of the operations without them.
-/

namespace RadixForest.Trie

variable {V : Type}

namespace Guarded

theorem bind_ok {α β : Type} (value : α) (next : α → Except Fault β) :
    (Except.ok value >>= next) = next value := rfl

theorem fetch_ok {arena : Arena V} {id : NodeId} {node : Node V} (known : arena[id]? = some node) :
    fetch arena id = .ok node := by
  simp [fetch, known]

theorem halves_ok {cut : Nat} {text : Key} {ends : Key × Key}
    (fits : Text.splitAtByte? cut text = some ends) : halves cut text = .ok ends := by
  simp [halves, fits]

theorem chain_ok {arena : Arena V} {level : Forest V} (holds : arena.Holds level) {fuel : Nat}
    (enough : level.top.length ≤ fuel) : chain arena fuel level.first = .ok level.top := by
  induction level generalizing fuel with
  | nil => cases fuel <;> rfl
  | cons head fragment value children siblings _ after =>
      cases fuel with
      | zero => simp [Forest.top] at enough
      | succ fuel =>
          simp only [Forest.top, List.length_cons, Nat.add_le_add_iff_right] at enough
          simp only [Forest.first_cons, chain, fetch_ok holds.1, bind_ok,
            after holds.2.2 enough, Forest.top]

theorem siblings_ok {arena : Arena V} {level : Forest V} (holds : arena.Holds level)
    (distinct : level.ids.Nodup) :
    siblings arena level.first = .ok (arena.siblings level.first) := by
  rw [holds.siblings distinct]
  exact chain_ok holds (holds.top_length_le distinct)

theorem seek_ok {arena : Arena V} {level : Forest V} (holds : arena.Holds level)
    (wanted : Node V → Bool) {fuel : Nat} (enough : level.top.length ≤ fuel) :
    seek arena wanted fuel level.first =
      .ok (level.top.find? fun id => arena[id]?.any wanted) := by
  induction level generalizing fuel with
  | nil => cases fuel <;> rfl
  | cons head fragment value children siblings _ after =>
      cases fuel with
      | zero => simp [Forest.top] at enough
      | succ fuel =>
          simp only [Forest.top, List.length_cons, Nat.add_le_add_iff_right] at enough
          have record := holds.1
          simp only [Forest.first_cons, seek, fetch_ok record, bind_ok, Forest.top]
          cases found : wanted ⟨fragment, value, children.first, siblings.first⟩ with
          | true => simp [record, found]
          | false =>
              rw [if_neg Bool.false_ne_true, after holds.2.2 enough,
                List.find?_cons_of_neg (by simp [record, found])]

end Guarded

theorem Laid.exists_level {trie : Trie V} {forest : Forest V} (laid : trie.Laid forest)
    {parent : Option NodeId} (present : ∀ id ∈ parent, id ∈ forest.ids) :
    ∃ level : Forest V, trie.levelHead parent = level.first ∧
      Guarded.levelHead trie parent = .ok level.first ∧ trie.nodes.Holds level ∧
      level.ids.Sublist forest.ids := by
  cases parent with
  | none =>
      refine ⟨forest, laid.root, ?_, laid.holds, List.Sublist.refl _⟩
      rw [Guarded.levelHead, laid.root]
  | some id =>
      obtain ⟨branch, found⟩ := Forest.exists_branch (present id rfl)
      obtain ⟨holds, next, record⟩ := laid.holds.branch? found
      refine ⟨branch.children, ?_, ?_, holds,
        List.sublist_of_cons_sublist (Forest.ids_sublist_of_branch found)⟩
      · rw [levelHead, record]
        rfl
      · rw [Guarded.levelHead, Guarded.fetch_ok record]
        rfl

namespace Laid

variable {trie : Trie V} {forest : Forest V} {parent : Option NodeId}

theorem guarded_level (laid : trie.Laid forest) (present : ∀ id ∈ parent, id ∈ forest.ids) :
    Guarded.level trie parent = .ok (trie.level parent) := by
  obtain ⟨level, head, guardedHead, holds, lower⟩ := laid.exists_level present
  rw [Guarded.level, guardedHead, Guarded.bind_ok,
    Guarded.siblings_ok holds (laid.distinct.sublist lower), Trie.level, head]

theorem guarded_seek (laid : trie.Laid forest) (present : ∀ id ∈ parent, id ∈ forest.ids)
    (wanted : Node V → Bool) :
    (do let head ← Guarded.levelHead trie parent
        Guarded.seek trie.nodes wanted trie.nodes.size head) =
      .ok ((trie.level parent).find? fun id => trie.nodes[id]?.any wanted) := by
  obtain ⟨level, head, guardedHead, holds, lower⟩ := laid.exists_level present
  have distinct := laid.distinct.sublist lower
  rw [guardedHead, Guarded.bind_ok, Guarded.seek_ok holds wanted (holds.top_length_le distinct),
    Trie.level, head, holds.siblings distinct]

theorem guarded_childSharing (laid : trie.Laid forest)
    (present : ∀ id ∈ parent, id ∈ forest.ids) (rest : Key) :
    Guarded.childSharing trie parent rest = .ok (trie.childSharing parent rest) := by
  cases rest with
  | nil => rfl
  | cons first tail =>
      cases dispatch : trie.config.dispatch with
      | indexed => simp only [Guarded.childSharing, Trie.childSharing, dispatch]
      | linear =>
          simp only [Guarded.childSharing, Trie.childSharing, dispatch]
          rw [laid.guarded_seek present]
          have same (id : NodeId) : (trie.nodes[id]?.any fun node =>
              node.fragment.head? == some first) = (trie.nodes.leading id == some first) := by
            unfold Arena.leading
            cases trie.nodes[id]? <;> rfl
          simp only [same]

end Laid

theorem record_of_matching {trie : Trie V} {parent : Option NodeId} {rest : Key} {id : NodeId}
    (chosen : trie.childMatching parent rest = some id) :
    ∃ node, trie.nodes[id]? = some node ∧ node.fragment <+: rest := by
  have spells : trie.spellsStartOf rest id := by
    cases dispatch : trie.config.dispatch with
    | linear =>
        simp only [childMatching, dispatch] at chosen
        exact List.find?_some chosen
    | indexed =>
        cases rest with
        | nil => simp [childMatching, dispatch] at chosen
        | cons first tail =>
            simp only [childMatching, dispatch] at chosen
            exact (Option.filter_eq_some_iff.mp chosen).2
  cases known : trie.nodes[id]? with
  | none => simp [spellsStartOf, known] at spells
  | some node =>
      rw [spellsStartOf_eq known] at spells
      exact ⟨node, rfl, List.isPrefixOf_iff_prefix.mp spells⟩

namespace StandsFor

variable {trie : Trie V} {forest : Forest V} {parent : Option NodeId} {rest : Key}

theorem record_of_sharing (stands : trie.StandsFor forest)
    (present : ∀ id ∈ parent, id ∈ forest.ids) {id : NodeId}
    (chosen : trie.childSharing parent rest = some id) :
    ∃ node first fragmentTail restTail, trie.nodes[id]? = some node ∧
      node.fragment = first :: fragmentTail ∧ rest = first :: restTail := by
  cases rest with
  | nil => simp [childSharing] at chosen
  | cons first tail =>
      rw [stands.childSharing_eq present] at chosen
      have leading := ((stands.child_and_leading stands.compact parent first id).mpr chosen).2
      obtain ⟨node, known, starts⟩ := Option.bind_eq_some_iff.mp leading
      obtain ⟨fragmentTail, fragment⟩ := List.head?_eq_some_iff.mp starts
      exact ⟨node, first, fragmentTail, tail, known, fragment, rfl⟩

theorem guarded_childMatching (stands : trie.StandsFor forest)
    (present : ∀ id ∈ parent, id ∈ forest.ids) (rest : Key) :
    Guarded.childMatching trie parent rest = .ok (trie.childMatching parent rest) := by
  cases dispatch : trie.config.dispatch with
  | linear =>
      simp only [Guarded.childMatching, Trie.childMatching, dispatch]
      exact stands.guarded_seek present _
  | indexed =>
      cases rest with
      | nil => simp only [Guarded.childMatching, Trie.childMatching, dispatch]
      | cons first tail =>
          simp only [Guarded.childMatching, Trie.childMatching, dispatch]
          cases entry : trie.index[Edge.mk parent first]? with
          | none => rfl
          | some id =>
              have chosen : trie.childSharing parent (first :: tail) = some id := by
                simp only [childSharing, dispatch, entry]
              obtain ⟨node, _, _, _, known, _⟩ := stands.record_of_sharing present chosen
              simp only [Guarded.fetch_ok known, Guarded.bind_ok, Option.filter_some,
                spellsStartOf_eq known]

theorem guarded_locate_step (stands : trie.StandsFor forest)
    (present : ∀ id ∈ parent, id ∈ forest.ids) {id : NodeId} {node : Node V}
    (chosen : trie.childMatching parent rest = some id) (known : trie.nodes[id]? = some node) :
    Guarded.locate trie parent rest =
      if (rest.drop node.fragment.length).isEmpty then .ok (some node)
      else Guarded.locate trie (some id) (rest.drop node.fragment.length) := by
  obtain ⟨other, same, left, rfl⟩ := record_of_matching chosen
  obtain rfl := Option.some.inj (same.symm.trans known)
  have filled := List.length_pos_iff.mpr (stands.wellFormed.filled id other known)
  have shorter : left.length < (other.fragment ++ left).length := by
    rw [List.length_append]
    omega
  rw [Guarded.locate, stands.guarded_childMatching present, chosen, List.drop_left]
  simp only [Guarded.bind_ok, Guarded.fetch_ok known,
    Guarded.halves_ok (Text.splitAtByte?_append _ _), shorter, if_true]

theorem guarded_locate (stands : trie.StandsFor forest)
    (present : ∀ id ∈ parent, id ∈ forest.ids) (rest : Key) :
    Guarded.locate trie parent rest = .ok (trie.locate parent rest) := by
  fun_induction Trie.locate trie parent rest with
  | case1 parent rest none =>
      rw [Guarded.locate, stands.guarded_childMatching present, none]
      rfl
  | case2 parent rest id chosen missing =>
      obtain ⟨node, known, _⟩ := record_of_matching chosen
      rw [known] at missing
      cases missing
  | case3 parent rest id chosen node known left whole =>
      rw [stands.guarded_locate_step present chosen known, if_pos whole]
  | case4 parent rest id chosen node known left leftover empty =>
      exact absurd (List.isEmpty_iff.mp empty) (stands.wellFormed.filled id node known)
  | case5 parent rest id chosen node known left leftover filled ih =>
      rw [stands.guarded_locate_step present chosen known, if_neg leftover]
      apply ih
      rintro _ ⟨⟩
      exact stands.mem_ids_of_record known

theorem shared_ne_nil (stands : trie.StandsFor forest)
    (present : ∀ id ∈ parent, id ∈ forest.ids) {id : NodeId} {node : Node V}
    (chosen : trie.childSharing parent rest = some id) (known : trie.nodes[id]? = some node) :
    (Text.diverge node.fragment rest).shared ≠ [] := by
  obtain ⟨other, first, _, _, same, fragment, restEq⟩ := stands.record_of_sharing present chosen
  obtain rfl := Option.some.inj (same.symm.trans known)
  simp [fragment, restEq, Text.diverge]

theorem guarded_descend_step (stands : trie.StandsFor forest)
    (present : ∀ id ∈ parent, id ∈ forest.ids) {id : NodeId} {node : Node V}
    (chosen : trie.childSharing parent rest = some id) (known : trie.nodes[id]? = some node) :
    let parts := Text.diverge node.fragment rest
    Guarded.descend trie parent rest =
      if parts.left = [] then
        if parts.right = [] then .ok (.store id node)
        else Guarded.descend trie (some id) parts.right
      else .ok (.split id node parts) := by
  intro parts
  have shared : parts.shared ≠ [] := stands.shared_ne_nil present chosen known
  have positive : Text.commonStartLength node.fragment rest ≠ 0 := by
    rw [Text.commonStartLength_eq]
    exact mt Text.eq_nil_of_utf8Length shared
  have fragmentLength : Text.utf8Length node.fragment =
      Text.commonStartLength node.fragment rest + Text.utf8Length parts.left :=
    Text.utf8Length_left node.fragment rest
  have restLength : Text.utf8Length rest =
      Text.commonStartLength node.fragment rest + Text.utf8Length parts.right :=
    Text.utf8Length_right node.fragment rest
  have shorter : parts.right.length < rest.length := by
    have whole : parts.shared ++ parts.right = rest := Text.diverge_right node.fragment rest
    have taken := List.length_pos_iff.mpr shared
    rw [← whole, List.length_append]
    omega
  rw [Guarded.descend, stands.guarded_childSharing present, chosen]
  simp only [Guarded.bind_ok, Guarded.fetch_ok known, positive, if_false,
    Guarded.halves_ok (Text.splitAtByte?_left _ _), Guarded.halves_ok (Text.splitAtByte?_right _ _)]
  by_cases left : parts.left = []
  · rw [left, Text.utf8Length] at fragmentLength
    rw [if_pos left, if_neg (by omega)]
    by_cases right : parts.right = []
    · rw [right, Text.utf8Length] at restLength
      rw [if_pos right, if_pos (by omega)]
    · have more : Text.utf8Length parts.right ≠ 0 := mt Text.eq_nil_of_utf8Length right
      rw [if_neg right, if_neg (by omega), if_pos shorter]
  · have more : Text.utf8Length parts.left ≠ 0 := mt Text.eq_nil_of_utf8Length left
    rw [if_neg left, if_pos (by omega)]

theorem guarded_descend (stands : trie.StandsFor forest)
    (present : ∀ id ∈ parent, id ∈ forest.ids) (rest : Key) :
    Guarded.descend trie parent rest = .ok (trie.descend parent rest) := by
  fun_induction Trie.descend trie parent rest with
  | case1 parent rest none =>
      rw [Guarded.descend, stands.guarded_childSharing present, none]
      rfl
  | case2 parent rest id chosen missing =>
      obtain ⟨node, _, _, _, known, _⟩ := stands.record_of_sharing present chosen
      rw [known] at missing
      cases missing
  | case3 parent rest id chosen node known parts left =>
      rw [stands.guarded_descend_step present chosen known, if_neg (by simpa using left)]
  | case4 parent rest id chosen node known parts left right =>
      rw [stands.guarded_descend_step present chosen known, if_pos (by simpa using left),
        if_pos (List.isEmpty_iff.mp right)]
  | case5 parent rest id chosen node known parts left right empty =>
      exact absurd (List.isEmpty_iff.mp empty) (stands.shared_ne_nil present chosen known)
  | case6 parent rest id chosen node known parts left right sharing ih =>
      rw [stands.guarded_descend_step present chosen known, if_pos (by simpa using left),
        if_neg (mt List.isEmpty_iff.mpr right)]
      apply ih
      rintro _ ⟨⟩
      exact stands.mem_ids_of_record known

theorem guarded_find (stands : trie.StandsFor forest) (key : Key) :
    Guarded.find trie key = .ok (trie.find key) := by
  unfold Guarded.find Trie.find
  cases trie.config.normalize key with
  | error refusal => rfl
  | ok normal =>
      have located := stands.guarded_locate (by simp : ∀ id ∈ none, id ∈ forest.ids) normal
      simp only [located, Guarded.bind_ok]
      rfl

theorem guarded_contains (stands : trie.StandsFor forest) (key : Key) :
    Guarded.contains trie key = .ok (trie.contains key) := by
  rw [Guarded.contains, stands.guarded_find, Guarded.bind_ok, Trie.contains]
  cases trie.find key <;> rfl

end StandsFor

namespace Laid

variable {trie : Trie V} {forest : Forest V}

theorem guarded_attach (laid : trie.Laid forest) {parent : Option NodeId}
    (present : ∀ id ∈ parent, id ∈ forest.ids) (fragment : Key) (value : V) :
    Guarded.attach trie parent fragment value = .ok (trie.attach parent fragment value) := by
  rw [Guarded.attach, laid.guarded_level present, Guarded.bind_ok]
  cases bearer : (trie.level parent).getLast?.or parent with
  | none => rfl
  | some id =>
      have member : id ∈ forest.ids := by
        rcases Option.or_eq_some_iff.mp bearer with last | ⟨_, own⟩
        · obtain ⟨level, head, _, holds, lower⟩ := laid.exists_level present
          have onLevel := List.mem_of_getLast? last
          rw [Trie.level, head, holds.siblings (laid.distinct.sublist lower)] at onLevel
          exact lower.subset (level.top_sublist_ids.subset onLevel)
        · exact present id own
      obtain ⟨branch, found⟩ := Forest.exists_branch member
      obtain ⟨_, _, record⟩ := laid.holds.branch? found
      simp only [Guarded.fetch_ok record, Guarded.bind_ok]

theorem guarded_cut (laid : trie.Laid forest) {id : NodeId} {branch : Branch V} {node : Node V}
    {parts : Text.Divergence} (found : forest.branch? id = some branch)
    (record : trie.nodes[id]? = some node) :
    Guarded.cut trie id node parts = .ok (trie.cut id node parts) := by
  obtain ⟨_, _, known⟩ := laid.holds.branch? found
  have firstChild : node.firstChild = branch.children.first := by
    rw [Option.some.inj (record.symm.trans known)]
  have inner : (trie.cut id node parts).nodes.Holds branch.children :=
    laid.cut_holds_children found
  have lower := List.sublist_of_cons_sublist (Forest.ids_sublist_of_branch found)
  simp only [Guarded.cut, Guarded.fetch_ok record, Guarded.bind_ok, firstChild,
    Guarded.siblings_ok inner (laid.distinct.sublist lower), ite_self]

end Laid

namespace StandsFor

variable {trie : Trie V} {forest : Forest V} {key : Key}

theorem guarded_split (stands : trie.StandsFor forest) (filled : key ≠ []) {id : NodeId}
    {node : Node V} {parts : Text.Divergence} (stops : forest.stop none key = .split id node parts)
    (value : V) :
    Guarded.split trie id node parts value = .ok (trie.split id node parts value) := by
  obtain ⟨branch, found, record, cut⟩ := stands.cut_stopped stands.compact filled stops
  have foundCut := Forest.branch?_alter_self
    (Branch.cut trie.nodes.size parts.shared.length) stands.distinct found
  rw [Guarded.split, stands.guarded_cut found record, Guarded.bind_ok, Trie.split]
  cases parts.right with
  | nil =>
      obtain ⟨_, _, recordCut⟩ := cut.holds.branch? foundCut
      simp only [Guarded.fetch_ok recordCut, Guarded.bind_ok]
  | cons first tail =>
      apply cut.guarded_attach
      rintro _ ⟨⟩
      exact Forest.mem_ids_of_branch foundCut

theorem guarded_insertNormal (stands : trie.StandsFor forest) (filled : key ≠ []) (value : V)
    (replace : Bool) :
    Guarded.insertNormal trie key value replace = .ok (trie.insertNormal key value replace) := by
  cases root : trie.root with
  | none =>
      simp only [Guarded.insertNormal, Trie.insertNormal, root]
      rw [stands.guarded_attach (by simp)]
      rfl
  | some head =>
      simp only [Guarded.insertNormal, Trie.insertNormal, root]
      rw [stands.guarded_descend (by simp), stands.descend filled, Guarded.bind_ok]
      cases stops : forest.stop none key with
      | append place rest =>
          obtain ⟨_, _, _, present, _⟩ :=
            Forest.spot_of_append stands.distinct stands.compact filled stops
          simp only [stands.guarded_attach present, Guarded.bind_ok]
      | split id node parts =>
          simp only [stands.guarded_split filled stops, Guarded.bind_ok]
      | store id node =>
          obtain ⟨branch, leads, value⟩ := Forest.leads_of_store stands.compact filled stops
          obtain ⟨_, _, record⟩ := stands.holds.branch? (leads.branch? stands.distinct)
          simp only [Guarded.fetch_ok record, Guarded.bind_ok, store, value]

theorem guarded_insert (stands : trie.StandsFor forest) (key : Key) (value : V) (replace : Bool) :
    Guarded.insert trie key value replace = .ok (trie.insert key value replace) := by
  unfold Guarded.insert Trie.insert
  cases admitted : trie.config.normalize key with
  | error refusal => rfl
  | ok normal =>
      exact stands.guarded_insertNormal (Config.ne_nil_of_normalize admitted) value replace

end StandsFor

/-! ### Walks -/

theorem Arena.visits_hom {α β : Type} {arena : Arena V} {arrange : List NodeId → List NodeId}
    {visit : α → Sight V → α} {other : β → Sight V → β} (image : α → β)
    (same : ∀ gathered sight, image (visit gathered sight) = other (image gathered) sight)
    (fuel : Nat) (stack : List Visit) (gathered : α) :
    image (arena.visits arrange visit fuel stack gathered) =
      arena.visits arrange other fuel stack (image gathered) := by
  induction fuel generalizing stack gathered with
  | zero => rfl
  | succ fuel ih =>
      match stack with
      | [] => rfl
      | ⟨id, depth⟩ :: stack =>
          simp only [Arena.visits]
          cases arena[id]? with
          | none => rfl
          | some node => rw [ih, same]

theorem walk_hom {α β : Type} {visit : α → Sight V → α} {other : β → Sight V → β} (image : α → β)
    (same : ∀ gathered sight, image (visit gathered sight) = other (image gathered) sight)
    (trie : Trie V) (arrange : List NodeId → List NodeId) (depth : Nat) (initial : α) :
    image (trie.walk arrange depth visit initial) =
      trie.walk arrange depth other (image initial) :=
  Arena.visits_hom image same _ _ initial

def Guarded.onward {α : Type} (visit : α → Sight V → Except Fault α) (gathered : Except Fault α)
    (sight : Sight V) : Except Fault α :=
  gathered.bind fun gathered => visit gathered sight

theorem Arena.visits_error {α : Type} {arena : Arena V} {arrange : List NodeId → List NodeId}
    (visit : α → Sight V → Except Fault α) (fuel : Nat) (stack : List Visit) (fault : Fault) :
    arena.visits arrange (Guarded.onward visit) fuel stack (.error fault) = .error fault :=
  (@visits_hom V Unit (Except Fault α) arena arrange (fun _ _ => ()) (Guarded.onward visit)
    (fun _ => .error fault) (fun _ _ => rfl) fuel stack ()).symm

def Forest.reached (forest : Forest V) (id : NodeId) : List NodeId :=
  (forest.branch? id).elim [] fun branch => id :: branch.children.ids

theorem Part.flatMap_reached {trie : Trie V} {forest part : Forest V}
    (sound : Part trie forest part) : part.top.flatMap forest.reached = part.ids := by
  induction part with
  | nil => rfl
  | cons head fragment value children siblings _ after =>
      rw [Forest.top, List.flatMap_cons, after sound.after, Forest.reached, sound.here]
      rfl

/-- In so many steps a walk gets through its stack. -/
structure Affordable (forest : Forest V) (fuel : Nat) (stack : List Visit) : Prop where
  present : ∀ next ∈ stack, next.id ∈ forest.ids
  enough : (stack.flatMap fun next => forest.reached next.id).length ≤ fuel

namespace Affordable

variable {trie : Trie V} {forest level : Forest V} {fuel : Nat} {next : Visit} {stack : List Visit}

theorem pile (affordable : Affordable forest fuel stack) (sound : Part trie forest level)
    {order : List NodeId} (arranged : order.Perm level.top) (depth : Nat) :
    Affordable forest (level.ids.length + fuel) (pile depth order stack) where
  present next member := by
    rw [pile_eq, List.mem_append, List.mem_map] at member
    rcases member with ⟨id, listed, rfl⟩ | later
    · have onTop := arranged.subset (List.mem_reverse.mp listed)
      exact sound.ids_subset (level.top_sublist_ids.subset onTop)
    · exact affordable.present next later
  enough := by
    have piled := (((List.reverse_perm order).trans arranged).flatMap_right
      forest.reached).length_eq
    rw [sound.flatMap_reached] at piled
    rw [pile_eq, List.flatMap_append, List.flatMap_map, List.length_append, piled]
    exact Nat.add_le_add_left affordable.enough _

theorem pop (affordable : Affordable forest fuel (next :: stack)) :
    ∃ branch left, forest.branch? next.id = some branch ∧
      fuel = branch.children.ids.length + left + 1 ∧ Affordable forest left stack := by
  obtain ⟨branch, found⟩ := Forest.exists_branch (affordable.present next List.mem_cons_self)
  have enough := affordable.enough
  rw [List.flatMap_cons, Forest.reached, found, Option.elim_some, List.length_append,
    List.length_cons] at enough
  refine ⟨branch, fuel - (branch.children.ids.length + 1), found, by omega, ?_, by omega⟩
  intro other member
  exact affordable.present other (List.mem_cons_of_mem _ member)

end Affordable

namespace StandsFor

variable {α : Type} {trie : Trie V} {forest : Forest V} {arrange : List NodeId → List NodeId}

theorem guarded_visits (stands : trie.StandsFor forest)
    (arranged : ∀ level, (arrange level).Perm level) (visit : α → Sight V → Except Fault α)
    {fuel : Nat} {stack : List Visit} (affordable : Affordable forest fuel stack) (gathered : α) :
    Guarded.visits trie.nodes arrange visit fuel stack gathered =
      trie.nodes.visits arrange (Guarded.onward visit) fuel stack (.ok gathered) := by
  induction fuel generalizing stack gathered with
  | zero =>
      cases stack with
      | nil => rfl
      | cons next stack =>
          obtain ⟨branch, left, _, steps, _⟩ := affordable.pop
          omega
  | succ fuel ih =>
      cases stack with
      | nil => rfl
      | cons next stack =>
          obtain ⟨branch, left, found, steps, later⟩ := affordable.pop
          obtain ⟨holds, _, record⟩ := stands.holds.branch? found
          have sound := stands.part.level found
          have piled := later.pile sound (arranged branch.children.top) (next.depth + 1)
          obtain rfl : fuel = branch.children.ids.length + left := Nat.succ.inj steps
          simp only [Guarded.visits, Arena.visits, record, Guarded.fetch_ok record, Guarded.bind_ok,
            holds.siblings sound.distinct, Guarded.onward, Except.bind]
          cases visit gathered ⟨next.depth, _⟩ with
          | error fault => rw [Arena.visits_error]; rfl
          | ok gathered =>
              simp only [Guarded.bind_ok, Guarded.siblings_ok holds sound.distinct,
                holds.siblings sound.distinct]
              exact ih piled gathered

theorem guarded_walk (stands : trie.StandsFor forest)
    (arranged : ∀ level, (arrange level).Perm level) (depth : Nat)
    (visit : α → Sight V → Except Fault α) (initial : α) :
    Guarded.walk trie arrange depth visit initial =
      trie.walk arrange depth (Guarded.onward visit) (.ok initial) := by
  have none : Affordable forest 0 [] := ⟨by simp, Nat.le_refl 0⟩
  have piled := none.pile stands.part (arranged forest.top) depth
  rw [Nat.add_zero, stands.length_ids] at piled
  rw [Guarded.walk, stands.guarded_level (by simp), Guarded.bind_ok, walk, stands.level_none]
  exact stands.guarded_visits arranged visit piled initial

theorem guarded_stats (stands : trie.StandsFor forest) : Guarded.stats trie = .ok trie.stats := by
  have arranged : ∀ level : List NodeId, (id level).Perm level := List.Perm.refl
  rw [Guarded.stats, stands.guarded_walk arranged, Trie.stats]
  exact
    (walk_hom (fun stats => (.ok stats : Except Fault Stats)) (fun _ _ => rfl) trie id 1 {}).symm

theorem guarded_render (stands : trie.StandsFor forest) (shown : V → String) :
    Guarded.render trie shown = (trie.render shown).mapError .panicked := by
  rw [Guarded.render, stands.guarded_walk List.reverse_perm]
  refine (walk_hom (Except.mapError Fault.panicked) (fun text sight => ?_) trie List.reverse 0
    (.ok "")).symm
  cases text with
  | error panic => rfl
  | ok text =>
      simp only [Sight.extend, Guarded.onward, Except.mapError, Except.bind]
      cases sight.line shown <;> simp [bind, Except.bind, pure, Except.pure]

end StandsFor

/-- Of all checks an operation needs only that of the formatter, and only on a path of more than
32768 nodes. With the others it comes to the same result: it finds every node that it looks for,
cuts no character, takes something off its key with every step down, and makes no more steps along
a level or through all nodes than there are nodes. -/
theorem checks_pass (config : Config) (operations : List (Operation V)) :
    let trie := ((Trie.empty config).run operations).2
    (∀ key value replace,
      Guarded.insert trie key value replace = .ok (trie.insert key value replace)) ∧
    (∀ key, Guarded.find trie key = .ok (trie.find key)) ∧
    (∀ key, Guarded.contains trie key = .ok (trie.contains key)) ∧
    Guarded.stats trie = .ok trie.stats ∧
    ∀ shown,
      (trie.stats.maxDepth ≤ 32768 →
        ∃ text, Guarded.render trie shown = .ok text ∧ trie.render shown = .ok text) ∧
      (32768 < trie.stats.maxDepth →
        Guarded.render trie shown = .error (.panicked .paddingTooWide)) := by
  intro trie
  obtain ⟨_, forest, stands, _⟩ := (run_mirrors config operations).2
  refine ⟨stands.guarded_insert, stands.guarded_find, stands.guarded_contains,
    stands.guarded_stats, fun shown => ?_⟩
  rw [stands.guarded_render, stands.render]
  constructor
  · intro shallow
    rw [if_pos shallow]
    exact ⟨_, rfl, rfl⟩
  · intro deep
    rw [if_neg (Nat.not_le.mpr deep)]
    rfl

/-- On a path of 32769 nodes the check of the formatter fails. -/
theorem check_fails_on_repeats :
    Guarded.render ((Trie.empty {}).run (repeats 32769)).2 toString =
      .error (.panicked .paddingTooWide) := by
  have deep := le_maxDepth_repeats 32769
  obtain ⟨_, _, stands, _⟩ := (run_mirrors {} (repeats 32769)).2
  rw [stands.guarded_render, stands.render, if_neg (by omega)]
  rfl

-- A node that follows itself would keep a walk going.
example :
    Guarded.stats
        { config := {}, nodes := #[⟨['a'], some 0, none, some 0⟩], root := some 0 } =
      .error (.endless 0) :=
  rfl

end RadixForest.Trie
