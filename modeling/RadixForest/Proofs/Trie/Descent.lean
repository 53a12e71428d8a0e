import RadixForest.Proofs.Trie.Forest
import RadixForest.Proofs.Trie.Shape

/-!
The way of a key down a forest. Where it ends decides what an insertion changes; that change grows
the shape of the forest at the key.
-/

namespace RadixForest.Trie.Forest

variable {V : Type}

def shape : Forest V → Shape V
  | nil => .nil
  | cons _ fragment value children siblings => .cons fragment value children.shape siblings.shape

def stop (parent : Option NodeId) (rest : Key) : Forest V → Stop V
  | nil => .append parent rest
  | cons id fragment value children siblings =>
    if fragment.head? = rest.head? then
      let parts := Text.diverge fragment rest
      let node : Node V := ⟨fragment, value, children.first, siblings.first⟩
      match parts.left, parts.right with
      | [], [] => .store id node
      | [], _ :: _ => children.stop (some id) parts.right
      | _ :: _, _ => .split id node parts
    else siblings.stop parent rest

/-- The key `rest` leads to the node `id`, whose fragment starts like what is left of the key. -/
inductive Leads : Forest V → Key → NodeId → Branch V → Key → Prop
  | here {id fragment value children siblings rest} : fragment.head? = rest.head? →
      Leads (cons id fragment value children siblings) rest id ⟨fragment, value, children⟩ rest
  | under {head fragment value children siblings first tail id branch left} :
      Leads children (first :: tail) id branch left →
      Leads (cons head fragment value children siblings) (fragment ++ first :: tail) id branch left
  | past {head fragment value children siblings rest id branch left} :
      fragment.head? ≠ rest.head? → Leads siblings rest id branch left →
      Leads (cons head fragment value children siblings) rest id branch left

theorem Leads.mem_ids {forest : Forest V} {rest left : Key} {id : NodeId} {branch : Branch V}
    (leads : Leads forest rest id branch left) : id ∈ forest.ids := by
  induction leads with
  | here _ => simp [ids]
  | under _ ih => simp [ids, ih]
  | past _ _ ih => simp [ids, ih]

theorem Leads.branch? {forest : Forest V} {rest left : Key} {id : NodeId} {branch : Branch V}
    (leads : Leads forest rest id branch left) (distinct : forest.ids.Nodup) :
    forest.branch? id = some branch := by
  induction leads with
  | here _ => simp [Forest.branch?]
  | under inner ih =>
      obtain ⟨⟨notBelow, _⟩, distinctBelow, _, _⟩ := ids_nodup_cons.mp distinct
      have notHead := (ne_of_mem_of_not_mem inner.mem_ids notBelow).symm
      simp [Forest.branch?, notHead, ih distinctBelow]
  | past _ inner ih =>
      obtain ⟨⟨_, notAfter⟩, _, distinctAfter, apart⟩ := ids_nodup_cons.mp distinct
      have notHead := (ne_of_mem_of_not_mem inner.mem_ids notAfter).symm
      have notBelow := fun inside => apart _ inside inner.mem_ids
      simp [Forest.branch?, notHead, branch?_eq_none notBelow, ih distinctAfter]

theorem Leads.shape_alter {forest : Forest V} {rest left : Key} {id : NodeId} {branch : Branch V}
    (leads : Leads forest rest id branch left) (distinct : forest.ids.Nodup)
    (compact : forest.shape.Compact) (change : Branch V → Branch V) (value : V)
    (grown : ∀ siblings,
      Shape.cons (change branch).fragment (change branch).value (change branch).children.shape
          siblings =
        (Shape.cons branch.fragment branch.value branch.children.shape siblings).plant left value) :
    (forest.alter id change).shape = forest.shape.plant rest value := by
  induction leads with
  | here _ =>
      rw [alter_first]
      exact grown _
  | under inner ih =>
      obtain ⟨⟨notBelow, _⟩, distinctBelow, _, apart⟩ := ids_nodup_cons.mp distinct
      have notHead := ne_of_mem_of_not_mem inner.mem_ids notBelow
      rw [alter_below change notHead (apart _ inner.mem_ids), shape, shape,
        Shape.plant_beyond compact.1, ih distinctBelow compact.2.2.2.1 grown]
  | past differs inner ih =>
      obtain ⟨⟨_, notAfter⟩, _, distinctAfter, apart⟩ := ids_nodup_cons.mp distinct
      have notHead := ne_of_mem_of_not_mem inner.mem_ids notAfter
      have notBelow := fun inside => apart _ inside inner.mem_ids
      rw [alter_after change notHead notBelow, shape, shape, Shape.plant_after differs,
        ih distinctAfter compact.2.2.2.2 grown]

theorem Leads.lookup {forest : Forest V} {rest left : Key} {id : NodeId} {branch : Branch V}
    (leads : Leads forest rest id branch left) (compact : forest.shape.Compact) :
    ∃ siblings, (Shape.cons branch.fragment branch.value branch.children.shape siblings).Compact ∧
      forest.shape.lookup rest =
        (Shape.cons branch.fragment branch.value branch.children.shape siblings).lookup left := by
  induction leads with
  | here _ => exact ⟨_, compact, rfl⟩
  | under inner ih =>
      obtain ⟨siblings, whole, found⟩ := ih compact.2.2.2.1
      refine ⟨siblings, whole, ?_⟩
      rw [shape, Shape.lookup_here, ← found]
      rfl
  | past differs inner ih =>
      obtain ⟨siblings, whole, found⟩ := ih compact.2.2.2.2
      refine ⟨siblings, whole, ?_⟩
      rw [shape, Shape.lookup_past compact.1 differs, found]

theorem childWith_eq_none {forest : Forest V} {first : Char}
    (absent : some first ∉ forest.shape.starts) : forest.childWith first = none := by
  induction forest with
  | nil => rfl
  | cons id fragment value children siblings below after =>
      simp only [shape, Shape.starts, List.mem_cons, not_or] at absent
      simp [childWith, Ne.symm absent.1, after absent.2]

theorem shape_append_leaf {level : Forest V} {key : Key} (absent : key.head? ∉ level.shape.starts)
    (fresh : NodeId) (value : V) :
    (level.append (leaf fresh key value)).shape = level.shape.plant key value := by
  induction level with
  | nil => rfl
  | cons id fragment old children siblings below after =>
      simp only [shape, Shape.starts, List.mem_cons, not_or] at absent
      rw [append, shape, shape, Shape.plant_after (Ne.symm absent.1), after absent.2]

theorem stop_past {fragment rest : Key} (differs : fragment.head? ≠ rest.head?)
    (parent : Option NodeId) (id : NodeId) (value : Option V) (children siblings : Forest V) :
    (cons id fragment value children siblings).stop parent rest = siblings.stop parent rest := by
  simp [stop, differs]

theorem stop_same (fragment : Key) (parent : Option NodeId) (id : NodeId) (value : Option V)
    (children siblings : Forest V) :
    (cons id fragment value children siblings).stop parent fragment =
      .store id ⟨fragment, value, children.first, siblings.first⟩ := by
  simp [stop, Text.diverge_self]

theorem stop_beyond {fragment : Key} (filled : fragment ≠ []) (first : Char) (tail : Key)
    (parent : Option NodeId) (id : NodeId) (value : Option V) (children siblings : Forest V) :
    (cons id fragment value children siblings).stop parent (fragment ++ first :: tail) =
      children.stop (some id) (first :: tail) := by
  simp only [stop, Text.diverge_extended_right, List.head?_append_of_ne_nil _ filled, if_true]

theorem stop_within {key : Key} (filled : key ≠ []) (first : Char) (tail : Key)
    (parent : Option NodeId) (id : NodeId) (value : Option V) (children siblings : Forest V) :
    (cons id (key ++ first :: tail) value children siblings).stop parent key =
      .split id ⟨key ++ first :: tail, value, children.first, siblings.first⟩
        ⟨key, first :: tail, []⟩ := by
  simp only [stop, Text.diverge_extended_left, List.head?_append_of_ne_nil _ filled, if_true]

theorem stop_apart {shared : Key} {own other : Char} (filled : shared ≠ [])
    (different : own ≠ other) (ownTail otherTail : Key) (parent : Option NodeId) (id : NodeId)
    (value : Option V) (children siblings : Forest V) :
    (cons id (shared ++ own :: ownTail) value children siblings).stop parent
        (shared ++ other :: otherTail) =
      .split id ⟨shared ++ own :: ownTail, value, children.first, siblings.first⟩
        ⟨shared, own :: ownTail, other :: otherTail⟩ := by
  simp only [stop, Text.diverge_fork different, List.head?_append_of_ne_nil _ filled, if_true]

theorem stop_append {forest : Forest V} (compact : forest.shape.Compact)
    {parent place : Option NodeId} {rest left : Key} (filled : rest ≠ [])
    (stops : forest.stop parent rest = .append place left) :
    left ≠ [] ∧
      ((place = parent ∧ left = rest ∧ rest.head? ∉ forest.shape.starts) ∨
        ∃ id branch, place = some id ∧ Leads forest rest id branch (branch.fragment ++ left) ∧
          left.head? ∉ branch.children.shape.starts) := by
  induction forest generalizing parent rest with
  | nil =>
      simp only [stop, Stop.append.injEq] at stops
      obtain ⟨rfl, rfl⟩ := stops
      exact ⟨filled, Or.inl ⟨rfl, rfl, by simp [shape, Shape.starts]⟩⟩
  | cons head fragment value children siblings below after =>
      obtain ⟨own, _, _, inner, later⟩ := compact
      by_cases starts : fragment.head? = rest.head?
      · cases meeting_of_head starts with
        | same _ => simp [stop_same] at stops
        | within _ own ownTail => simp [stop_within filled] at stops
        | apart shared own ownTail other otherTail sharedFilled different =>
            simp [stop_apart sharedFilled different] at stops
        | beyond _ first tail =>
            rw [stop_beyond own] at stops
            obtain ⟨leftFilled, place⟩ := below inner (List.cons_ne_nil first tail) stops
            refine ⟨leftFilled, Or.inr ?_⟩
            rcases place with ⟨placeEq, rfl, free⟩ | ⟨id, branch, placeEq, leads, free⟩
            · exact ⟨head, ⟨fragment, value, children⟩, placeEq, .here starts, free⟩
            · exact ⟨id, branch, placeEq, .under leads, free⟩
      · rw [stop_past starts] at stops
        obtain ⟨leftFilled, place⟩ := after later filled stops
        refine ⟨leftFilled, ?_⟩
        rcases place with ⟨placeEq, same, free⟩ | ⟨id, branch, placeEq, leads, free⟩
        · refine Or.inl ⟨placeEq, same, ?_⟩
          simp only [shape, Shape.starts, List.mem_cons, not_or]
          exact ⟨Ne.symm starts, free⟩
        · exact Or.inr ⟨id, branch, placeEq, .past starts leads, free⟩

theorem leads_of_split {forest : Forest V} (compact : forest.shape.Compact)
    {parent : Option NodeId} {rest : Key} {id : NodeId} {node : Node V} {parts : Text.Divergence}
    (filled : rest ≠ []) (stops : forest.stop parent rest = .split id node parts) :
    ∃ branch own ownTail, Leads forest rest id branch (parts.shared ++ parts.right) ∧
      branch.fragment = parts.shared ++ parts.left ∧ parts.shared ≠ [] ∧
      parts.left = own :: ownTail ∧ some own ≠ parts.right.head? := by
  induction forest generalizing parent rest with
  | nil => simp [stop] at stops
  | cons head fragment value children siblings below after =>
      by_cases starts : fragment.head? = rest.head?
      · cases meeting_of_head starts with
        | same _ => simp [stop_same] at stops
        | beyond _ first tail =>
            rw [stop_beyond compact.1] at stops
            obtain ⟨branch, own, ownTail, leads, facts⟩ :=
              below compact.2.2.2.1 (List.cons_ne_nil first tail) stops
            exact ⟨branch, own, ownTail, .under leads, facts⟩
        | within _ own ownTail =>
            rw [stop_within filled] at stops
            simp only [Stop.split.injEq] at stops
            obtain ⟨rfl, _, rfl⟩ := stops
            refine ⟨⟨rest ++ own :: ownTail, value, children⟩, own, ownTail, ?_, rfl, filled, rfl,
              by simp⟩
            rw [List.append_nil]
            exact .here starts
        | apart shared own ownTail other otherTail sharedFilled different =>
            rw [stop_apart sharedFilled different] at stops
            simp only [Stop.split.injEq] at stops
            obtain ⟨rfl, _, rfl⟩ := stops
            exact ⟨⟨shared ++ own :: ownTail, value, children⟩, own, ownTail, .here starts, rfl,
              sharedFilled, rfl, by simpa using different⟩
      · rw [stop_past starts] at stops
        obtain ⟨branch, own, ownTail, leads, facts⟩ := after compact.2.2.2.2 filled stops
        exact ⟨branch, own, ownTail, .past starts leads, facts⟩

theorem leads_of_store {forest : Forest V} (compact : forest.shape.Compact)
    {parent : Option NodeId} {rest : Key} {id : NodeId} {node : Node V} (filled : rest ≠ [])
    (stops : forest.stop parent rest = .store id node) :
    ∃ branch, Leads forest rest id branch branch.fragment ∧ node.value = branch.value := by
  induction forest generalizing parent rest with
  | nil => simp [stop] at stops
  | cons head fragment value children siblings below after =>
      by_cases starts : fragment.head? = rest.head?
      · cases meeting_of_head starts with
        | same _ =>
            rw [stop_same] at stops
            simp only [Stop.store.injEq] at stops
            obtain ⟨rfl, rfl⟩ := stops
            exact ⟨_, .here starts, rfl⟩
        | beyond _ first tail =>
            rw [stop_beyond compact.1] at stops
            obtain ⟨branch, leads, valueEq⟩ :=
              below compact.2.2.2.1 (List.cons_ne_nil first tail) stops
            exact ⟨branch, .under leads, valueEq⟩
        | within _ own ownTail => simp [stop_within filled] at stops
        | apart shared own ownTail other otherTail sharedFilled different =>
            simp [stop_apart sharedFilled different] at stops
      · rw [stop_past starts] at stops
        obtain ⟨branch, leads, valueEq⟩ := after compact.2.2.2.2 filled stops
        exact ⟨branch, .past starts leads, valueEq⟩

end RadixForest.Trie.Forest
