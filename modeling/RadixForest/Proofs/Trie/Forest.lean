import RadixForest.Trie.Basic

/-!
The trees that the linked nodes of a trie stand for. A change to the links of a trie has its
counterpart here, which names the node it changes.
-/

namespace RadixForest.Trie

/-- A list of trees: the first node, the trees below it, and the trees after it. -/
inductive Forest (V : Type)
  | nil
  | cons (id : NodeId) (fragment : Key) (value : Option V) (children siblings : Forest V)

structure Branch (V : Type) where
  fragment : Key
  value : Option V
  children : Forest V

namespace Forest

variable {V : Type}

def ids : Forest V → List NodeId
  | nil => []
  | cons id _ _ children siblings => id :: (children.ids ++ siblings.ids)

def top : Forest V → List NodeId
  | nil => []
  | cons id _ _ _ siblings => id :: siblings.top

def first : Forest V → Option NodeId
  | nil => none
  | cons id _ _ _ _ => some id

def branch? (target : NodeId) : Forest V → Option (Branch V)
  | nil => none
  | cons id fragment value children siblings =>
    if id = target then some ⟨fragment, value, children⟩
    else (children.branch? target).or (siblings.branch? target)

def append : Forest V → Forest V → Forest V
  | nil, more => more
  | cons id fragment value children siblings, more =>
    cons id fragment value children (siblings.append more)

def alter (target : NodeId) (change : Branch V → Branch V) : Forest V → Forest V
  | nil => nil
  | cons id fragment value children siblings =>
    if id = target then
      let changed := change ⟨fragment, value, children⟩
      cons id changed.fragment changed.value changed.children siblings
    else cons id fragment value (children.alter target change) (siblings.alter target change)

def childWith (first : Char) : Forest V → Option NodeId
  | nil => none
  | cons id fragment _ _ siblings =>
    if fragment.head? = some first then some id else siblings.childWith first

def child (forest : Forest V) (parent : Option NodeId) (first : Char) : Option NodeId :=
  match parent with
  | none => forest.childWith first
  | some id => (forest.branch? id).bind (·.children.childWith first)

def leaf (id : NodeId) (fragment : Key) (value : V) : Forest V :=
  cons id fragment (some value) nil nil

end Forest

variable {V : Type}

def Branch.adopt (more : Forest V) (branch : Branch V) : Branch V :=
  { branch with children := branch.children.append more }

def Branch.withValue (value : V) (branch : Branch V) : Branch V :=
  { branch with value := some value }

def Branch.cut (lower : NodeId) (kept : Nat) (branch : Branch V) : Branch V :=
  ⟨branch.fragment.take kept, none,
    .cons lower (branch.fragment.drop kept) branch.value branch.children .nil⟩

namespace Forest

def attach (forest : Forest V) (parent : Option NodeId) (more : Forest V) : Forest V :=
  match parent with
  | none => forest.append more
  | some id => forest.alter id (Branch.adopt more)

theorem ids_nodup_cons {head : NodeId} {fragment : Key} {value : Option V}
    {children siblings : Forest V} :
    (cons head fragment value children siblings).ids.Nodup ↔
      (head ∉ children.ids ∧ head ∉ siblings.ids) ∧ children.ids.Nodup ∧ siblings.ids.Nodup ∧
        ∀ id ∈ children.ids, id ∉ siblings.ids := by
  simp only [ids, List.nodup_cons, List.mem_append, not_or, List.nodup_append]
  constructor
  · rintro ⟨head, below, after, apart⟩
    exact ⟨head, below, after, fun id inside behind => apart id inside id behind rfl⟩
  · rintro ⟨head, below, after, apart⟩
    refine ⟨head, below, after, ?_⟩
    rintro id inside other behind rfl
    exact apart id inside behind

theorem ids_sublist_of_branch {forest : Forest V} {id : NodeId} {branch : Branch V}
    (found : forest.branch? id = some branch) :
    (id :: branch.children.ids).Sublist forest.ids := by
  induction forest with
  | nil => simp [branch?] at found
  | cons head fragment value children siblings below after =>
      simp only [branch?] at found
      split at found
      · rename_i same
        subst same
        simp only [Option.some.injEq] at found
        subst found
        exact (List.sublist_append_left _ _).cons_cons head
      · rcases Option.or_eq_some_iff.mp found with inside | ⟨_, behind⟩
        · exact ((below inside).trans (List.sublist_append_left _ _)).cons head
        · exact ((after behind).trans (List.sublist_append_right _ _)).cons head

theorem mem_ids_of_branch {forest : Forest V} {id : NodeId} {branch : Branch V}
    (found : forest.branch? id = some branch) : id ∈ forest.ids :=
  (ids_sublist_of_branch found).subset (by simp)

theorem branch?_eq_none {forest : Forest V} {id : NodeId} (absent : id ∉ forest.ids) :
    forest.branch? id = none := by
  cases found : forest.branch? id with
  | none => rfl
  | some branch => exact absurd (mem_ids_of_branch found) absent

theorem exists_branch {forest : Forest V} {id : NodeId} (member : id ∈ forest.ids) :
    ∃ branch, forest.branch? id = some branch := by
  induction forest with
  | nil => simp [ids] at member
  | cons head fragment value children siblings below after =>
      simp only [branch?]
      by_cases same : head = id
      · exact ⟨_, if_pos same⟩
      · simp only [same, if_false]
        simp only [ids, List.mem_cons, List.mem_append, Ne.symm same, false_or] at member
        by_cases inside : id ∈ children.ids
        · obtain ⟨branch, found⟩ := below inside
          exact ⟨branch, by simp [found]⟩
        · obtain ⟨branch, found⟩ := after (member.resolve_left inside)
          exact ⟨branch, by simp [branch?_eq_none inside, found]⟩

theorem top_sublist_ids (forest : Forest V) : forest.top.Sublist forest.ids := by
  induction forest with
  | nil => exact List.Sublist.refl _
  | cons head fragment value children siblings below after =>
      exact (after.trans (List.sublist_append_right _ _)).cons_cons head

theorem branch?_cons {id head : NodeId} {fragment : Key} {value : Option V}
    {children siblings : Forest V} {branch : Branch V}
    (distinct : (cons head fragment value children siblings).ids.Nodup)
    (found : (cons head fragment value children siblings).branch? id = some branch) :
    (id = head ∧ branch = ⟨fragment, value, children⟩ ∧ id ∉ children.ids ∧ id ∉ siblings.ids) ∨
    (id ≠ head ∧ children.branch? id = some branch ∧ id ∉ siblings.ids) ∨
    (id ≠ head ∧ siblings.branch? id = some branch ∧ id ∉ children.ids) := by
  obtain ⟨⟨notBelow, notAfter⟩, _, _, apart⟩ := ids_nodup_cons.mp distinct
  simp only [branch?] at found
  split at found
  · rename_i same
    subst same
    simp only [Option.some.injEq] at found
    exact Or.inl ⟨rfl, found.symm, notBelow, notAfter⟩
  · rename_i different
    rcases Option.or_eq_some_iff.mp found with inside | ⟨_, behind⟩
    · exact Or.inr (Or.inl ⟨Ne.symm different, inside, apart id (mem_ids_of_branch inside)⟩)
    · exact Or.inr (Or.inr ⟨Ne.symm different, behind,
        fun inside => apart id inside (mem_ids_of_branch behind)⟩)

theorem alter_of_not_mem {forest : Forest V} {id : NodeId} (change : Branch V → Branch V)
    (absent : id ∉ forest.ids) : forest.alter id change = forest := by
  induction forest with
  | nil => rfl
  | cons head fragment value children siblings below after =>
      simp only [ids, List.mem_cons, List.mem_append, not_or] at absent
      obtain ⟨different, notBelow, notAfter⟩ := absent
      simp only [alter, Ne.symm different, if_false, below notBelow, after notAfter]

theorem alter_first (id : NodeId) (fragment : Key) (value : Option V)
    (children siblings : Forest V) (change : Branch V → Branch V) :
    (cons id fragment value children siblings).alter id change =
      cons id (change ⟨fragment, value, children⟩).fragment
        (change ⟨fragment, value, children⟩).value
        (change ⟨fragment, value, children⟩).children siblings := by
  simp [alter]

theorem alter_below {id head : NodeId} {fragment : Key} {value : Option V}
    {children siblings : Forest V} (change : Branch V → Branch V) (different : id ≠ head)
    (notAfter : id ∉ siblings.ids) :
    (cons head fragment value children siblings).alter id change =
      cons head fragment value (children.alter id change) siblings := by
  simp only [alter, Ne.symm different, if_false, alter_of_not_mem change notAfter]

theorem alter_after {id head : NodeId} {fragment : Key} {value : Option V}
    {children siblings : Forest V} (change : Branch V → Branch V) (different : id ≠ head)
    (notBelow : id ∉ children.ids) :
    (cons head fragment value children siblings).alter id change =
      cons head fragment value children (siblings.alter id change) := by
  simp only [alter, Ne.symm different, if_false, alter_of_not_mem change notBelow]

theorem alter_alter (forest : Forest V) (id : NodeId) (change next : Branch V → Branch V) :
    (forest.alter id change).alter id next = forest.alter id (next ∘ change) := by
  induction forest with
  | nil => rfl
  | cons head fragment value children siblings below after =>
      by_cases same : head = id
      · subst same
        simp only [alter_first, Function.comp_apply]
      · simp only [alter, same, if_false, below, after]

@[simp] theorem first_nil : (nil : Forest V).first = none := rfl

@[simp] theorem first_cons (id : NodeId) (fragment : Key) (value : Option V)
    (children siblings : Forest V) :
    (cons id fragment value children siblings).first = some id := rfl

@[simp] theorem first_alter (forest : Forest V) (id : NodeId) (change : Branch V → Branch V) :
    (forest.alter id change).first = forest.first := by
  cases forest with
  | nil => rfl
  | cons head fragment value children siblings =>
      by_cases same : head = id <;> simp [alter, same]

theorem branch?_alter_self {forest : Forest V} {id : NodeId} {branch : Branch V}
    (change : Branch V → Branch V) (distinct : forest.ids.Nodup)
    (found : forest.branch? id = some branch) :
    (forest.alter id change).branch? id = some (change branch) := by
  induction forest with
  | nil => simp [branch?] at found
  | cons head fragment value children siblings below after =>
      have ⟨_, distinctBelow, distinctAfter, _⟩ := ids_nodup_cons.mp distinct
      rcases branch?_cons distinct found with
        ⟨same, rfl, _⟩ | ⟨different, inside, notAfter⟩ | ⟨different, behind, notBelow⟩
      · subst same
        simp [alter_first, branch?]
      · rw [alter_below change different notAfter]
        simp [branch?, Ne.symm different, below distinctBelow inside]
      · rw [alter_after change different notBelow]
        simp [branch?, Ne.symm different, branch?_eq_none notBelow, after distinctAfter behind]

/-- A change to a node trades the nodes below it and no others. -/
theorem ids_alter {forest : Forest V} {id : NodeId} {branch : Branch V}
    (change : Branch V → Branch V) (distinct : forest.ids.Nodup)
    (found : forest.branch? id = some branch) :
    ∃ rest, forest.ids.Perm (branch.children.ids ++ rest) ∧
      (forest.alter id change).ids.Perm ((change branch).children.ids ++ rest) := by
  induction forest with
  | nil => simp [branch?] at found
  | cons head fragment value children siblings below after =>
      have ⟨_, distinctBelow, distinctAfter, _⟩ := ids_nodup_cons.mp distinct
      rcases branch?_cons distinct found with
        ⟨same, rfl, _⟩ | ⟨different, inside, notAfter⟩ | ⟨different, behind, notBelow⟩
      · subst same
        refine ⟨id :: siblings.ids, ?_, ?_⟩
        · exact List.perm_middle.symm
        · rw [alter_first]
          exact List.perm_middle.symm
      · obtain ⟨rest, before, later⟩ := below distinctBelow inside
        rw [alter_below change different notAfter]
        refine ⟨head :: (rest ++ siblings.ids), ?_, ?_⟩
        · exact ((before.append_right _).cons head).trans
            (by rw [List.append_assoc]; exact List.perm_middle.symm)
        · exact ((later.append_right _).cons head).trans
            (by rw [List.append_assoc]; exact List.perm_middle.symm)
      · obtain ⟨rest, before, later⟩ := after distinctAfter behind
        rw [alter_after change different notBelow]
        refine ⟨head :: (children.ids ++ rest), ?_, ?_⟩
        · exact ((before.append_left _).cons head).trans ((List.perm_append_comm_assoc _ _ _).cons
            head |>.trans List.perm_middle.symm)
        · exact ((later.append_left _).cons head).trans ((List.perm_append_comm_assoc _ _ _).cons
            head |>.trans List.perm_middle.symm)

theorem branch?_alter_new {forest : Forest V} {id fresh : NodeId} {branch : Branch V}
    (change : Branch V → Branch V) (distinct : forest.ids.Nodup)
    (found : forest.branch? id = some branch) (new : fresh ∉ forest.ids) :
    (forest.alter id change).branch? fresh = (change branch).children.branch? fresh := by
  induction forest with
  | nil => simp [branch?] at found
  | cons head fragment value children siblings below after =>
      have ⟨_, distinctBelow, distinctAfter, _⟩ := ids_nodup_cons.mp distinct
      simp only [ids, List.mem_cons, List.mem_append, not_or] at new
      obtain ⟨notHead, newBelow, newAfter⟩ := new
      rcases branch?_cons distinct found with
        ⟨same, rfl, _⟩ | ⟨different, inside, notAfter⟩ | ⟨different, behind, notBelow⟩
      · subst same
        simp [alter_first, branch?, Ne.symm notHead, branch?_eq_none newAfter]
      · rw [alter_below change different notAfter]
        simp [branch?, Ne.symm notHead, below distinctBelow inside newBelow,
          branch?_eq_none newAfter]
      · rw [alter_after change different notBelow]
        simp [branch?, Ne.symm notHead, after distinctAfter behind newAfter,
          branch?_eq_none newBelow]

@[simp] theorem ids_append (forest more : Forest V) :
    (forest.append more).ids = forest.ids ++ more.ids := by
  induction forest with
  | nil => rfl
  | cons head fragment value children siblings below after => simp [append, ids, after]

@[simp] theorem branch?_append (forest more : Forest V) (id : NodeId) :
    (forest.append more).branch? id = (forest.branch? id).or (more.branch? id) := by
  induction forest with
  | nil => rfl
  | cons head fragment value children siblings below after =>
      by_cases same : head = id
      · simp [append, branch?, same]
      · simp [append, branch?, same, after, Option.or_assoc]

@[simp] theorem childWith_append (forest more : Forest V) (first : Char) :
    (forest.append more).childWith first =
      (forest.childWith first).or (more.childWith first) := by
  induction forest with
  | nil => rfl
  | cons head fragment value children siblings below after =>
      by_cases same : fragment.head? = some first
      · simp [append, childWith, same]
      · simp [append, childWith, same, after]

theorem ids_attach {forest : Forest V} (parent : Option NodeId) (more : Forest V)
    (distinct : forest.ids.Nodup) (present : ∀ id ∈ parent, id ∈ forest.ids) :
    (forest.attach parent more).ids.Perm (forest.ids ++ more.ids) := by
  cases parent with
  | none => simp [attach]
  | some id =>
      obtain ⟨branch, found⟩ := exists_branch (present id rfl)
      obtain ⟨rest, before, later⟩ := ids_alter (Branch.adopt more) distinct found
      simp only [Branch.adopt, ids_append, List.append_assoc] at later
      refine later.trans ?_
      calc
        (branch.children.ids ++ (more.ids ++ rest)).Perm
            (branch.children.ids ++ (rest ++ more.ids)) := List.perm_append_comm.append_left _
        _ = branch.children.ids ++ rest ++ more.ids := (List.append_assoc _ _ _).symm
        (branch.children.ids ++ rest ++ more.ids).Perm (forest.ids ++ more.ids) :=
          before.symm.append_right _

theorem ids_cut {forest : Forest V} {id : NodeId} {branch : Branch V} (lower : NodeId)
    (kept : Nat) (distinct : forest.ids.Nodup) (found : forest.branch? id = some branch) :
    (forest.alter id (Branch.cut lower kept)).ids.Perm (lower :: forest.ids) := by
  obtain ⟨rest, before, later⟩ := ids_alter (Branch.cut lower kept) distinct found
  simp only [Branch.cut, ids, List.append_nil, List.cons_append] at later
  exact later.trans (before.symm.cons lower)

theorem child_of_not_mem {forest : Forest V} {id : NodeId} (absent : id ∉ forest.ids)
    (first : Char) : forest.child (some id) first = none := by
  simp [child, branch?_eq_none absent]

theorem child_alter_self {forest : Forest V} {id : NodeId} {branch : Branch V}
    (change : Branch V → Branch V) (distinct : forest.ids.Nodup)
    (found : forest.branch? id = some branch) (first : Char) :
    (forest.alter id change).child (some id) first =
      (change branch).children.childWith first := by
  simp [child, branch?_alter_self change distinct found]

theorem childWith_alter (forest : Forest V) (id : NodeId) {change : Branch V → Branch V}
    (leading : ∀ branch, (change branch).fragment.head? = branch.fragment.head?) (first : Char) :
    (forest.alter id change).childWith first = forest.childWith first := by
  induction forest with
  | nil => rfl
  | cons head fragment value children siblings below after =>
      by_cases same : head = id
      · subst same
        simp only [alter_first, childWith, leading]
      · simp only [alter, same, if_false, childWith, after]

theorem child_alter_of_ne (forest : Forest V) {id : NodeId} {change : Branch V → Branch V}
    (leading : ∀ branch, (change branch).fragment.head? = branch.fragment.head?)
    {parent : Option NodeId} (different : parent ≠ some id)
    (inside : ∀ branch, ∀ other ∈ parent,
      (change branch).children.branch? other = branch.children.branch? other) (first : Char) :
    (forest.alter id change).child parent first = forest.child parent first := by
  cases parent with
  | none => exact childWith_alter forest id leading first
  | some other =>
      have notSame : other ≠ id := fun same => different (congrArg some same)
      have edges : ((forest.alter id change).branch? other).map (·.children.childWith first) =
          (forest.branch? other).map (·.children.childWith first) := by
        induction forest with
        | nil => rfl
        | cons head fragment value children siblings below after =>
            by_cases same : head = id
            · subst same
              simp [alter_first, branch?, Ne.symm notSame, inside _ other rfl]
            · by_cases atHead : head = other
              · simp [alter, branch?, atHead, notSame, childWith_alter _ _ leading]
              · simp [alter, branch?, same, atHead, Option.map_or, below, after]
      have ends := congrArg (fun found => found.bind fun target => target) edges
      simpa only [child, Option.bind_map, Function.comp_def] using ends

theorem child_attach {forest : Forest V} {parent : Option NodeId} {fresh : NodeId}
    {first : Char} (tail : Key) (value : V) (distinct : forest.ids.Nodup)
    (present : ∀ id ∈ parent, id ∈ forest.ids) (new : fresh ∉ forest.ids)
    (free : forest.child parent first = none) (start : Option NodeId) (next : Char) :
    (forest.attach parent (leaf fresh (first :: tail) value)).child start next =
      if parent = start ∧ first = next then some fresh else forest.child start next := by
  have appended {level : Forest V} (missing : level.childWith first = none) :
      (level.append (leaf fresh (first :: tail) value)).childWith next =
        if first = next then some fresh else level.childWith next := by
    by_cases same : first = next
    · subst same
      simp [missing, leaf, childWith]
    · simp [same, leaf, childWith]
  cases parent with
  | none =>
      cases start with
      | none => simpa [attach, child] using appended free
      | some id =>
          by_cases same : fresh = id
          · subst same
            simp [attach, child, branch?_eq_none new, leaf, branch?, childWith]
          · simp [attach, child, leaf, branch?, same]
  | some id =>
      obtain ⟨branch, found⟩ := exists_branch (present id rfl)
      have notBelow : fresh ∉ branch.children.ids := fun member =>
        new ((ids_sublist_of_branch found).subset (List.mem_cons_of_mem _ member))
      by_cases same : some id = start
      · subst same
        simp only [child, found, Option.bind_some] at free
        rw [attach, child_alter_self _ distinct found, Branch.adopt, appended free]
        simp [child, found]
      · simp only [same, false_and, if_false, attach]
        by_cases atFresh : start = some fresh
        · subst atFresh
          rw [child_of_not_mem new, child, branch?_alter_new _ distinct found new]
          simp [Branch.adopt, branch?_eq_none notBelow, leaf, branch?, childWith]
        · refine child_alter_of_ne forest ?_ (Ne.symm same) ?_ next
          · intro branch
            rfl
          · rintro branch other rfl
            have different : fresh ≠ other := fun same => atFresh (congrArg some same.symm)
            simp [Branch.adopt, leaf, branch?, different]

theorem child_cut {forest : Forest V} {id : NodeId} {branch : Branch V} {lower : NodeId}
    {kept : Nat} {first : Char} {tail : Key} (distinct : forest.ids.Nodup)
    (found : forest.branch? id = some branch) (new : lower ∉ forest.ids) (positive : 0 < kept)
    (moved : branch.fragment.drop kept = first :: tail) (start : Option NodeId) (next : Char) :
    (forest.alter id (Branch.cut lower kept)).child start next =
      if some id = start then (if first = next then some lower else none)
      else if some lower = start then branch.children.childWith next
      else forest.child start next := by
  by_cases atNode : some id = start
  · subst atNode
    rw [child_alter_self _ distinct found]
    simp [Branch.cut, childWith, moved]
  · simp only [atNode, if_false]
    by_cases atLower : some lower = start
    · subst atLower
      rw [child, branch?_alter_new _ distinct found new]
      simp [Branch.cut, branch?]
    · simp only [atLower, if_false]
      apply child_alter_of_ne forest _ (Ne.symm atNode)
      · rintro branch other rfl
        have different : lower ≠ other := fun same => atLower (congrArg some same)
        simp [Branch.cut, branch?, different]
      · intro branch
        cases kept with
        | zero => omega
        | succ kept => cases fragment : branch.fragment <;> simp [Branch.cut, fragment]

end Forest

end RadixForest.Trie
