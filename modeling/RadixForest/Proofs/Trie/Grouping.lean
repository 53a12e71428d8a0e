import RadixForest.Proofs.Trie.Dictionary

/-!
The compressed trie of a list of bindings, grouped out of it from scratch: keys that start with the
same character share a node, which takes all that they have in common. Growing a shape by one key
after the other comes to the same.
-/

namespace RadixForest.Trie

variable {V : Type}

def sharedStart : Key → Key → Key
  | c :: left, d :: right => if c = d then c :: sharedStart left right else []
  | _, _ => []

def longestStart : List Key → Key
  | [] => []
  | key :: keys => keys.foldl sharedStart key

theorem sharedStart_eq_diverge (left right : Key) :
    sharedStart left right = (Text.diverge left right).shared := by
  fun_induction Text.diverge left right with
  | case1 c left right later ih => simp [sharedStart, ih, later]
  | case2 c left d right different => simp [sharedStart, different]
  | case3 left right notBoth =>
      cases left with
      | nil => simp [sharedStart]
      | cons c left =>
          cases right with
          | nil => simp [sharedStart]
          | cons d right => exact absurd rfl (notBoth c left d right rfl)

theorem prefix_sharedStart_iff (start left right : Key) :
    start <+: sharedStart left right ↔ start <+: left ∧ start <+: right := by
  rw [sharedStart_eq_diverge, Text.prefix_shared_iff]

theorem prefix_longestStart_iff {keys : List Key} (nonempty : keys ≠ []) (start : Key) :
    start <+: longestStart keys ↔ ∀ key ∈ keys, start <+: key := by
  obtain ⟨key, keys, rfl⟩ := List.exists_cons_of_ne_nil nonempty
  rw [longestStart]
  induction keys generalizing key with
  | nil => simp
  | cons next keys ih =>
      rw [List.foldl_cons, ih _ (List.cons_ne_nil _ _)]
      simp only [List.forall_mem_cons, prefix_sharedStart_iff, and_assoc]

theorem longestStart_starts {keys : List Key} {key : Key} (member : key ∈ keys) :
    longestStart keys <+: key :=
  (prefix_longestStart_iff (List.ne_nil_of_mem member) _).mp List.prefix_rfl key member

theorem eq_of_same_prefixes {left right : Key}
    (same : ∀ start, start <+: left ↔ start <+: right) : left = right := by
  have inside := (same left).mp List.prefix_rfl
  have outside := (same right).mpr List.prefix_rfl
  exact inside.eq_of_length_le outside.length_le

theorem longestStart_map_append (start : Key) {keys : List Key} (nonempty : keys ≠ []) :
    longestStart (keys.map (start ++ ·)) = start ++ longestStart keys := by
  obtain ⟨key, keys, rfl⟩ := List.exists_cons_of_ne_nil nonempty
  simp only [List.map_cons, longestStart]
  induction keys generalizing key with
  | nil => rfl
  | cons next keys ih =>
      have step : sharedStart (start ++ key) (start ++ next) = start ++ sharedStart key next := by
        simp only [sharedStart_eq_diverge, Text.diverge_append]
      rw [List.map_cons, List.foldl_cons, List.foldl_cons, step]
      exact ih _ (List.cons_ne_nil _ _)

/-! ### Lists of bindings -/

namespace Bindings

def keys (bindings : Bindings V) : List Key := bindings.map Prod.fst

theorem mem_keys_iff (bindings : Bindings V) (key : Key) :
    key ∈ bindings.keys ↔ (bindings.lookup key).isSome := by
  induction bindings with
  | nil => simp [keys]
  | cons first rest ih =>
      obtain ⟨bound, value⟩ := first
      rw [keys, List.map_cons, List.mem_cons, lookup_cons]
      by_cases same : bound = key
      · simp [same]
      · simp [same, Ne.symm same, ← ih, keys]

def alike (key : Key) (bindings : Bindings V) : Bindings V :=
  bindings.filter fun binding => binding.1.head? = key.head?

def others (key : Key) (bindings : Bindings V) : Bindings V :=
  bindings.filter fun binding => binding.1.head? ≠ key.head?

def below (fragment : Key) (bindings : Bindings V) : Bindings V :=
  (bindings.filter fun binding => binding.1 ≠ fragment).map fun binding =>
    (binding.1.drop fragment.length, binding.2)

def under (start : Key) (bindings : Bindings V) : Bindings V :=
  bindings.map fun binding => (start ++ binding.1, binding.2)

def extent : Bindings V → Nat
  | [] => 0
  | (key, _) :: rest => key.length + 1 + extent rest

theorem mem_keys_put (key : Key) (value : V) (bindings : Bindings V) (other : Key) :
    other ∈ (put key value bindings).keys ↔ other = key ∨ other ∈ bindings.keys := by
  induction bindings with
  | nil => simp [put, keys]
  | cons first rest ih =>
      obtain ⟨bound, old⟩ := first
      simp only [keys, List.map_cons, List.mem_cons] at ih ⊢
      by_cases here : bound = key
      · simp [put, here]
      · simp only [put, here, if_false, List.map_cons, List.mem_cons, ih]
        exact or_left_comm

theorem put_of_absent {key : Key} {bindings : Bindings V} (absent : key ∉ bindings.keys)
    (value : V) : put key value bindings = bindings ++ [(key, value)] := by
  induction bindings with
  | nil => rfl
  | cons first rest ih =>
      simp only [keys, List.map_cons, List.mem_cons, not_or] at absent ih
      simp [put, Ne.symm absent.1, ih absent.2]

theorem filter_put (keep : Key → Bool) (key : Key) (value : V) (bindings : Bindings V) :
    (put key value bindings).filter (fun binding => keep binding.1) =
      if keep key then put key value (bindings.filter fun binding => keep binding.1)
      else bindings.filter fun binding => keep binding.1 := by
  induction bindings with
  | nil => cases kept : keep key <;> simp [put, kept]
  | cons first rest ih =>
      obtain ⟨bound, old⟩ := first
      by_cases here : bound = key
      · subst here
        cases kept : keep bound <;> simp [put, kept]
      · simp only [put, here, if_false, List.filter_cons, ih]
        cases kept : keep key <;> cases stays : keep bound <;> simp [put, here]

theorem head_keys_put (key : Key) (value : V) (first : Key) (old : V) (rest : Bindings V) :
    ∃ now later, put key value ((first, old) :: rest) = (first, now) :: later := by
  by_cases here : first = key
  · exact ⟨value, rest, by simp [put, here]⟩
  · exact ⟨old, put key value rest, by simp [put, here]⟩

theorem exists_under {start : Key} (bindings : Bindings V)
    (starts : ∀ key ∈ bindings.keys, start <+: key) : ∃ inner, bindings = under start inner := by
  induction bindings with
  | nil => exact ⟨[], rfl⟩
  | cons first rest ih =>
      simp only [keys, List.map_cons, List.forall_mem_cons] at starts ih
      obtain ⟨bound, value⟩ := first
      obtain ⟨⟨left, rfl⟩, later⟩ := starts
      obtain ⟨inner, rfl⟩ := ih later
      exact ⟨(left, value) :: inner, rfl⟩

theorem keys_under (start : Key) (bindings : Bindings V) :
    (under start bindings).keys = bindings.keys.map (start ++ ·) := by
  simp [keys, under]

theorem longestStart_under (start : Key) {bindings : Bindings V} (nonempty : bindings ≠ []) :
    longestStart (under start bindings).keys = start ++ longestStart bindings.keys := by
  rw [keys_under, longestStart_map_append start (by simpa [keys] using nonempty)]

theorem under_append (start more : Key) (bindings : Bindings V) :
    under (start ++ more) bindings = under start (under more bindings) := by
  simp [under]

theorem put_under (start rest : Key) (value : V) (bindings : Bindings V) :
    put (start ++ rest) value (under start bindings) = under start (put rest value bindings) := by
  induction bindings with
  | nil => rfl
  | cons first later ih =>
      obtain ⟨bound, old⟩ := first
      simp only [under] at ih
      by_cases here : bound = rest
      · simp [put, under, here]
      · simp [put, under, here, ih]

theorem lookup_under (start rest : Key) (bindings : Bindings V) :
    (under start bindings).lookup (start ++ rest) = bindings.lookup rest := by
  induction bindings with
  | nil => rfl
  | cons first later ih =>
      obtain ⟨bound, value⟩ := first
      simp only [under] at ih
      simp only [under, List.map_cons, lookup_cons, List.append_cancel_left_eq, ih]

theorem lookup_under_self (start : Key) (bindings : Bindings V) :
    (under start bindings).lookup start = bindings.lookup [] := by
  have inside := lookup_under start [] bindings
  rwa [List.append_nil] at inside

theorem lookup_under_nil {start : Key} (filled : start ≠ []) (bindings : Bindings V) :
    (under start bindings).lookup [] = none := by
  apply List.lookup_eq_none_iff.mpr
  intro binding member
  obtain ⟨inside, _, rfl⟩ := List.mem_map.mp member
  simp [filled]

theorem filter_under {start : Key} (filled : start ≠ []) (bindings : Bindings V) :
    ((under start bindings).filter fun binding => binding.1 ≠ []) = under start bindings := by
  apply List.filter_eq_self.mpr
  intro binding member
  obtain ⟨inside, _, rfl⟩ := List.mem_map.mp member
  simp [filled]

theorem below_under (start : Key) (bindings : Bindings V) :
    below start (under start bindings) = bindings.filter fun binding => binding.1 ≠ [] := by
  induction bindings with
  | nil => rfl
  | cons first later ih =>
      obtain ⟨bound, value⟩ := first
      simp only [below, under] at ih
      cases bound with
      | nil => simpa [below, under] using ih
      | cons c rest => simpa [below, under] using ih

theorem below_put_self (key : Key) (value : V) (bindings : Bindings V) :
    below key (put key value bindings) = below key bindings := by
  have dropped := filter_put (fun other => other ≠ key) key value bindings
  rw [below, dropped]
  simp [below]

theorem filter_nonempty_put {rest : Key} (nonempty : rest ≠ []) (value : V)
    (bindings : Bindings V) :
    ((put rest value bindings).filter fun binding => binding.1 ≠ []) =
      put rest value (bindings.filter fun binding => binding.1 ≠ []) := by
  have kept := filter_put (fun other => other ≠ []) rest value bindings
  rw [kept, if_pos (by simpa using nonempty)]

theorem extent_filter_le (keep : Key × V → Bool) (bindings : Bindings V) :
    extent (bindings.filter keep) ≤ extent bindings := by
  induction bindings with
  | nil => simp
  | cons first rest ih =>
      rw [List.filter_cons]
      split
      · simp only [extent]
        omega
      · simp only [extent]
        omega

theorem extent_under (start : Key) (bindings : Bindings V) :
    extent (under start bindings) = extent bindings + start.length * bindings.length := by
  induction bindings with
  | nil => simp [under, extent]
  | cons first rest ih =>
      have step : under start (first :: rest) =
          (start ++ first.1, first.2) :: under start rest := rfl
      simp only [step, extent, ih, List.length_append, List.length_cons, Nat.mul_succ]
      omega

theorem exists_group (key : Key) (value : V) (rest : Bindings V) :
    ∃ inner, alike key ((key, value) :: rest) =
        under (longestStart (alike key ((key, value) :: rest)).keys) inner ∧
      inner ≠ [] ∧ longestStart inner.keys = [] := by
  obtain ⟨inner, group⟩ := exists_under (alike key ((key, value) :: rest))
    fun other member => longestStart_starts member
  have nonempty : inner ≠ [] := by
    rintro rfl
    simp [alike, under] at group
  refine ⟨inner, group, nonempty, ?_⟩
  have start := congrArg (fun bindings : Bindings V => longestStart bindings.keys) group
  exact List.self_eq_append_right.mp (start.trans (longestStart_under _ nonempty))

theorem head_longestStart (key : Key) (value : V) (rest : Bindings V) :
    (longestStart (alike key ((key, value) :: rest)).keys).head? = key.head? := by
  have member : key ∈ (alike key ((key, value) :: rest)).keys := by simp [alike, keys]
  cases key with
  | nil => simp [List.prefix_nil.mp (longestStart_starts member)]
  | cons c tail =>
      have starts : [c] <+: longestStart (alike (c :: tail) ((c :: tail, value) :: rest)).keys := by
        rw [prefix_longestStart_iff (List.ne_nil_of_mem member)]
        intro other otherMember
        obtain ⟨binding, kept, rfl⟩ := List.mem_map.mp otherMember
        have same : binding.1.head? = some c :=
          of_decide_eq_true (List.mem_filter.mp kept).2
        obtain ⟨otherTail, whole⟩ := List.head?_eq_some_iff.mp same
        simp [whole]
      obtain ⟨left, whole⟩ := starts
      simp [← whole]

theorem extent_below_lt (key : Key) (value : V) (rest : Bindings V) :
    extent (below (longestStart (alike key ((key, value) :: rest)).keys)
        (alike key ((key, value) :: rest))) <
      extent ((key, value) :: rest) := by
  obtain ⟨inner, group, nonempty, _⟩ := exists_group key value rest
  have head := head_longestStart key value rest
  have whole : extent (alike key ((key, value) :: rest)) ≤ extent ((key, value) :: rest) :=
    extent_filter_le _ _
  generalize longestStart (alike key ((key, value) :: rest)).keys = fragment at group head
  have left : extent (inner.filter fun binding => binding.1 ≠ []) ≤ extent inner :=
    extent_filter_le _ _
  have size := extent_under fragment inner
  rw [← group] at size
  rw [group, below_under]
  cases fragment with
  | nil =>
      -- Only empty keys share nothing, and none of them is left.
      have noKey : key.head? = none := head.symm
      have noneLeft : (inner.filter fun binding => binding.1 ≠ []) = [] := by
        apply List.filter_eq_nil_iff.mpr
        intro binding member
        have inGroup : binding ∈ alike key ((key, value) :: rest) := by
          rw [group]
          simpa [under] using member
        have start := of_decide_eq_true (List.mem_filter.mp inGroup).2
        rw [noKey, List.head?_eq_none_iff] at start
        simp [start]
      rw [noneLeft]
      simp only [extent]
      omega
  | cons c tail =>
      have positive := List.length_pos_iff.mpr nonempty
      have more : 0 < (c :: tail).length * inner.length := Nat.mul_pos (by simp) positive
      omega

theorem extent_others_lt (key : Key) (value : V) (rest : Bindings V) :
    extent (others key ((key, value) :: rest)) < extent ((key, value) :: rest) := by
  have dropped : others key ((key, value) :: rest) = others key rest := by simp [others]
  have shorter : extent (others key rest) ≤ extent rest := extent_filter_le _ rest
  rw [dropped]
  simp only [extent]
  omega

end Bindings

/-- The compressed trie of a list of bindings. Keys that start alike become one node, in the order
in which their groups first appear. -/
def grouped : Bindings V → Shape V
  | [] => .nil
  | (key, value) :: rest =>
    let bindings : Bindings V := (key, value) :: rest
    let group := bindings.alike key
    let fragment := longestStart group.keys
    .cons fragment (group.lookup fragment) (grouped (group.below fragment))
      (grouped (bindings.others key))
termination_by bindings => bindings.extent
decreasing_by
  · exact Bindings.extent_below_lt key value rest
  · exact Bindings.extent_others_lt key value rest

/-! ### Growing a grouped shape -/

namespace Bindings

variable {bindings : Bindings V} {key : Key}

theorem longestStart_put (nonempty : bindings ≠ []) (key : Key) (value : V) :
    longestStart (put key value bindings).keys = sharedStart (longestStart bindings.keys) key := by
  have some : bindings.keys ≠ [] := by simpa [keys] using nonempty
  have someAfter : (put key value bindings).keys ≠ [] :=
    List.ne_nil_of_mem ((mem_keys_put key value bindings key).mpr (Or.inl rfl))
  apply eq_of_same_prefixes
  intro start
  rw [prefix_longestStart_iff someAfter, prefix_sharedStart_iff, prefix_longestStart_iff some]
  constructor
  · intro starts
    exact ⟨fun other member => starts other ((mem_keys_put _ _ _ _).mpr (Or.inr member)),
      starts key ((mem_keys_put _ _ _ _).mpr (Or.inl rfl))⟩
  · rintro ⟨others, own⟩ other member
    rcases (mem_keys_put _ _ _ _).mp member with rfl | before
    · exact own
    · exact others other before

theorem alike_put (first : Key) (value : V) :
    alike first (put key value bindings) =
      if key.head? = first.head? then put key value (alike first bindings)
      else alike first bindings := by
  have kept := filter_put (fun other => other.head? = first.head?) key value bindings
  simpa [alike] using kept

theorem others_put (first : Key) (value : V) :
    others first (put key value bindings) =
      if key.head? = first.head? then others first bindings
      else put key value (others first bindings) := by
  have kept := filter_put (fun other => other.head? ≠ first.head?) key value bindings
  by_cases same : key.head? = first.head? <;> simpa [others, same] using kept

end Bindings

def tree (group : Bindings V) (siblings : Shape V) : Shape V :=
  .cons (longestStart group.keys) (group.lookup (longestStart group.keys))
    (grouped (group.below (longestStart group.keys))) siblings

theorem grouped_cons (key : Key) (value : V) (rest : Bindings V) :
    grouped ((key, value) :: rest) =
      tree (Bindings.alike key ((key, value) :: rest))
        (grouped (Bindings.others key ((key, value) :: rest))) := by
  rw [grouped, tree]

section Groups

variable {own : Key} {inner : Bindings V} (nonempty : inner ≠ [])
  (free : longestStart inner.keys = [])
include nonempty free

theorem tree_under (own : Key) (siblings : Shape V) :
    tree (inner.under own) siblings =
      .cons own (inner.lookup []) (grouped (inner.filter fun binding => binding.1 ≠ []))
        siblings := by
  have fragment : longestStart (inner.under own).keys = own := by
    rw [Bindings.longestStart_under own nonempty, free, List.append_nil]
  rw [tree, fragment, Bindings.lookup_under_self, Bindings.below_under]

theorem grouped_group (more : Bindings V) (filled : own ≠ [])
    (apart : ∀ key ∈ more.keys, key.head? ≠ own.head?) :
    grouped (inner.under own ++ more) =
      .cons own (inner.lookup []) (grouped (inner.filter fun binding => binding.1 ≠ []))
        (grouped more) := by
  have inside : ∀ binding ∈ inner.under own, binding.1.head? = own.head? := by
    intro binding member
    obtain ⟨below, _, rfl⟩ := List.mem_map.mp member
    exact List.head?_append_of_ne_nil _ filled
  have outside : ∀ binding ∈ more, binding.1.head? ≠ own.head? := fun binding member =>
    apart binding.1 (List.mem_map_of_mem member)
  have alike : Bindings.alike own (inner.under own ++ more) = inner.under own := by
    rw [Bindings.alike, List.filter_append, List.filter_eq_self.mpr (by simpa using inside),
      List.filter_eq_nil_iff.mpr (by simpa using outside), List.append_nil]
  have others : Bindings.others own (inner.under own ++ more) = more := by
    rw [Bindings.others, List.filter_append, List.filter_eq_nil_iff.mpr (by simpa using inside),
      List.filter_eq_self.mpr (by simpa using outside), List.nil_append]
  rw [← tree_under nonempty free own (grouped more)]
  obtain ⟨⟨first, value⟩, rest, rfl⟩ := List.exists_cons_of_ne_nil nonempty
  have start : Bindings.under own ((first, value) :: rest) ++ more =
      (own ++ first, value) :: (Bindings.under own rest ++ more) := rfl
  have head : (own ++ first).head? = own.head? := List.head?_append_of_ne_nil _ filled
  rw [start, grouped_cons, ← start, Bindings.alike, Bindings.others, head, ← Bindings.alike,
    ← Bindings.others, alike, others]

end Groups

theorem grouped_single {key : Key} (filled : key ≠ []) (value : V) :
    grouped [(key, value)] = .cons key (some value) .nil .nil := by
  have inner : ([([], value)] : Bindings V) ≠ [] := by simp
  have alone := grouped_group inner rfl [] filled (by simp [Bindings.keys])
  simpa [Bindings.under, grouped] using alone

theorem tree_put {fragment key : Key} {inner : Bindings V} (filled : fragment ≠ [])
    (nonempty : inner ≠ []) (free : longestStart inner.keys = []) (keyFilled : key ≠ [])
    (starts : fragment.head? = key.head?) (value : V) (siblings : Shape V)
    (below : ∀ {rest : Key}, rest ≠ [] →
      grouped (Bindings.put rest value (inner.filter fun binding => binding.1 ≠ [])) =
        (grouped (inner.filter fun binding => binding.1 ≠ [])).plant rest value) :
    tree (Bindings.put key value (inner.under fragment)) siblings =
      (tree (inner.under fragment) siblings).plant key value := by
  have group : inner.under fragment ≠ [] := by simpa [Bindings.under] using nonempty
  have whole : longestStart (inner.under fragment).keys = fragment := by
    rw [Bindings.longestStart_under fragment nonempty, free, List.append_nil]
  rw [tree_under nonempty free, tree, Bindings.longestStart_put group, whole,
    sharedStart_eq_diverge, Bindings.lookup_put]
  cases meeting_of_head starts with
  | same _ =>
      rw [Text.diverge_self, Bindings.below_put_self, Bindings.below_under, if_pos rfl,
        Shape.plant_same]
  | beyond _ first tail =>
      rw [Text.diverge_extended_right, Bindings.put_under, Bindings.below_under,
        Bindings.filter_nonempty_put (List.cons_ne_nil first tail), if_neg (by simp),
        Bindings.lookup_under_self, below (List.cons_ne_nil first tail), Shape.plant_beyond filled]
  | within _ first tail =>
      have inside := grouped_group nonempty free [] (List.cons_ne_nil first tail)
        (by simp [Bindings.keys])
      rw [List.append_nil] at inside
      rw [Text.diverge_extended_left, Bindings.below_put_self, if_pos rfl, Bindings.under_append,
        Bindings.below_under, Bindings.filter_under (by simp), inside,
        Shape.plant_within keyFilled, grouped]
  | apart shared own ownTail other otherTail sharedFilled different =>
      have inside := grouped_group nonempty free [(other :: otherTail, value)]
        (List.cons_ne_nil own ownTail) (by simp [Bindings.keys, different.symm])
      have absent : other :: otherTail ∉ (inner.under (own :: ownTail)).keys := by
        rw [Bindings.keys_under]
        simp [different]
      rw [Text.diverge_fork different, Bindings.under_append, Bindings.put_under,
        Bindings.below_under, Bindings.filter_nonempty_put (by simp),
        Bindings.filter_under (by simp), Bindings.put_of_absent absent, inside,
        if_neg (by simp), Bindings.lookup_under_self, Bindings.lookup_under_nil (by simp),
        grouped_single (by simp),
        Shape.plant_apart sharedFilled different]

/-- Grouping one more binding grows the shape at its key. -/
theorem grouped_put (bindings : Bindings V) (filled : ∀ key ∈ bindings.keys, key ≠ []) {key : Key}
    (nonempty : key ≠ []) (value : V) :
    grouped (bindings.put key value) = (grouped bindings).plant key value := by
  induction bindings using grouped.induct generalizing key with
  | case1 =>
      rw [grouped]
      exact grouped_single nonempty value
  | case2 first old rest bindings group fragment below =>
      rename_i after
      -- The first key stays the first, so it leads the same group before and after.
      obtain ⟨now, later, putEq⟩ := Bindings.head_keys_put key value first old rest
      rw [grouped_cons, putEq, grouped_cons, ← putEq, Bindings.alike_put, Bindings.others_put]
      have head : fragment.head? = first.head? := Bindings.head_longestStart first old rest
      by_cases starts : key.head? = first.head?
      · obtain ⟨inner, groupEq, some, free⟩ := Bindings.exists_group first old rest
        have fragmentFilled : fragment ≠ [] := by
          intro empty
          rw [empty, List.head?_nil, eq_comm, List.head?_eq_none_iff] at head
          exact filled first (by simp [Bindings.keys]) head
        have belowEq : group.below fragment = inner.filter fun binding => binding.1 ≠ [] := by
          rw [← Bindings.below_under fragment inner, ← groupEq]
        rw [belowEq] at below
        rw [if_pos starts, if_pos starts, groupEq]
        exact tree_put fragmentFilled some free nonempty (head.trans starts.symm) value _
          (below (by simp [Bindings.keys]))
      · have othersFilled : ∀ other ∈ (bindings.others first).keys, other ≠ [] := by
          intro other member
          obtain ⟨binding, kept, rfl⟩ := List.mem_map.mp member
          exact filled binding.1 (List.mem_map_of_mem (List.mem_filter.mp kept).1)
        rw [if_neg starts, if_neg starts, after othersFilled nonempty, tree, tree,
          Shape.plant_after (by rw [← head] at starts; exact Ne.symm starts)]

theorem Filled.keys_ne_nil {shape : Shape V} {bindings : Bindings V}
    (filled : Filled shape bindings) : ∀ key ∈ bindings.keys, key ≠ [] := by
  induction filled with
  | empty => simp [Bindings.keys]
  | put key value nonempty _ ih =>
      intro other member
      rcases (Bindings.mem_keys_put key value _ other).mp member with rfl | before
      · exact nonempty
      · exact ih other before

theorem Filled.eq_grouped {shape : Shape V} {bindings : Bindings V}
    (filled : Filled shape bindings) : shape = grouped bindings := by
  induction filled with
  | empty => rw [grouped]
  | put key value nonempty before ih =>
      rw [grouped_put _ before.keys_ne_nil nonempty, ih]

end RadixForest.Trie
