import Mathlib.Data.List.Nodup
import RadixForest.Proofs.Trie.Shape

/-!
The paths of a compact shape, one for each node. Which there are depends on the keys alone: a path
is a key, or the place where two keys part. So do all measures of a shape, whatever the order of
siblings.
-/

namespace RadixForest.Trie

def prefixes : Key → List Key
  | [] => []
  | c :: rest => [c] :: (prefixes rest).map (c :: ·)

def lastBytes (key : Key) : Nat := key.getLast?.elim 0 Char.utf8Size

def weight : List Key → Nat
  | [] => 0
  | key :: keys => lastBytes key + weight keys

namespace Shape

variable {V : Type}

def collect (own : Key → List Key) : Shape V → List Key
  | nil => []
  | cons fragment _ children siblings =>
    own fragment ++ ((children.collect own).map (fragment ++ ·) ++ siblings.collect own)

def paths (shape : Shape V) : List Key := shape.collect fun fragment => [fragment]

def spelled (shape : Shape V) : List Key := shape.collect prefixes

def height (above : Nat) : Shape V → Nat
  | nil => 0
  | cons _ _ children siblings =>
    max (above + 1) (max (children.height (above + 1)) (siblings.height above))

def bytes : Shape V → Nat
  | nil => 0
  | cons fragment _ children siblings =>
    Text.utf8Length fragment + children.bytes + siblings.bytes

def Binds (shape : Shape V) (key : Key) : Prop := (shape.lookup key).isSome

def Forks (shape : Shape V) (start : Key) : Prop :=
  ∃ c left d right, c ≠ d ∧ shape.Binds (start ++ c :: left) ∧ shape.Binds (start ++ d :: right)

section Keys

variable {fragment : Key} {value : Option V} {children siblings : Shape V}

theorem not_binds_of_start {shape : Shape V} (compact : shape.Compact) {key : Key}
    (absent : key.head? ∉ shape.starts) : ¬ shape.Binds key := by
  simp [Binds, lookup_of_start compact absent]

theorem binds_here : (cons fragment value children siblings).Binds fragment ↔ value.isSome := by
  have here := lookup_here fragment [] value children siblings
  rw [List.append_nil] at here
  rw [Binds, here, List.isEmpty_nil, if_pos rfl]

theorem binds_behind {rest : Key} (filled : rest ≠ []) :
    (cons fragment value children siblings).Binds (fragment ++ rest) ↔ children.Binds rest := by
  rw [Binds, lookup_here, if_neg (mt List.isEmpty_iff.mp filled), Binds]

theorem binds_elsewhere (filled : fragment ≠ []) {key : Key}
    (differs : fragment.head? ≠ key.head?) :
    (cons fragment value children siblings).Binds key ↔ siblings.Binds key := by
  rw [Binds, lookup_past filled differs, Binds]

theorem prefix_of_binds (compact : (cons fragment value children siblings).Compact) {key : Key}
    (same : fragment.head? = key.head?)
    (binds : (cons fragment value children siblings).Binds key) : fragment <+: key := by
  by_contra off
  rw [Binds, lookup_after off] at binds
  exact not_binds_of_start compact.2.2.2.2 (same ▸ compact.2.1) binds

theorem ne_nil_of_binds {shape : Shape V} (compact : shape.Compact) {key : Key}
    (binds : shape.Binds key) : key ≠ [] := by
  rintro rfl
  induction shape with
  | nil => cases binds
  | cons fragment value children siblings below after =>
      have off : fragment.head? ≠ ([] : Key).head? := by simpa using compact.1
      exact after compact.2.2.2.2 ((binds_elsewhere compact.1 off).mp binds)

theorem exists_binds {shape : Shape V} (compact : shape.Compact) {start : Option Char}
    (present : start ∈ shape.starts) : ∃ key, shape.Binds key ∧ key.head? = start := by
  induction shape generalizing start with
  | nil => cases present
  | cons fragment value children siblings below after =>
      have ⟨own, notAfter, branching, inner, later⟩ := compact
      rcases List.mem_cons.mp present with rfl | elsewhere
      · cases value with
        | some stored => exact ⟨fragment, binds_here.mpr rfl, rfl⟩
        | none =>
            have some := List.length_pos_iff.mp (Nat.lt_of_lt_of_le Nat.one_pos
              (Nat.le_of_succ_le (branching rfl)))
            obtain ⟨key, binds, _⟩ := below inner (List.head_mem some)
            refine ⟨fragment ++ key, ?_, List.head?_append_of_ne_nil _ own⟩
            exact (binds_behind (ne_nil_of_binds inner binds)).mpr binds
      · obtain ⟨key, binds, rfl⟩ := after later elsewhere
        have differs : fragment.head? ≠ key.head? := fun same => notAfter (same ▸ elsewhere)
        exact ⟨key, (binds_elsewhere own differs).mpr binds, rfl⟩

theorem forks_of_two {shape : Shape V} (compact : shape.Compact)
    (two : 2 ≤ shape.starts.length) :
    ∃ c left d right, c ≠ d ∧ shape.Binds (c :: left) ∧ shape.Binds (d :: right) := by
  match shape with
  | .cons one _ _ (.cons other _ _ _) =>
      have ⟨oneFilled, notAfter, _, _, otherFilled, _⟩ := compact
      obtain ⟨left, leftBinds, leftHead⟩ :=
        exists_binds compact List.mem_cons_self
      obtain ⟨right, rightBinds, rightHead⟩ :=
        exists_binds compact (List.mem_cons_of_mem _ List.mem_cons_self)
      cases one with
      | nil => exact absurd rfl oneFilled
      | cons c _ =>
          cases other with
          | nil => exact absurd rfl otherFilled
          | cons d _ =>
              obtain ⟨leftTail, rfl⟩ := List.head?_eq_some_iff.mp leftHead
              obtain ⟨rightTail, rfl⟩ := List.head?_eq_some_iff.mp rightHead
              refine ⟨c, leftTail, d, rightTail, ?_, leftBinds, rightBinds⟩
              rintro rfl
              exact notAfter (by simp [starts])
  | .cons _ _ _ .nil => simp [starts] at two
  | .nil => simp [starts] at two

end Keys

/-! ### Collecting -/

theorem head_eq_of_starts {start path : Key} (filled : start ≠ []) (starts : start <+: path) :
    start.head? = path.head? := by
  obtain ⟨rest, rfl⟩ := starts
  exact (List.head?_append_of_ne_nil _ filled).symm

section Collect

variable {own : Key → List Key}
  (inside : ∀ fragment, fragment ≠ [] → ∀ start ∈ own fragment, start ≠ [] ∧ start <+: fragment)

include inside

theorem head_of_mem_collect {shape : Shape V} (compact : shape.Compact) {start : Key}
    (member : start ∈ shape.collect own) : start ≠ [] ∧ start.head? ∈ shape.starts := by
  induction shape generalizing start with
  | nil => cases member
  | cons fragment value children siblings below after =>
      have ⟨filled, _, _, _, later⟩ := compact
      rw [collect, List.mem_append, List.mem_append] at member
      rcases member with here | lower | behind
      · obtain ⟨some, starts⟩ := inside fragment filled start here
        rw [head_eq_of_starts some starts]
        exact ⟨some, List.mem_cons_self⟩
      · obtain ⟨rest, _, rfl⟩ := List.mem_map.mp lower
        rw [List.head?_append_of_ne_nil _ filled]
        exact ⟨List.append_ne_nil_of_left_ne_nil filled rest, List.mem_cons_self⟩
      · obtain ⟨some, head⟩ := after later behind
        exact ⟨some, List.mem_cons_of_mem _ head⟩

theorem head_ne_of_mem_siblings {fragment : Key} {value : Option V} {children siblings : Shape V}
    (compact : (cons fragment value children siblings).Compact) {start : Key}
    (member : start ∈ siblings.collect own) : fragment.head? ≠ start.head? := by
  intro same
  exact compact.2.1 (same ▸ (head_of_mem_collect inside compact.2.2.2.2 member).2)

theorem nodup_collect (unique : ∀ fragment, (own fragment).Nodup) {shape : Shape V}
    (compact : shape.Compact) : (shape.collect own).Nodup := by
  induction shape with
  | nil => exact List.nodup_nil
  | cons fragment value children siblings below after =>
      have ⟨filled, _, _, inner, later⟩ := compact
      rw [collect, List.nodup_append', List.nodup_append', List.disjoint_append_right]
      refine ⟨unique fragment, ⟨?_, after later, ?_⟩, ?_, ?_⟩
      · exact (below inner).map (List.append_right_injective fragment)
      · intro start lower behind
        obtain ⟨rest, _, rfl⟩ := List.mem_map.mp lower
        have differs := head_ne_of_mem_siblings inside compact behind
        exact differs (List.head?_append_of_ne_nil _ filled).symm
      · intro start here lower
        obtain ⟨rest, reached, rfl⟩ := List.mem_map.mp lower
        have short := (inside fragment filled _ here).2.length_le
        have some := List.length_pos_iff.mpr (head_of_mem_collect inside inner reached).1
        rw [List.length_append] at short
        omega
      · intro start here behind
        obtain ⟨some, starts⟩ := inside fragment filled start here
        have differs := head_ne_of_mem_siblings inside compact behind
        exact differs (head_eq_of_starts some starts).symm

theorem collect_perm {one other : Shape V} (oneCompact : one.Compact)
    (otherCompact : other.Compact) (oneUnique : (one.collect own).Nodup)
    (otherUnique : (other.collect own).Nodup)
    (same : ∀ start, start ≠ [] → (start ∈ one.collect own ↔ start ∈ other.collect own)) :
    (one.collect own).Perm (other.collect own) := by
  refine (List.perm_ext_iff_of_nodup oneUnique otherUnique).mpr fun start => ?_
  constructor
  · intro member
    exact (same start (head_of_mem_collect inside oneCompact member).1).mp member
  · intro member
    exact (same start (head_of_mem_collect inside otherCompact member).1).mpr member

end Collect

theorem own_path (fragment : Key) (filled : fragment ≠ []) :
    ∀ start ∈ [fragment], start ≠ [] ∧ start <+: fragment := by
  simp [filled]

theorem mem_prefixes_iff {start key : Key} : start ∈ prefixes key ↔ start ≠ [] ∧ start <+: key := by
  induction key generalizing start with
  | nil => simp [prefixes]
  | cons c rest ih =>
      cases start with
      | nil => simp [prefixes]
      | cons d tail =>
          cases tail with
          | nil => simp [prefixes, ih]
          | cons e more => simp [prefixes, ih, eq_comm, and_comm]

theorem own_prefixes (fragment : Key) (_ : fragment ≠ []) :
    ∀ start ∈ prefixes fragment, start ≠ [] ∧ start <+: fragment :=
  fun _ => mem_prefixes_iff.mp

theorem nodup_prefixes (key : Key) : (prefixes key).Nodup := by
  induction key with
  | nil => exact List.nodup_nil
  | cons c rest ih =>
      rw [prefixes, List.nodup_cons]
      refine ⟨?_, ih.map List.cons_injective⟩
      simp [mem_prefixes_iff]

theorem length_prefixes (key : Key) : (prefixes key).length = key.length := by
  induction key with
  | nil => rfl
  | cons c rest ih => rw [prefixes, List.length_cons, List.length_map, ih, List.length_cons]

theorem paths_cons (fragment : Key) (value : Option V) (children siblings : Shape V) :
    (cons fragment value children siblings).paths =
      fragment :: (children.paths.map (fragment ++ ·) ++ siblings.paths) := rfl

theorem nodup_paths {shape : Shape V} (compact : shape.Compact) : shape.paths.Nodup :=
  nodup_collect own_path List.nodup_singleton compact

theorem exists_eq_append_cons {fragment path tail : Key} {c : Char}
    (starts : fragment <+: path ++ c :: tail) (off : ¬ fragment <+: path) :
    ∃ more, fragment = path ++ c :: more := by
  obtain inside | ⟨rest, rfl⟩ :=
    List.prefix_or_prefix_of_prefix starts (List.prefix_append path (c :: tail))
  · exact absurd inside off
  · cases rest with
    | nil => simp at off
    | cons d more =>
        have same := (List.cons_prefix_cons.mp ((List.prefix_append_right_inj path).mp starts)).1
        exact ⟨more, by rw [same]⟩

/-- The nodes of a compact shape are its keys, and the places where two of them part. -/
theorem mem_paths_iff {shape : Shape V} (compact : shape.Compact) {path : Key}
    (filled : path ≠ []) : path ∈ shape.paths ↔ shape.Binds path ∨ shape.Forks path := by
  -- A path with another first character is one of the siblings'. Where the fragment starts it, what
  -- is left of it is one of the children's. Off the fragment there is no node, and no two keys part
  -- either, since both go on as the fragment does.
  induction shape generalizing path with
  | nil => simp [paths, collect, Binds, Forks, lookup]
  | cons fragment value children siblings below after =>
      have own := compact.1
      have branching := compact.2.2.1
      have inner := compact.2.2.2.1
      have later := compact.2.2.2.2
      rw [paths_cons, List.mem_cons, List.mem_append]
      by_cases same : fragment.head? = path.head?
      · have notBehind : path ∉ siblings.paths := by
          intro behind
          exact head_ne_of_mem_siblings own_path compact behind same
        by_cases onPath : fragment <+: path
        · obtain ⟨rest, rfl⟩ := onPath
          cases rest with
          | nil =>
              rw [List.append_nil]
              refine iff_of_true (Or.inl rfl) ?_
              cases value with
              | some stored => exact Or.inl (binds_here.mpr rfl)
              | none =>
                  obtain ⟨c, left, d, right, different, one, other⟩ :=
                    forks_of_two inner (branching rfl)
                  refine Or.inr ⟨c, left, d, right, different, ?_, ?_⟩
                  · exact (binds_behind (List.cons_ne_nil c left)).mpr one
                  · exact (binds_behind (List.cons_ne_nil d right)).mpr other
          | cons first tail =>
              have forks : (cons fragment value children siblings).Forks
                  (fragment ++ first :: tail) ↔ children.Forks (first :: tail) := by
                simp only [Forks, List.append_assoc, List.cons_append,
                  binds_behind (List.cons_ne_nil _ _)]
              rw [binds_behind (List.cons_ne_nil first tail), forks,
                ← below inner (List.cons_ne_nil first tail)]
              simp [notBehind]
        · refine iff_of_false ?_ ?_
          · rintro (rfl | inside | behind)
            · exact onPath List.prefix_rfl
            · obtain ⟨rest, _, rfl⟩ := List.mem_map.mp inside
              exact onPath (List.prefix_append fragment rest)
            · exact notBehind behind
          · rintro (binds | ⟨c, left, d, right, different, one, other⟩)
            · exact onPath (prefix_of_binds compact same binds)
            · have head (more : Key) : fragment.head? = (path ++ more).head? := by
                rw [same, List.head?_append_of_ne_nil _ filled]
              obtain ⟨_, goesOn⟩ :=
                exists_eq_append_cons (prefix_of_binds compact (head _) one) onPath
              obtain ⟨_, goesOnTo⟩ :=
                exists_eq_append_cons (prefix_of_binds compact (head _) other) onPath
              have tails := List.append_cancel_left (goesOn.symm.trans goesOnTo)
              exact different (List.cons.inj tails).1
      · have head (more : Key) : fragment.head? ≠ (path ++ more).head? := by
          rwa [List.head?_append_of_ne_nil _ filled]
        have notHere : path ≠ fragment := fun whole => same (whole ▸ rfl)
        have notBelow : path ∉ children.paths.map (fragment ++ ·) := by
          intro inside
          obtain ⟨rest, _, rfl⟩ := List.mem_map.mp inside
          exact same (List.head?_append_of_ne_nil _ own).symm
        have forks : (cons fragment value children siblings).Forks path ↔ siblings.Forks path := by
          simp only [Forks, binds_elsewhere own (head _)]
        rw [binds_elsewhere own same, forks, ← after later filled]
        simp only [notHere, notBelow, false_or]

theorem exists_binds_behind {shape : Shape V} (compact : shape.Compact) {path : Key}
    (member : path ∈ shape.paths) : ∃ key, shape.Binds key ∧ path <+: key := by
  have filled := (head_of_mem_collect own_path compact member).1
  rcases (mem_paths_iff compact filled).mp member with binds | ⟨c, left, _, _, _, one, _⟩
  · exact ⟨path, binds, List.prefix_rfl⟩
  · exact ⟨path ++ c :: left, one, List.prefix_append _ _⟩

/-! ### Measures -/

theorem valued_eq_countP {shape : Shape V} (compact : shape.Compact) :
    shape.valued = shape.paths.countP fun path => (shape.lookup path).isSome := by
  induction shape with
  | nil => rfl
  | cons fragment value children siblings below after =>
      have ⟨own, _, _, inner, later⟩ := compact
      have here := lookup_here fragment [] value children siblings
      rw [List.append_nil, List.isEmpty_nil, if_pos rfl] at here
      have inside : children.paths.countP (fun rest =>
          ((cons fragment value children siblings).lookup (fragment ++ rest)).isSome) =
          children.valued := by
        rw [below inner]
        refine List.countP_congr fun rest member => ?_
        have some := (head_of_mem_collect own_path inner member).1
        rw [lookup_here, if_neg (mt List.isEmpty_iff.mp some)]
      have behind : siblings.paths.countP (fun path =>
          ((cons fragment value children siblings).lookup path).isSome) = siblings.valued := by
        rw [after later]
        refine List.countP_congr fun path member => ?_
        rw [lookup_past own (head_ne_of_mem_siblings own_path compact member)]
      simp only [paths_cons, List.countP_cons, List.countP_append, List.countP_map, here,
        Function.comp_def, inside, behind, valued]
      omega

def depth (shape : Shape V) (path : Key) : Nat := shape.paths.countP fun start => start <+: path

section Depth

variable {fragment : Key} {value : Option V} {children siblings : Shape V}

theorem depth_behind (compact : (cons fragment value children siblings).Compact) (rest : Key) :
    (cons fragment value children siblings).depth (fragment ++ rest) = children.depth rest + 1 := by
  have head : (fragment ++ rest).head? = fragment.head? := List.head?_append_of_ne_nil _ compact.1
  have noneBehind :
      siblings.paths.countP (fun start => start <+: fragment ++ rest) = 0 := by
    refine List.countP_eq_zero.mpr fun start member starts => ?_
    have filled := (head_of_mem_collect own_path compact.2.2.2.2 member).1
    have same := head_eq_of_starts filled (of_decide_eq_true starts)
    exact head_ne_of_mem_siblings own_path compact member (head.symm.trans same.symm)
  simp only [depth, paths_cons, List.countP_cons, List.countP_append, List.countP_map,
    Function.comp_def, List.prefix_append_right_inj, noneBehind, List.prefix_append, decide_true,
    if_true, Nat.add_zero]

theorem depth_here (compact : (cons fragment value children siblings).Compact) :
    (cons fragment value children siblings).depth fragment = 1 := by
  have noneBelow : children.depth [] = 0 := by
    refine List.countP_eq_zero.mpr fun start member starts => ?_
    have filled := (head_of_mem_collect own_path compact.2.2.2.1 member).1
    exact filled (List.prefix_nil.mp (of_decide_eq_true starts))
  have whole := depth_behind compact []
  rwa [List.append_nil, noneBelow] at whole

theorem depth_elsewhere (compact : (cons fragment value children siblings).Compact) {path : Key}
    (member : path ∈ siblings.paths) :
    (cons fragment value children siblings).depth path = siblings.depth path := by
  have differs := head_ne_of_mem_siblings own_path compact member
  have off (rest : Key) : ¬ fragment ++ rest <+: path := by
    intro starts
    have filled := List.append_ne_nil_of_left_ne_nil compact.1 rest
    have same := head_eq_of_starts filled starts
    rw [List.head?_append_of_ne_nil _ compact.1] at same
    exact differs same
  have notHere := off []
  rw [List.append_nil] at notHere
  simp [depth, paths_cons, List.countP_append, List.countP_map, Function.comp_def, off, notHere]

end Depth

/-- A shape is as high as its deepest node. -/
theorem height_le_iff {shape : Shape V} (compact : shape.Compact) (above most : Nat) :
    shape.height above ≤ most ↔ ∀ path ∈ shape.paths, above + shape.depth path ≤ most := by
  induction shape generalizing above with
  | nil => simp [height, paths, collect]
  | cons fragment value children siblings below after =>
      have ⟨_, _, _, inner, later⟩ := compact
      have inside : (∀ rest ∈ children.paths, above + (children.depth rest + 1) ≤ most) ↔
          ∀ rest ∈ children.paths, above + 1 + children.depth rest ≤ most :=
        forall₂_congr fun rest _ => by rw [Nat.add_assoc, Nat.add_comm 1]
      have behind : (∀ path ∈ siblings.paths,
            above + (cons fragment value children siblings).depth path ≤ most) ↔
          ∀ path ∈ siblings.paths, above + siblings.depth path ≤ most :=
        forall₂_congr fun path member => by rw [depth_elsewhere compact member]
      simp only [paths_cons, List.forall_mem_cons, List.forall_mem_append, List.forall_mem_map,
        depth_here compact, depth_behind compact, inside, behind, height, Nat.max_le, below inner,
        after later]

theorem spelled_cons (fragment : Key) (value : Option V) (children siblings : Shape V) :
    (cons fragment value children siblings).spelled =
      prefixes fragment ++ (children.spelled.map (fragment ++ ·) ++ siblings.spelled) := rfl

theorem nodup_spelled {shape : Shape V} (compact : shape.Compact) : shape.spelled.Nodup :=
  nodup_collect own_prefixes nodup_prefixes compact

/-- The characters of a compact shape are those of its keys. -/
theorem mem_spelled_iff {shape : Shape V} (compact : shape.Compact) {start : Key}
    (filled : start ≠ []) : start ∈ shape.spelled ↔ ∃ key, shape.Binds key ∧ start <+: key := by
  -- Inside the fragment some key is needed that passes through it, and a compact shape has one. The
  -- other cases are those of paths.
  induction shape generalizing start with
  | nil => simp [spelled, collect, Binds, lookup]
  | cons fragment value children siblings below after =>
      have own := compact.1
      have inner := compact.2.2.2.1
      have later := compact.2.2.2.2
      rw [spelled_cons, List.mem_append, List.mem_append, mem_prefixes_iff]
      by_cases same : fragment.head? = start.head?
      · have notBehind : start ∉ siblings.spelled := by
          intro behind
          exact head_ne_of_mem_siblings own_prefixes compact behind same
        have whole {key : Key} (binds : (cons fragment value children siblings).Binds key)
            (starts : start <+: key) : fragment <+: key :=
          prefix_of_binds compact (same.trans (head_eq_of_starts filled starts)) binds
        by_cases within : start <+: fragment
        · refine iff_of_true (Or.inl ⟨filled, within⟩) ?_
          obtain ⟨key, binds, head⟩ := exists_binds compact List.mem_cons_self
          exact ⟨key, binds, within.trans (prefix_of_binds compact head.symm binds)⟩
        · by_cases onPath : fragment <+: start
          · obtain ⟨rest, rfl⟩ := onPath
            have some : rest ≠ [] := by
              rintro rfl
              simp at within
            have lower : fragment ++ rest ∈ children.spelled.map (fragment ++ ·) ↔
                rest ∈ children.spelled := by simp
            simp only [within, and_false, notBehind, or_false, false_or, lower, below inner some]
            constructor
            · rintro ⟨key, binds, starts⟩
              refine ⟨fragment ++ key, ?_, (List.prefix_append_right_inj fragment).mpr starts⟩
              exact (binds_behind (ne_nil_of_binds inner binds)).mpr binds
            · rintro ⟨_, binds, tail, rfl⟩
              rw [List.append_assoc,
                binds_behind (List.append_ne_nil_of_left_ne_nil some tail)] at binds
              exact ⟨rest ++ tail, binds, List.prefix_append rest tail⟩
          · refine iff_of_false ?_ ?_
            · rintro (here | lower | behind)
              · exact within here.2
              · obtain ⟨rest, _, rfl⟩ := List.mem_map.mp lower
                exact onPath (List.prefix_append fragment rest)
              · exact notBehind behind
            · rintro ⟨key, binds, starts⟩
              rcases List.prefix_or_prefix_of_prefix (whole binds starts) starts with short | long
              · exact onPath short
              · exact within long
      · have notHere : ¬ start <+: fragment := fun short =>
          same (head_eq_of_starts filled short).symm
        have notBelow : start ∉ children.spelled.map (fragment ++ ·) := by
          intro lower
          obtain ⟨rest, _, rfl⟩ := List.mem_map.mp lower
          exact same (List.head?_append_of_ne_nil _ own).symm
        simp only [notHere, and_false, notBelow, false_or, after later filled]
        refine exists_congr fun key => and_congr_left fun starts => ?_
        have differs : fragment.head? ≠ key.head? := head_eq_of_starts filled starts ▸ same
        exact (binds_elsewhere own differs).symm

theorem lastBytes_append (start : Key) {rest : Key} (filled : rest ≠ []) :
    lastBytes (start ++ rest) = lastBytes rest := by
  rw [lastBytes, List.getLast?_append_of_ne_nil _ filled, lastBytes]

theorem weight_append (keys more : List Key) :
    weight (keys ++ more) = weight keys + weight more := by
  induction keys with
  | nil => simp [weight]
  | cons key keys ih => simp [weight, ih, Nat.add_assoc]

theorem weight_map_append (start : Key) (keys : List Key) (filled : ∀ key ∈ keys, key ≠ []) :
    weight (keys.map (start ++ ·)) = weight keys := by
  induction keys with
  | nil => rfl
  | cons key keys ih =>
      rw [List.forall_mem_cons] at filled
      rw [List.map_cons, weight, weight, lastBytes_append start filled.1, ih filled.2]

theorem weight_prefixes (key : Key) : weight (prefixes key) = Text.utf8Length key := by
  induction key with
  | nil => rfl
  | cons c rest ih =>
      have step := weight_map_append [c] (prefixes rest) fun _ member =>
        (mem_prefixes_iff.mp member).1
      simp only [List.cons_append, List.nil_append] at step
      rw [prefixes, weight, step, ih, Text.utf8Length]
      rfl

theorem weight_perm {keys other : List Key} (perm : keys.Perm other) :
    weight keys = weight other := by
  induction perm with
  | nil => rfl
  | cons key _ ih => rw [weight, weight, ih]
  | swap one next keys => simp only [weight]; omega
  | trans _ _ first second => exact first.trans second

theorem bytes_eq_weight {shape : Shape V} (compact : shape.Compact) :
    shape.bytes = weight shape.spelled := by
  induction shape with
  | nil => rfl
  | cons fragment value children siblings below after =>
      have inside := weight_map_append fragment children.spelled fun start member =>
        (head_of_mem_collect own_prefixes compact.2.2.2.1 member).1
      rw [bytes, spelled_cons, weight_append, weight_append, weight_prefixes, inside,
        below compact.2.2.2.1, after compact.2.2.2.2, Nat.add_assoc]

section Same

variable {one other : Shape V} (oneCompact : one.Compact) (otherCompact : other.Compact)
  (same : ∀ key, one.Binds key ↔ other.Binds key)

include oneCompact otherCompact same

theorem paths_perm : one.paths.Perm other.paths := by
  refine collect_perm own_path oneCompact otherCompact (nodup_paths oneCompact)
    (nodup_paths otherCompact) fun path filled => ?_
  have inOne := mem_paths_iff oneCompact filled
  simp only [Forks, same] at inOne
  exact inOne.trans (mem_paths_iff otherCompact filled).symm

theorem spelled_perm : one.spelled.Perm other.spelled := by
  refine collect_perm own_prefixes oneCompact otherCompact (nodup_spelled oneCompact)
    (nodup_spelled otherCompact) fun start filled => ?_
  have inOne := mem_spelled_iff oneCompact filled
  simp only [same] at inOne
  exact inOne.trans (mem_spelled_iff otherCompact filled).symm

theorem valued_congr : one.valued = other.valued := by
  rw [valued_eq_countP oneCompact, valued_eq_countP otherCompact,
    (paths_perm oneCompact otherCompact same).countP_eq]
  exact List.countP_congr fun path _ => same path

theorem height_congr (above : Nat) : one.height above = other.height above := by
  have perm := paths_perm oneCompact otherCompact same
  have depths (path : Key) : one.depth path = other.depth path := perm.countP_eq _
  have bounds (most : Nat) : one.height above ≤ most ↔ other.height above ≤ most := by
    simp only [height_le_iff oneCompact, height_le_iff otherCompact, perm.mem_iff, depths]
  exact Nat.le_antisymm ((bounds _).mpr (Nat.le_refl _)) ((bounds _).mp (Nat.le_refl _))

theorem bytes_congr : one.bytes = other.bytes := by
  rw [bytes_eq_weight oneCompact, bytes_eq_weight otherCompact,
    weight_perm (spelled_perm oneCompact otherCompact same)]

end Same

end Shape

end RadixForest.Trie
