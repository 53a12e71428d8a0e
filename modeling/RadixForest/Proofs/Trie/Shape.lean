import Mathlib.Data.List.Basic
import RadixForest.Trie.Config
import RadixForest.Text.CommonStart

/-!
Compressed tries without their numbers: what a look-up finds in one, and how it grows. Growing at a
key changes what is found there and nowhere else, and a compact shape stays compact.
-/

namespace RadixForest.Trie

/-- A list of trees: a fragment, a value, the trees below them, and the trees after them. -/
inductive Shape (V : Type)
  | nil
  | cons (fragment : Key) (value : Option V) (children siblings : Shape V)
deriving DecidableEq, Repr

inductive Meeting : Key → Key → Prop
  | same (fragment : Key) : Meeting fragment fragment
  | beyond (fragment : Key) (first : Char) (tail : Key) :
      Meeting fragment (fragment ++ first :: tail)
  | within (key : Key) (first : Char) (tail : Key) : Meeting (key ++ first :: tail) key
  | apart (shared : Key) (own : Char) (ownTail : Key) (other : Char) (otherTail : Key) :
      shared ≠ [] → own ≠ other → Meeting (shared ++ own :: ownTail) (shared ++ other :: otherTail)

theorem meeting_of_head {fragment key : Key} (starts : fragment.head? = key.head?) :
    Meeting fragment key := by
  have left := Text.diverge_left fragment key
  have right := Text.diverge_right fragment key
  cases leftOn : (Text.diverge fragment key).left with
  | nil =>
      rw [leftOn, List.append_nil] at left
      cases rightOn : (Text.diverge fragment key).right with
      | nil =>
          rw [rightOn, List.append_nil] at right
          rw [← left, right]
          exact .same key
      | cons first tail =>
          rw [rightOn, left] at right
          rw [← right]
          exact .beyond fragment first tail
  | cons own ownTail =>
      rw [leftOn] at left
      cases rightOn : (Text.diverge fragment key).right with
      | nil =>
          rw [rightOn, List.append_nil] at right
          rw [← left, right]
          exact .within key own ownTail
      | cons other otherTail =>
          rw [rightOn] at right
          have different := Text.diverge_apart leftOn rightOn
          have shared : (Text.diverge fragment key).shared ≠ [] := by
            intro empty
            rw [empty, List.nil_append] at left right
            rw [← left, ← right] at starts
            exact different (by simpa using starts)
          have meets := Meeting.apart _ own ownTail other otherTail shared different
          rwa [left, right] at meets

namespace Shape

variable {V : Type}

def starts : Shape V → List (Option Char)
  | nil => []
  | cons fragment _ _ siblings => fragment.head? :: siblings.starts

def lookup (key : Key) : Shape V → Option V
  | nil => none
  | cons fragment value children siblings =>
    if fragment.isPrefixOf key then
      let rest := key.drop fragment.length
      if rest.isEmpty then value else children.lookup rest
    else siblings.lookup key

def plant (key : Key) (value : V) : Shape V → Shape V
  | nil => cons key (some value) nil nil
  | cons fragment old children siblings =>
    if fragment.head? = key.head? then
      let parts := Text.diverge fragment key
      match parts.left, parts.right with
      | [], [] => cons fragment (some value) children siblings
      | [], _ :: _ => cons fragment old (children.plant parts.right value) siblings
      | _ :: _, [] => cons parts.shared (some value) (cons parts.left old children nil) siblings
      | _ :: _, _ :: _ =>
        cons parts.shared none
          (cons parts.left old children (cons parts.right (some value) nil nil)) siblings
    else cons fragment old children (siblings.plant key value)

def valued : Shape V → Nat
  | nil => 0
  | cons _ value children siblings =>
    (if value.isSome then 1 else 0) + children.valued + siblings.valued

/-- No fragment is empty, siblings differ in their first characters, and a node without a value
has at least two children. -/
def Compact : Shape V → Prop
  | nil => True
  | cons fragment value children siblings =>
    fragment ≠ [] ∧ fragment.head? ∉ siblings.starts ∧
      (value = none → 2 ≤ children.starts.length) ∧ children.Compact ∧ siblings.Compact

theorem lookup_here (fragment rest : Key) (value : Option V) (children siblings : Shape V) :
    (cons fragment value children siblings).lookup (fragment ++ rest) =
      if rest.isEmpty then value else children.lookup rest := by
  simp [lookup]

theorem lookup_after {fragment key : Key} (differs : ¬ fragment <+: key) (value : Option V)
    (children siblings : Shape V) :
    (cons fragment value children siblings).lookup key = siblings.lookup key := by
  simp [lookup, differs]

theorem lookup_past {fragment key : Key} (filled : fragment ≠ [])
    (differs : fragment.head? ≠ key.head?) (value : Option V) (children siblings : Shape V) :
    (cons fragment value children siblings).lookup key = siblings.lookup key := by
  apply lookup_after
  rintro ⟨rest, rfl⟩
  exact differs (List.head?_append_of_ne_nil _ filled).symm

theorem lookup_of_start {shape : Shape V} (compact : shape.Compact) {key : Key}
    (absent : key.head? ∉ shape.starts) : shape.lookup key = none := by
  induction shape with
  | nil => rfl
  | cons fragment value children siblings below after =>
      obtain ⟨filled, _, _, _, later⟩ := compact
      simp only [starts, List.mem_cons, not_or] at absent
      rw [lookup_past filled (Ne.symm absent.1)]
      exact after later absent.2

theorem lookup_leaf (key other : Key) (value : V) :
    (cons key (some value) nil nil).lookup other = if other = key then some value else none := by
  by_cases starts : key <+: other
  · obtain ⟨rest, rfl⟩ := starts
    rw [lookup_here]
    cases rest <;> simp [lookup]
  · have different : other ≠ key := fun same => starts (same ▸ List.prefix_refl _)
    rw [lookup_after starts, if_neg different]
    rfl

theorem lookup_within {start rest own : Key} {value : Option V} {children siblings : Shape V}
    (compact : (cons (start ++ own) value children siblings).Compact) (filled : start ≠ []) :
    (cons (start ++ own) value children siblings).lookup (start ++ rest) =
      (cons own value children nil).lookup rest := by
  by_cases starts : own <+: rest
  · obtain ⟨tail, rfl⟩ := starts
    rw [← List.append_assoc, lookup_here, lookup_here]
  · have differs : ¬ start ++ own <+: start ++ rest := by simpa using starts
    rw [lookup_after starts, lookup_after differs]
    apply lookup_of_start compact.2.2.2.2
    have absent := compact.2.1
    rw [List.head?_append_of_ne_nil _ filled] at absent ⊢
    exact absent

theorem plant_after {fragment key : Key} (differs : fragment.head? ≠ key.head?) (value : V)
    (old : Option V) (children siblings : Shape V) :
    (cons fragment old children siblings).plant key value =
      cons fragment old children (siblings.plant key value) := by
  simp [plant, differs]

theorem plant_same (fragment : Key) (value : V) (old : Option V) (children siblings : Shape V) :
    (cons fragment old children siblings).plant fragment value =
      cons fragment (some value) children siblings := by
  simp [plant, Text.diverge_self]

theorem plant_beyond {fragment : Key} (filled : fragment ≠ []) (first : Char) (tail : Key)
    (value : V) (old : Option V) (children siblings : Shape V) :
    (cons fragment old children siblings).plant (fragment ++ first :: tail) value =
      cons fragment old (children.plant (first :: tail) value) siblings := by
  simp only [plant, Text.diverge_extended_right, List.head?_append_of_ne_nil _ filled, if_true]

theorem plant_within {key : Key} (filled : key ≠ []) (first : Char) (tail : Key) (value : V)
    (old : Option V) (children siblings : Shape V) :
    (cons (key ++ first :: tail) old children siblings).plant key value =
      cons key (some value) (cons (first :: tail) old children nil) siblings := by
  simp only [plant, Text.diverge_extended_left, List.head?_append_of_ne_nil _ filled, if_true]

theorem plant_apart {shared : Key} {own other : Char} (filled : shared ≠ [])
    (different : own ≠ other) (ownTail otherTail : Key) (value : V) (old : Option V)
    (children siblings : Shape V) :
    (cons (shared ++ own :: ownTail) old children siblings).plant (shared ++ other :: otherTail)
        value =
      cons shared none
        (cons (own :: ownTail) old children (cons (other :: otherTail) (some value) nil nil))
        siblings := by
  simp only [plant, Text.diverge_fork different, List.head?_append_of_ne_nil _ filled, if_true]

theorem lookup_plant {shape : Shape V} (compact : shape.Compact) {key : Key} (filled : key ≠ [])
    (value : V) (other : Key) :
    (shape.plant key value).lookup other =
      if other = key then some value else shape.lookup other := by
  -- A key off the path of a fragment passes over it before and after. On the path, what is left of
  -- it behind the fragment decides.
  induction shape generalizing key other with
  | nil => exact lookup_leaf key other value
  | cons fragment old children siblings below after =>
      have ⟨own, _, _, inner, later⟩ := compact
      by_cases starts : fragment.head? = key.head?
      · cases meeting_of_head starts with
        | same _ =>
            rw [plant_same]
            by_cases onPath : fragment <+: other
            · obtain ⟨rest, rfl⟩ := onPath
              simp only [lookup_here]
              cases rest <;> simp
            · have different : other ≠ fragment := fun same => onPath (same ▸ List.prefix_refl _)
              rw [lookup_after onPath, lookup_after onPath, if_neg different]
        | beyond _ first tail =>
            rw [plant_beyond own]
            by_cases onPath : fragment <+: other
            · obtain ⟨rest, rfl⟩ := onPath
              simp only [lookup_here, below inner (List.cons_ne_nil first tail),
                List.append_cancel_left_eq]
              cases rest <;> simp
            · have different : other ≠ fragment ++ first :: tail := fun same =>
                onPath (same ▸ List.prefix_append _ _)
              rw [lookup_after onPath, lookup_after onPath, if_neg different]
        | within _ first tail =>
            rw [plant_within filled]
            by_cases onPath : key <+: other
            · obtain ⟨rest, rfl⟩ := onPath
              rw [lookup_here, lookup_within compact filled]
              cases rest <;> simp [lookup]
            · have different : other ≠ key := fun same => onPath (same ▸ List.prefix_refl _)
              have offFragment : ¬ key ++ first :: tail <+: other := fun whole =>
                onPath ((List.prefix_append _ _).trans whole)
              rw [lookup_after onPath, lookup_after offFragment, if_neg different]
        | apart shared c ownTail d otherTail sharedFilled different =>
            rw [plant_apart sharedFilled different]
            by_cases onPath : shared <+: other
            · obtain ⟨rest, rfl⟩ := onPath
              rw [lookup_here, lookup_within compact sharedFilled]
              simp only [List.append_cancel_left_eq]
              by_cases onOwn : c :: ownTail <+: rest
              · obtain ⟨tail, rfl⟩ := onOwn
                simp only [lookup_here]
                simp [different]
              · rw [lookup_after onOwn, lookup_after onOwn, lookup_leaf]
                cases rest <;> simp [lookup]
            · have notKey : other ≠ shared ++ d :: otherTail := fun same =>
                onPath (same ▸ List.prefix_append _ _)
              have offFragment : ¬ shared ++ c :: ownTail <+: other := fun whole =>
                onPath ((List.prefix_append _ _).trans whole)
              rw [lookup_after onPath, lookup_after offFragment, if_neg notKey]
      · rw [plant_after starts]
        by_cases onPath : fragment <+: other
        · obtain ⟨rest, rfl⟩ := onPath
          have different : fragment ++ rest ≠ key := by
            rintro rfl
            exact starts (List.head?_append_of_ne_nil _ own).symm
          rw [lookup_here, lookup_here, if_neg different]
        · rw [lookup_after onPath, lookup_after onPath, after later filled]

theorem valued_plant {shape : Shape V} (compact : shape.Compact) {key : Key} (filled : key ≠ [])
    (value : V) :
    (shape.plant key value).valued =
      if (shape.lookup key).isSome then shape.valued else shape.valued + 1 := by
  induction shape generalizing key with
  | nil => simp [plant, lookup, valued]
  | cons fragment old children siblings below after =>
      have ⟨own, notAfter, _, inner, later⟩ := compact
      by_cases starts : fragment.head? = key.head?
      · cases meeting_of_head starts with
        | same _ =>
            have found := lookup_here fragment [] old children siblings
            rw [List.append_nil] at found
            rw [plant_same, found]
            cases old <;> simp [valued]
            omega
        | beyond _ first tail =>
            rw [plant_beyond own, lookup_here]
            simp only [valued, below inner (List.cons_ne_nil first tail), List.isEmpty_cons,
              Bool.false_eq_true, if_false]
            by_cases bound : (children.lookup (first :: tail)).isSome = true
            · simp only [bound, if_true]
            · simp only [bound, Bool.false_eq_true, if_false]
              omega
        | within _ first tail =>
            have found : (cons (key ++ first :: tail) old children siblings).lookup (key ++ []) =
                (cons (first :: tail) old children nil).lookup [] := lookup_within compact filled
            rw [List.append_nil] at found
            rw [plant_within filled, found]
            cases old <;> simp [valued, lookup] <;> omega
        | apart shared c ownTail d otherTail sharedFilled different =>
            rw [plant_apart sharedFilled different, lookup_within compact sharedFilled]
            cases old <;> simp [valued, lookup, different] <;> omega
      · rw [plant_after starts, lookup_past own starts]
        simp only [valued, after later filled]
        by_cases bound : (siblings.lookup key).isSome = true
        · simp only [bound, if_true]
        · simp only [bound, Bool.false_eq_true, if_false]
          omega

theorem starts_plant {shape : Shape V} {key : Key} (filled : key ≠ []) (value : V) :
    (shape.plant key value).starts =
      if key.head? ∈ shape.starts then shape.starts else shape.starts ++ [key.head?] := by
  induction shape with
  | nil => simp [plant, starts]
  | cons fragment old children siblings below after =>
      by_cases same : fragment.head? = key.head?
      · simp only [starts, same, List.mem_cons, true_or, if_true]
        cases meeting_of_head same with
        | same _ => rw [plant_same, starts]
        | beyond _ first tail =>
            have own : fragment ≠ [] := by
              rintro rfl
              simp at same
            rw [plant_beyond own, starts, same]
        | within _ first tail => rw [plant_within filled, starts]
        | apart shared c ownTail d otherTail sharedFilled different =>
            rw [plant_apart sharedFilled different, starts,
              List.head?_append_of_ne_nil _ sharedFilled]
      · simp only [plant_after same, starts, after, List.mem_cons, Ne.symm same, false_or]
        split <;> rfl

theorem starts_length_le_plant {shape : Shape V} {key : Key} (filled : key ≠ []) (value : V) :
    shape.starts.length ≤ (shape.plant key value).starts.length := by
  rw [starts_plant filled]
  split <;> simp

theorem compact_plant {shape : Shape V} (compact : shape.Compact) {key : Key} (filled : key ≠ [])
    (value : V) : (shape.plant key value).Compact := by
  induction shape generalizing key with
  | nil => simp [plant, Compact, filled, starts]
  | cons fragment old children siblings below after =>
      have ⟨own, notAfter, branching, inner, later⟩ := compact
      by_cases starts : fragment.head? = key.head?
      · cases meeting_of_head starts with
        | same _ =>
            rw [plant_same]
            exact ⟨own, notAfter, by simp, inner, later⟩
        | beyond _ first tail =>
            rw [plant_beyond own]
            have tailFilled := List.cons_ne_nil first tail
            refine ⟨own, notAfter, ?_, below inner tailFilled, later⟩
            intro empty
            exact Nat.le_trans (branching empty) (starts_length_le_plant tailFilled value)
        | within _ first tail =>
            rw [plant_within filled]
            rw [List.head?_append_of_ne_nil _ filled] at notAfter
            refine ⟨filled, notAfter, by simp, ?_, later⟩
            exact ⟨List.cons_ne_nil first tail, by simp [Shape.starts], branching, inner, trivial⟩
        | apart shared c ownTail d otherTail sharedFilled different =>
            rw [plant_apart sharedFilled different]
            rw [List.head?_append_of_ne_nil _ sharedFilled] at notAfter
            refine ⟨sharedFilled, notAfter, by simp [Shape.starts], ?_, later⟩
            refine ⟨List.cons_ne_nil c ownTail, by simp [Shape.starts, different], branching,
              inner, ?_⟩
            exact ⟨List.cons_ne_nil d otherTail, by simp [Shape.starts], by simp, trivial, trivial⟩
      · rw [plant_after starts]
        refine ⟨own, ?_, branching, inner, after later filled⟩
        rw [starts_plant filled]
        split
        · exact notAfter
        · simp [notAfter, starts]

end Shape

end RadixForest.Trie
