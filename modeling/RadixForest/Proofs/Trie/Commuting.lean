import Mathlib.Data.List.FinRange
import Mathlib.Data.List.Sort
import RadixForest.Proofs.Trie.Inserting
import RadixForest.Proofs.Trie.Statistics

/-!
Insertions of different keys commute. The nodes of a trie, their order and their numbers depend on
the order of insertions, but what each of them answers, what the trie binds in the end and what its
statistics count depend only on the order of those with the same key.
-/

namespace RadixForest.Trie

variable {V : Type}

/-- The insertions in another order: at each place stands the one from the place it is sent to. -/
def reordered (inserts : List (Insert V)) (place : Equiv.Perm (Fin inserts.length)) :
    List (Insert V) :=
  (List.finRange inserts.length).map fun number => inserts[place number]

/-- Insertions with the same key, in the form in which it is stored, come in the same order. -/
def KeepsOrder (config : Config) (inserts : List (Insert V))
    (place : Equiv.Perm (Fin inserts.length)) : Prop :=
  ∀ one other name, one < other → Dictionary.name config inserts[place one].key = .ok name →
    Dictionary.name config inserts[place other].key = .ok name → place one < place other

theorem Insert.outcome_congr {config : Config} {insert : Insert V} {one other : Key → Bool}
    (same : ∀ name, Dictionary.name config insert.key = .ok name → one name = other name) :
    insert.outcome config one = insert.outcome config other := by
  unfold Insert.outcome
  cases named : Dictionary.name config insert.key with
  | error cause => rfl
  | ok name => simp only [same name named]

theorem Dictionary.lookup_run_inserts (config : Config) (inserts : List (Insert V)) (name : Key) :
    (Dictionary.run config (inserts.map (·.operation))).2.lookup name =
      (Insert.naming config name inserts).foldl (fun old insert => insert.offer old) none :=
  Dictionary.lookup_inserts config [] inserts name

theorem Dictionary.run_inserts_getElem? (config : Config) (inserts : List (Insert V))
    (number : Nat) :
    (Dictionary.run config (inserts.map (·.operation))).1[number]? =
      inserts[number]?.map fun insert => .inserted (insert.outcome config fun name =>
        !(Insert.naming config name (inserts.take number)).isEmpty) := by
  rw [Dictionary.run, transcript_getElem?, List.getElem?_map, Option.map_map, ← List.map_take]
  refine Option.map_congr fun insert _ => ?_
  rw [Function.comp, Dictionary.perform_insert]
  refine congrArg Answer.inserted (Insert.outcome_congr fun name _ => ?_)
  rw [Dictionary.lookup_inserts, Insert.foldl_offer_isSome]
  rfl

section Reordered

variable {config : Config} {inserts : List (Insert V)} {place : Equiv.Perm (Fin inserts.length)}

theorem reordered_getElem? (number : Fin inserts.length) :
    (reordered inserts place)[number.val]? = some inserts[place number] := by
  simp [reordered]

theorem naming_take_isEmpty (config : Config) (inserts : List (Insert V)) (name : Key)
    (number : Nat) :
    (Insert.naming config name (inserts.take number)).isEmpty = false ↔
      ∃ before insert, before < number ∧ inserts[before]? = some insert ∧
        Dictionary.name config insert.key = .ok name := by
  rw [List.isEmpty_eq_false_iff_exists_mem]
  simp only [Insert.naming, List.mem_filter, decide_eq_true_eq]
  simp only [List.mem_iff_getElem?]
  constructor
  · rintro ⟨insert, ⟨before, here⟩, named⟩
    rw [List.getElem?_take] at here
    split at here
    · rename_i earlier
      exact ⟨before, insert, earlier, here, named⟩
    · cases here
  · rintro ⟨before, insert, earlier, here, named⟩
    refine ⟨insert, ⟨before, ?_⟩, named⟩
    rw [List.getElem?_take, if_pos earlier, here]

theorem naming_take_reordered (kept : KeepsOrder config inserts place) {name : Key}
    {number : Fin inserts.length}
    (named : Dictionary.name config inserts[place number].key = .ok name) :
    (Insert.naming config name ((reordered inserts place).take number)).isEmpty =
      (Insert.naming config name (inserts.take (place number))).isEmpty := by
  rw [Bool.eq_iff_iff, ← not_iff_not, Bool.not_eq_true, Bool.not_eq_true, naming_take_isEmpty,
    naming_take_isEmpty]
  constructor
  · rintro ⟨before, insert, earlier, here, sameName⟩
    obtain ⟨slot, rfl⟩ : ∃ slot : Fin inserts.length, slot.val = before :=
      ⟨⟨before, Nat.lt_trans earlier number.isLt⟩, rfl⟩
    rw [reordered_getElem?, Option.some.injEq] at here
    subst here
    exact ⟨place slot, _, kept slot number name earlier sameName named, by simp, sameName⟩
  · rintro ⟨before, insert, earlier, here, sameName⟩
    obtain ⟨slot, rfl⟩ : ∃ slot : Fin inserts.length, (place slot).val = before :=
      ⟨place.symm ⟨before, Nat.lt_trans earlier (place number).isLt⟩, by simp⟩
    have insertEq : inserts[place slot] = insert := by simpa using here
    subst insertEq
    refine ⟨slot, _, ?_, reordered_getElem? slot, sameName⟩
    -- The two cannot stand the other way round in the new order, where they would change places.
    by_contra notEarlier
    have later : number < slot := by
      refine lt_of_le_of_ne (Nat.le_of_not_lt notEarlier) ?_
      rintro rfl
      exact Nat.lt_irrefl _ earlier
    exact Nat.lt_asymm earlier (kept number slot name later named sameName)

theorem naming_reordered (kept : KeepsOrder config inserts place) (name : Key) :
    Insert.naming config name (reordered inserts place) = Insert.naming config name inserts := by
  let named (number : Fin inserts.length) : Bool :=
    Dictionary.name config inserts[number].key = .ok name
  have chosen : ((List.finRange inserts.length).filter (named ∘ place)).map place =
      (List.finRange inserts.length).filter named := by
    have increasing := List.pairwise_lt_finRange inserts.length
    refine List.Pairwise.eq_of_mem_iff (r := (· < ·)) ?_ (increasing.filter named) ?_
    · rw [List.pairwise_map]
      refine (increasing.filter _).imp_of_mem fun {one other} oneIn otherIn earlier => ?_
      exact kept one other name earlier (of_decide_eq_true (List.mem_filter.mp oneIn).2)
        (of_decide_eq_true (List.mem_filter.mp otherIn).2)
    · intro number
      simp only [List.mem_map, List.mem_filter, List.mem_finRange, true_and, Function.comp]
      constructor
      · rintro ⟨slot, here, rfl⟩
        exact here
      · intro here
        exact ⟨place.symm number, by rwa [place.apply_symm_apply], place.apply_symm_apply number⟩
  calc
    Insert.naming config name (reordered inserts place)
        = ((List.finRange inserts.length).filter (named ∘ place)).map
            fun number => inserts[place number] := List.filter_map
    _ = (((List.finRange inserts.length).filter (named ∘ place)).map place).map
            fun number => inserts[number] := by rw [List.map_map]; rfl
    _ = ((List.finRange inserts.length).filter named).map fun number => inserts[number] := by
        rw [chosen]
    _ = Insert.naming config name ((List.finRange inserts.length).map
            fun number => inserts[number]) := by
        rw [Insert.naming, List.filter_map]
        rfl
    _ = Insert.naming config name inserts :=
        congrArg (Insert.naming config name) (List.map_getElem_finRange inserts)

end Reordered

theorem Mirrors.same_measures {config : Config} {one other : Trie V} {left right : Bindings V}
    (leftMirrors : Mirrors config one left) (rightMirrors : Mirrors config other right)
    (same : ∀ name, left.lookup name = right.lookup name) :
    one.size = other.size ∧ one.stats = other.stats := by
  obtain ⟨_, forest, stands, filled⟩ := leftMirrors
  obtain ⟨_, otherForest, otherStands, otherFilled⟩ := rightMirrors
  have binds (key : Key) : forest.shape.Binds key ↔ otherForest.shape.Binds key := by
    rw [Shape.Binds, Shape.Binds, filled.lookup, otherFilled.lookup, same]
  have stats := Shape.stats_congr stands.compact otherStands.compact binds
  rw [stands.size, otherStands.size, stands.stats, otherStands.stats]
  exact ⟨congrArg Stats.keys stats, stats⟩

/-- Insertions in two orders that keep the order of those with the same key come to the same each,
and leave tries that bind the same and count the same. -/
theorem inserts_commute (config : Config) (inserts : List (Insert V))
    (place : Equiv.Perm (Fin inserts.length)) (kept : KeepsOrder config inserts place) :
    let one := (Trie.empty config).run (inserts.map (·.operation))
    let other := (Trie.empty config).run ((reordered inserts place).map (·.operation))
    (∀ number : Fin inserts.length, ∃ outcome,
      one.1[(place number).val]? = some (.inserted outcome) ∧
        other.1[number.val]? = some (.inserted outcome)) ∧
    (∀ key, one.2.find key = other.2.find key) ∧
    one.2.size = other.2.size ∧ one.2.stats = other.2.stats := by
  intro one other
  obtain ⟨oneAnswers, oneMirrors⟩ := run_mirrors config (inserts.map (·.operation))
  obtain ⟨otherAnswers, otherMirrors⟩ :=
    run_mirrors config ((reordered inserts place).map (·.operation))
  have same (name : Key) :
      (Dictionary.run config (inserts.map (·.operation))).2.lookup name =
        (Dictionary.run config ((reordered inserts place).map (·.operation))).2.lookup name := by
    rw [Dictionary.lookup_run_inserts, Dictionary.lookup_run_inserts, naming_reordered kept]
  refine ⟨?_, ?_, oneMirrors.same_measures otherMirrors same⟩
  · intro number
    refine ⟨inserts[place number].outcome config fun name =>
      !(Insert.naming config name (inserts.take (place number))).isEmpty, ?_, ?_⟩
    · rw [oneAnswers, Dictionary.run_inserts_getElem?,
        List.getElem?_eq_getElem (place number).isLt]
      rfl
    · rw [otherAnswers, Dictionary.run_inserts_getElem?, reordered_getElem?, Option.map_some]
      refine congrArg (some ∘ Answer.inserted) (Insert.outcome_congr fun name named => ?_)
      rw [naming_take_reordered kept named]
  · intro key
    rw [oneMirrors.find, otherMirrors.find]
    simp only [same]

theorem inserts_commute_for_two_clients :
    let inserts : List (Insert Nat) :=
      [⟨['o', 'x'], 1, false⟩, ⟨['o', 'w', 'l'], 2, false⟩, ⟨['o', 'x'], 3, true⟩]
    let place : Equiv.Perm (Fin inserts.length) := Equiv.swap ⟨0, by decide⟩ ⟨1, by decide⟩
    let one := (Trie.empty {}).run (inserts.map (·.operation))
    let other := (Trie.empty {}).run ((reordered inserts place).map (·.operation))
    KeepsOrder {} inserts place ∧
    (∀ number : Fin inserts.length, ∃ outcome,
      one.1[(place number).val]? = some (.inserted outcome) ∧
        other.1[number.val]? = some (.inserted outcome)) ∧
    (∀ key, one.2.find key = other.2.find key) ∧
    one.2.size = other.2.size ∧ one.2.stats = other.2.stats := by
  intro inserts place one other
  have apart : ∀ first second : Fin inserts.length, first < second →
      Dictionary.name {} inserts[place first].key = Dictionary.name {} inserts[place second].key →
        place first < place second := by
    decide
  have kept : KeepsOrder {} inserts place := by
    intro first second name earlier firstNamed secondNamed
    exact apart first second earlier (firstNamed.trans secondNamed.symm)
  exact ⟨kept, inserts_commute {} inserts place kept⟩

end RadixForest.Trie
