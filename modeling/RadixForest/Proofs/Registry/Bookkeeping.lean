import Mathlib.Data.List.Nodup
import RadixForest.Proofs.Registry.Isolation

/-!
The books of a registry. Whatever is asked of it and through whichever handles, its list of free
slots names the slots without a trie, each of them once. So each trie that was made and not
destroyed has a slot of its own, and the registry counts them right.
-/

namespace RadixForest.Registry

variable {V : Type}

def Answer.destroys : Answer V → Bool
  | .outcome (.ok (.destroyed _)) => true
  | _ => false

def destroyed (answers : List (Answer V)) : Nat := answers.countP (·.destroys)

namespace Tidy

variable {registry : Registry V}

theorem act (tidy : registry.Tidy) (handle : Handle) (action : Action V) :
    (registry.act handle action).2.Tidy := by
  cases found : registry.get handle with
  | error cause =>
      rw [act_of_error found]
      exact tidy
  | ok trie =>
      rw [act_of_ok found]
      cases (action.alone trie).2 with
      | some next => exact tidy.put found next
      | none => exact tidy.release found

theorem run (tidy : registry.Tidy) (requests : List (Request V)) :
    (registry.run requests).2.Tidy := by
  induction requests generalizing registry with
  | nil => exact tidy
  | cons request requests ih =>
      cases request with
      | create => exact ih tidy.create
      | through handle action => exact ih (tidy.act handle action)

theorem lt_size (tidy : registry.Tidy) {number : UInt32} (member : number ∈ registry.free) :
    number.toNat < registry.slots.size := by
  obtain ⟨generation, slot⟩ := tidy.listed number member
  exact (Array.getElem?_eq_some_iff.mp slot).1

theorem trie_eq_none_iff (tidy : registry.Tidy) {place : Nat} {slot : Slot V}
    (held : registry.slots[place]? = some slot) :
    slot.trie = none ↔ ∃ number ∈ registry.free, number.toNat = place := by
  obtain ⟨generation, trie⟩ := slot
  constructor
  · rintro rfl
    exact tidy.vacant place generation held
  · rintro ⟨number, member, rfl⟩
    obtain ⟨other, empty⟩ := tidy.listed number member
    exact congrArg Slot.trie (Option.some.inj (held.symm.trans empty))

theorem getElem?_create (tidy : registry.Tidy) {place : Nat} {slot : Slot V}
    (held : registry.slots[place]? = some slot) (filled : slot.trie ≠ none) :
    registry.create.2.slots[place]? = some slot := by
  rcases tidy.create_cases with ⟨number, free, generation, _, empty, created⟩ | ⟨_, created⟩
  · have elsewhere : number.toNat ≠ place := by
      rintro rfl
      exact filled (congrArg Slot.trie (Option.some.inj (held.symm.trans empty)))
    simp only [created]
    rw [Array.getElem?_setIfInBounds, if_neg elsewhere, held]
  · have bound := (Array.getElem?_eq_some_iff.mp held).1
    simp only [created]
    rw [Array.getElem?_push, if_neg (Nat.ne_of_lt bound), held]

theorem free_perm (tidy : registry.Tidy) :
    (registry.free.map UInt32.toNat).Perm
      (registry.slots.toList.findIdxs (·.trie.isNone)) := by
  have distinct : (registry.free.map UInt32.toNat).Nodup :=
    List.Nodup.map (fun _ _ same => UInt32.toNat_inj.mp same) tidy.distinct
  refine (List.perm_ext_iff_of_nodup distinct List.nodup_findIdxs).mpr fun place => ?_
  rw [List.mem_map, List.mem_findIdxs_iff_exists_getElem_pos]
  constructor
  · rintro ⟨number, member, rfl⟩
    have bound := tidy.lt_size member
    have held := Array.getElem?_eq_getElem bound
    have empty := (tidy.trie_eq_none_iff held).mpr ⟨number, member, rfl⟩
    exact ⟨bound, by simpa using empty⟩
  · rintro ⟨bound, empty⟩
    have held := Array.getElem?_eq_getElem bound
    exact (tidy.trie_eq_none_iff held).mp (by simpa using empty)

theorem length_free (tidy : registry.Tidy) :
    registry.free.length + registry.slots.countP (·.trie.isSome) = registry.slots.size := by
  have empty := tidy.free_perm.length_eq
  rw [List.length_map, List.length_findIdxs] at empty
  have split := List.length_eq_countP_add_countP (l := registry.slots.toList) (·.trie.isNone)
  have filled : registry.slots.toList.countP (fun slot => ¬slot.trie.isNone) =
      registry.slots.countP (·.trie.isSome) := by
    rw [← Array.countP_toList]
    exact List.countP_congr fun slot _ => by simp [Option.isSome_iff_ne_none]
  rw [empty, ← filled, ← split, Array.length_toList]

theorem size_eq (tidy : registry.Tidy) :
    registry.size = registry.slots.countP (·.trie.isSome) := by
  have all := tidy.length_free
  unfold size
  omega

theorem size_create (tidy : registry.Tidy) : registry.create.2.size = registry.size + 1 := by
  have all := tidy.length_free
  rcases tidy.create_cases with ⟨number, free, generation, freeEq, _, created⟩ | ⟨none, created⟩
  · rw [freeEq, List.length_cons] at all
    simp only [created, size, freeEq, List.length_cons, Array.size_setIfInBounds]
    omega
  · simp only [created, size, none, List.length_nil, Array.size_push, Nat.sub_zero]

theorem size_release (tidy : registry.Tidy) {handle : Handle} {trie : Trie V}
    (live : registry.get handle = .ok trie) :
    (registry.release handle).size + 1 = registry.size := by
  have all := (tidy.release live).length_free
  simp only [Registry.release, Array.size_setIfInBounds, List.length_cons] at all
  simp only [size, Registry.release, Array.size_setIfInBounds, List.length_cons]
  omega

end Tidy

theorem size_put (registry : Registry V) (handle : Handle) (trie : Trie V) :
    (registry.put handle trie).size = registry.size := by
  simp only [size, put, Array.size_modify]

theorem destroys_alone (trie : Trie V) (action : Action V) :
    (Answer.outcome ((action.alone trie).1.mapError .refused)).destroys =
      (action.alone trie).2.isNone := by
  cases action with
  | insert key value replace =>
      simp only [Action.alone]
      cases (trie.insert key value replace).outcome <;> rfl
  | find key =>
      simp only [Action.alone]
      cases trie.find key <;> rfl
  | _ => rfl

theorem size_act {registry : Registry V} (tidy : registry.Tidy) (handle : Handle)
    (action : Action V) :
    (registry.act handle action).2.size +
        (if (Answer.outcome (registry.act handle action).1).destroys then 1 else 0) =
      registry.size := by
  cases found : registry.get handle with
  | error cause =>
      rw [act_of_error found]
      rfl
  | ok trie =>
      rw [act_of_ok found, destroys_alone]
      cases (action.alone trie).2 with
      | some next => exact size_put registry handle next
      | none => exact tidy.size_release found

theorem size_run {registry : Registry V} (tidy : registry.Tidy) (requests : List (Request V)) :
    (registry.run requests).2.size + destroyed (registry.run requests).1 =
      registry.size + made requests := by
  induction requests generalizing registry with
  | nil => rfl
  | cons request requests ih =>
      cases request with
      | create =>
          have later := ih tidy.create
          rw [tidy.size_create] at later
          rw [run_create, made, destroyed, List.countP_cons_of_neg (by simp [Answer.destroys])]
          exact later.trans (Nat.add_right_comm _ _ _)
      | through handle action =>
          have later := ih (tidy.act handle action)
          have now := size_act tidy handle action
          simp only [run_through, made, destroyed, List.countP_cons] at later ⊢
          omega

theorem act_invalidHandle {registry : Registry V} {handle invalid : Handle} {action : Action V}
    (failed : (registry.act handle action).1 = .error (.invalidHandle invalid)) :
    (registry.act handle action).2 = registry := by
  cases found : registry.get handle with
  | error cause => rw [act_of_error found]
  | ok trie =>
      rw [act_of_ok found] at failed
      cases outcome : (action.alone trie).1 <;> simp [outcome, Except.mapError] at failed

/-- The books of a registry in which so many tries were made and so many destroyed. -/
structure Balanced (registry : Registry V) (made destroyed : Nat) : Prop where
  distinct : registry.free.Nodup
  inside : ∀ number ∈ registry.free, number.toNat < registry.slots.size
  free_iff : ∀ (place : Nat) slot, registry.slots[place]? = some slot →
    ((∃ number ∈ registry.free, number.toNat = place) ↔ slot.trie = none)
  -- A new trie takes the place of no other.
  kept : ∀ (place : Nat) slot, registry.slots[place]? = some slot → slot.trie ≠ none →
    registry.create.2.slots[place]? = some slot
  -- The free slots are not more than the slots, so their difference is a count.
  enough : registry.free.length ≤ registry.slots.size
  size : registry.size = registry.slots.countP (·.trie.isSome)
  balance : registry.size + destroyed = made
  unchanged : ∀ handle action invalid,
    (registry.act handle action).1 = .error (.invalidHandle invalid) →
      (registry.act handle action).2 = registry

/-- After any run the books of a registry are balanced. -/
theorem balanced_run (config : Trie.Config) (requests : List (Request V)) :
    Balanced ((empty config).run requests).2 (made requests)
      (destroyed ((empty config).run requests).1) := by
  have start := Tidy.empty (V := V) config
  have tidy := start.run requests
  have counted := size_run start requests
  exact
    { distinct := tidy.distinct
      inside := fun number member => tidy.lt_size member
      free_iff := fun place slot held => (tidy.trie_eq_none_iff held).symm
      kept := fun place slot held filled => tidy.getElem?_create held filled
      enough := tidy.length_free ▸ Nat.le_add_right _ _
      size := tidy.size_eq
      balance := counted.trans (Nat.zero_add _)
      unchanged := fun handle action invalid failed => act_invalidHandle failed }

end RadixForest.Registry
