import RadixForest.Proofs.Registry.Runs

/-!
The slots of a registry and its list of free ones. The list names each slot without a trie once and
no other slot, so a new trie never takes the place of an old one.
-/

namespace RadixForest.Registry

variable {V : Type}

def Slot.tenants (destroyed : Nat) : Slot V → Nat
  | ⟨_, none⟩ => destroyed
  | ⟨_, some _⟩ => destroyed + 1

structure Tidy (registry : Registry V) : Prop where
  distinct : registry.free.Nodup
  listed : ∀ number ∈ registry.free, ∃ generation,
    registry.slots[number.toNat]? = some ⟨generation, none⟩
  vacant : ∀ (place : Nat) generation, registry.slots[place]? = some ⟨generation, none⟩ →
    ∃ number ∈ registry.free, number.toNat = place

theorem Tidy.create_cases {registry : Registry V} (tidy : registry.Tidy) :
    (∃ number free generation, registry.free = number :: free ∧
      registry.slots[number.toNat]? = some ⟨generation, none⟩ ∧
      registry.create = (⟨number, generation⟩, { registry with
        free
        slots := registry.slots.setIfInBounds number.toNat
          ⟨generation, some (Trie.empty registry.config)⟩ })) ∨
    (registry.free = [] ∧
      registry.create = (⟨registry.slots.size.toUInt32, 0⟩, { registry with
        slots := registry.slots.push ⟨0, some (Trie.empty registry.config)⟩ })) := by
  cases free : registry.free with
  | nil =>
      refine Or.inr ⟨rfl, ?_⟩
      simp only [create, free]
  | cons number rest =>
      obtain ⟨generation, slot⟩ := tidy.listed number (by simp [free])
      refine Or.inl ⟨number, rest, generation, rfl, slot, ?_⟩
      simp only [create, free, slot, Option.map_some, Option.getD_some]

namespace Tidy

variable {registry : Registry V}

theorem empty (config : Trie.Config) : (Registry.empty config : Registry V).Tidy := by
  refine ⟨List.nodup_nil, ?_, ?_⟩
  · simp [Registry.empty]
  · simp [Registry.empty]

theorem create (tidy : registry.Tidy) : registry.create.2.Tidy := by
  rcases tidy.create_cases with ⟨number, free, generation, freeEq, slot, created⟩ | ⟨none, created⟩
  · have distinct := tidy.distinct
    rw [freeEq, List.nodup_cons] at distinct
    have bound := (Array.getElem?_eq_some_iff.mp slot).1
    rw [created]
    refine ⟨distinct.2, ?_, ?_⟩
    · intro other member
      have different : number.toNat ≠ other.toNat := by
        intro same
        exact distinct.1 (UInt32.toNat_inj.mp same ▸ member)
      rw [Array.getElem?_setIfInBounds, if_neg different]
      exact tidy.listed other (by simp [freeEq, member])
    · intro place other empty
      rw [Array.getElem?_setIfInBounds, if_pos bound] at empty
      by_cases here : number.toNat = place
      · simp [here] at empty
      · rw [if_neg here] at empty
        obtain ⟨found, member, rfl⟩ := tidy.vacant place other empty
        rw [freeEq, List.mem_cons] at member
        rcases member with rfl | later
        · exact absurd rfl here
        · exact ⟨found, later, rfl⟩
  · rw [created]
    refine ⟨tidy.distinct, ?_, ?_⟩
    · simp [none]
    · intro place other empty
      rw [Array.getElem?_push] at empty
      split at empty
      · simp at empty
      · exact tidy.vacant place other empty

theorem put (tidy : registry.Tidy) {handle : Handle} {old : Trie V}
    (live : registry.get handle = .ok old) (trie : Trie V) : (registry.put handle trie).Tidy := by
  have slot := get_eq_ok.mp live
  have unchanged (place : Nat) (generation : UInt32) :
      (registry.put handle trie).slots[place]? = some ⟨generation, none⟩ ↔
        registry.slots[place]? = some ⟨generation, none⟩ := by
    rw [Registry.put, Array.getElem?_modify]
    by_cases here : handle.slot.toNat = place
    · rw [if_pos here, ← here, slot]
      simp
    · rw [if_neg here]
  refine ⟨tidy.distinct, ?_, ?_⟩
  · intro number member
    obtain ⟨generation, empty⟩ := tidy.listed number member
    exact ⟨generation, (unchanged _ _).mpr empty⟩
  · intro place generation empty
    exact tidy.vacant place generation ((unchanged _ _).mp empty)

theorem release (tidy : registry.Tidy) {handle : Handle} {old : Trie V}
    (live : registry.get handle = .ok old) : (registry.release handle).Tidy := by
  have slot := get_eq_ok.mp live
  have held : handle.slot ∉ registry.free := by
    intro member
    obtain ⟨generation, empty⟩ := tidy.listed _ member
    rw [slot] at empty
    simp at empty
  refine ⟨List.nodup_cons.mpr ⟨held, tidy.distinct⟩, ?_, ?_⟩
  · intro number member
    rw [getElem?_release live]
    by_cases here : handle.slot.toNat = number.toNat
    · exact ⟨_, if_pos here⟩
    · rw [if_neg here]
      rcases List.mem_cons.mp member with rfl | before
      · exact absurd rfl here
      · exact tidy.listed number before
  · intro place generation empty
    rw [getElem?_release live] at empty
    by_cases here : handle.slot.toNat = place
    · exact ⟨handle.slot, List.mem_cons_self, here⟩
    · rw [if_neg here] at empty
      obtain ⟨number, member, found⟩ := tidy.vacant place generation empty
      exact ⟨number, List.mem_cons_of_mem _ member, found⟩

end Tidy

/-- While slots can be told apart by their numbers, the handle of a new trie leads to it, and all
other handles lead where they led before. -/
theorem Tidy.get_create {registry : Registry V} (tidy : registry.Tidy)
    (room : registry.free = [] → registry.slots.size < UInt32.size) (other : Handle) :
    registry.create.2.get other =
      if other = registry.create.1 then .ok (Trie.empty registry.config)
      else registry.get other := by
  rcases tidy.create_cases with ⟨number, free, generation, freeEq, slot, created⟩ | ⟨none, created⟩
  · have bound := (Array.getElem?_eq_some_iff.mp slot).1
    rw [created]
    by_cases same : other = ⟨number, generation⟩
    · subst same
      rw [if_pos rfl, get_eq_ok, Array.getElem?_setIfInBounds, if_pos rfl, if_pos bound]
    · rw [if_neg same]
      apply get_congr
      intro seen
      rw [get_eq_ok, get_eq_ok, Array.getElem?_setIfInBounds, if_pos bound]
      by_cases here : number.toNat = other.slot.toNat
      · have later : generation ≠ other.generation :=
          generation_ne ⟨number, generation⟩ here same
        rw [if_pos here, ← here, slot]
        simp [later]
      · rw [if_neg here]
  · have small := room none
    have number : registry.slots.size.toUInt32.toNat = registry.slots.size :=
      UInt32.toNat_ofNat_of_lt' small
    rw [created]
    by_cases same : other = ⟨registry.slots.size.toUInt32, 0⟩
    · subst same
      rw [if_pos rfl, get_eq_ok, Array.getElem?_push, if_pos number]
    · rw [if_neg same]
      apply get_congr
      intro seen
      rw [get_eq_ok, get_eq_ok, Array.getElem?_push]
      by_cases here : other.slot.toNat = registry.slots.size
      · have later : (0 : UInt32) ≠ other.generation :=
          generation_ne ⟨registry.slots.size.toUInt32, 0⟩ (number.trans here.symm) same
        rw [if_pos here, here, Array.getElem?_eq_none (Nat.le_refl _)]
        simp [later]
      · rw [if_neg here]

end RadixForest.Registry
