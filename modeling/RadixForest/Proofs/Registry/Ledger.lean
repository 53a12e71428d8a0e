import RadixForest.Proofs.Registry.Slots

/-!
The handles that a registry has given out. Each slot gives its handles out one after the other, so
as long as no more tries are made than there are generations, no handle is given out twice.
-/

namespace RadixForest.Registry

variable {V : Type}

theorem ofNat_inj {left right : Nat} (leftBound : left < UInt32.size)
    (rightBound : right < UInt32.size) (same : UInt32.ofNat left = UInt32.ofNat right) :
    left = right := by
  have values := congrArg UInt32.toNat same
  rwa [UInt32.toNat_ofNat_of_lt' leftBound, UInt32.toNat_ofNat_of_lt' rightBound] at values

structure Slot.Given (slot : Slot V) (place destroyed : Nat) (handles : List Handle) : Prop where
  generation : slot.generation = UInt32.ofNat destroyed
  few : slot.tenants destroyed ≤ handles.length
  exactly : ∀ handle : Handle, handle.slot.toNat = place → (handle ∈ handles ↔
    ∃ earlier, earlier < slot.tenants destroyed ∧ handle.generation = UInt32.ofNat earlier)

namespace Slot.Given

variable {generation : UInt32} {place destroyed : Nat} {handles : List Handle}

theorem elsewhere {slot : Slot V} (given : slot.Given place destroyed handles) {fresh : Handle}
    (different : fresh.slot.toNat ≠ place) : slot.Given place destroyed (fresh :: handles) := by
  refine ⟨given.generation, Nat.le_succ_of_le given.few, ?_⟩
  intro handle inSlot
  have notFresh : handle ≠ fresh := by
    rintro rfl
    exact different inSlot
  rw [← given.exactly handle inSlot, List.mem_cons]
  simp [notFresh]

theorem filled {number : UInt32}
    (given : (⟨generation, none⟩ : Slot V).Given number.toNat destroyed handles) (trie : Trie V) :
    (⟨generation, some trie⟩ : Slot V).Given number.toNat destroyed
      (⟨number, generation⟩ :: handles) := by
  refine ⟨given.generation, Nat.succ_le_succ given.few, ?_⟩
  intro handle inSlot
  have slots : handle.slot = number := UInt32.toNat_inj.mp inSlot
  simp only [List.mem_cons, given.exactly handle inSlot, Slot.tenants]
  constructor
  · rintro (rfl | ⟨earlier, less, same⟩)
    · exact ⟨destroyed, Nat.lt_succ_self _, given.generation⟩
    · exact ⟨earlier, Nat.lt_succ_of_lt less, same⟩
  · rintro ⟨earlier, less, same⟩
    rcases Nat.lt_succ_iff_lt_or_eq.mp less with older | rfl
    · exact Or.inr ⟨earlier, older, same⟩
    · left
      cases handle
      simp only [Handle.mk.injEq]
      exact ⟨slots, same.trans given.generation.symm⟩

theorem first {number : UInt32} (unknown : ∀ handle ∈ handles, handle.slot.toNat < number.toNat)
    (trie : Trie V) :
    (⟨0, some trie⟩ : Slot V).Given number.toNat 0 (⟨number, 0⟩ :: handles) := by
  apply filled
  refine ⟨rfl, Nat.zero_le _, ?_⟩
  intro handle inSlot
  have absent : handle ∉ handles := by
    intro member
    exact Nat.ne_of_lt (unknown handle member) inSlot
  simp [absent, Slot.tenants]

theorem replaced {old : Trie V}
    (given : (⟨generation, some old⟩ : Slot V).Given place destroyed handles) (trie : Trie V) :
    (⟨generation, some trie⟩ : Slot V).Given place destroyed handles :=
  ⟨given.generation, given.few, given.exactly⟩

theorem vacated {old : Trie V}
    (given : (⟨generation, some old⟩ : Slot V).Given place destroyed handles) :
    (⟨generation + 1, none⟩ : Slot V).Given place (destroyed + 1) handles := by
  refine ⟨?_, given.few, given.exactly⟩
  have before : generation = UInt32.ofNat destroyed := given.generation
  rw [UInt32.ofNat_add, before]
  rfl

theorem not_mem {number : UInt32}
    (given : (⟨generation, none⟩ : Slot V).Given number.toNat destroyed handles)
    (room : handles.length < UInt32.size) : (⟨number, generation⟩ : Handle) ∉ handles := by
  intro member
  have few := given.few
  obtain ⟨earlier, less, same⟩ := (given.exactly ⟨number, generation⟩ rfl).mp member
  simp only [Slot.tenants] at few less
  have current := given.generation.symm.trans same
  have round := ofNat_inj (by omega) (by omega) current
  omega

end Slot.Given

structure Ledger (registry : Registry V) (handles : List Handle) : Prop extends Tidy registry where
  unique : handles.Nodup
  known : ∀ handle ∈ handles, handle.slot.toNat < registry.slots.size
  size : registry.slots.size ≤ handles.length
  given : ∀ (place : Nat) slot, registry.slots[place]? = some slot →
    ∃ destroyed, slot.Given place destroyed handles

namespace Ledger

variable {registry : Registry V} {handles : List Handle}

theorem empty (config : Trie.Config) : (Registry.empty config : Registry V).Ledger [] where
  toTidy := Tidy.empty config
  unique := List.nodup_nil
  known := by simp
  size := by simp [Registry.empty]
  given := by simp [Registry.empty]

theorem mem_of_get (ledger : registry.Ledger handles) {handle : Handle} {trie : Trie V}
    (live : registry.get handle = .ok trie) : handle ∈ handles := by
  obtain ⟨destroyed, given⟩ := ledger.given _ _ (get_eq_ok.mp live)
  apply (given.exactly handle rfl).mpr
  exact ⟨destroyed, Nat.lt_succ_self _, given.generation⟩

theorem number_of_size (ledger : registry.Ledger handles) (room : handles.length < UInt32.size) :
    registry.slots.size.toUInt32.toNat = registry.slots.size :=
  UInt32.toNat_ofNat_of_lt' (Nat.lt_of_le_of_lt ledger.size room)

theorem create_not_mem (ledger : registry.Ledger handles) (room : handles.length < UInt32.size) :
    registry.create.1 ∉ handles := by
  rcases ledger.create_cases with ⟨number, free, generation, _, slot, created⟩ | ⟨_, created⟩
  · obtain ⟨destroyed, given⟩ := ledger.given _ _ slot
    rw [created]
    exact given.not_mem room
  · rw [created]
    intro member
    have bound := ledger.known _ member
    rw [ledger.number_of_size room] at bound
    exact Nat.lt_irrefl _ bound

theorem create (ledger : registry.Ledger handles) (room : handles.length < UInt32.size) :
    registry.create.2.Ledger (registry.create.1 :: handles) := by
  have unique := List.nodup_cons.mpr ⟨ledger.create_not_mem room, ledger.unique⟩
  have tidy := ledger.toTidy.create
  rcases ledger.create_cases with ⟨number, free, generation, _, slot, created⟩ | ⟨_, created⟩
  · rw [created] at unique tidy ⊢
    have bound := (Array.getElem?_eq_some_iff.mp slot).1
    refine ⟨tidy, unique, ?_, ?_, ?_⟩
    · intro handle member
      rw [Array.size_setIfInBounds]
      rcases List.mem_cons.mp member with rfl | before
      · exact bound
      · exact ledger.known handle before
    · rw [Array.size_setIfInBounds]
      exact Nat.le_succ_of_le ledger.size
    · intro place found held
      rw [Array.getElem?_setIfInBounds, if_pos bound] at held
      by_cases here : number.toNat = place
      · subst here
        rw [if_pos rfl, Option.some.injEq] at held
        subst held
        obtain ⟨destroyed, given⟩ := ledger.given _ _ slot
        exact ⟨destroyed, given.filled _⟩
      · rw [if_neg here] at held
        obtain ⟨destroyed, given⟩ := ledger.given _ _ held
        exact ⟨destroyed, given.elsewhere here⟩
  · have number := ledger.number_of_size room
    rw [created] at unique tidy ⊢
    refine ⟨tidy, unique, ?_, ?_, ?_⟩
    · intro handle member
      rw [Array.size_push]
      rcases List.mem_cons.mp member with rfl | before
      · rw [number]
        exact Nat.lt_succ_self _
      · exact Nat.lt_succ_of_lt (ledger.known handle before)
    · rw [Array.size_push]
      exact Nat.succ_le_succ ledger.size
    · intro place found held
      rw [Array.getElem?_push] at held
      by_cases here : place = registry.slots.size
      · rw [if_pos here, Option.some.injEq] at held
        subst held
        rw [← number] at here
        subst here
        refine ⟨0, Slot.Given.first ?_ _⟩
        intro handle member
        rw [number]
        exact ledger.known handle member
      · rw [if_neg here] at held
        obtain ⟨destroyed, given⟩ := ledger.given _ _ held
        refine ⟨destroyed, given.elsewhere ?_⟩
        rw [number]
        exact Ne.symm here

theorem put (ledger : registry.Ledger handles) {handle : Handle} {old : Trie V}
    (live : registry.get handle = .ok old) (trie : Trie V) :
    (registry.put handle trie).Ledger handles := by
  have slot := get_eq_ok.mp live
  refine ⟨ledger.toTidy.put live trie, ledger.unique, ?_, ?_, ?_⟩
  · intro other member
    rw [Registry.put, Array.size_modify]
    exact ledger.known other member
  · rw [Registry.put, Array.size_modify]
    exact ledger.size
  · intro place found held
    rw [Registry.put, Array.getElem?_modify] at held
    by_cases here : handle.slot.toNat = place
    · subst here
      rw [if_pos rfl, slot, Option.map_some, Option.some.injEq] at held
      subst held
      obtain ⟨destroyed, given⟩ := ledger.given _ _ slot
      exact ⟨destroyed, given.replaced trie⟩
    · rw [if_neg here] at held
      exact ledger.given place found held

theorem release (ledger : registry.Ledger handles) {handle : Handle} {old : Trie V}
    (live : registry.get handle = .ok old) : (registry.release handle).Ledger handles := by
  have slot := get_eq_ok.mp live
  have size : (registry.release handle).slots.size = registry.slots.size :=
    Array.size_setIfInBounds
  refine ⟨ledger.toTidy.release live, ledger.unique, ?_, ?_, ?_⟩
  · intro other member
    rw [size]
    exact ledger.known other member
  · rw [size]
    exact ledger.size
  · intro place found held
    rw [getElem?_release live] at held
    by_cases here : handle.slot.toNat = place
    · subst here
      rw [if_pos rfl, Option.some.injEq] at held
      subst held
      obtain ⟨destroyed, given⟩ := ledger.given _ _ slot
      exact ⟨destroyed + 1, given.vacated⟩
    · rw [if_neg here] at held
      exact ledger.given place found held

theorem act (ledger : registry.Ledger handles) (handle : Handle) (action : Action V) :
    (registry.act handle action).2.Ledger handles := by
  cases found : registry.get handle with
  | error cause =>
      rw [act_of_error found]
      exact ledger
  | ok trie =>
      rw [act_of_ok found]
      cases (action.alone trie).2 with
      | some next => exact ledger.put found next
      | none => exact ledger.release found

theorem get_create (ledger : registry.Ledger handles) (room : handles.length < UInt32.size)
    (other : Handle) :
    registry.create.2.get other =
      if other = registry.create.1 then .ok (Trie.empty registry.config)
      else registry.get other :=
  ledger.toTidy.get_create (fun _ => Nat.lt_of_le_of_lt ledger.size room) other

end Ledger

end RadixForest.Registry
