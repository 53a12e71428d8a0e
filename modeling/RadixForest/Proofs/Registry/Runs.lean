import Mathlib.Data.List.Basic
import RadixForest.Proofs.Trie.Runs
import RadixForest.Registry

/-!
Runs of a registry: requests one after the other, and what they come to. Seen through its handles a
registry is a map from handles to tries: a change through one handle shows through no other, and an
action through a handle that leads nowhere changes nothing.
-/

namespace RadixForest.Registry

variable {V : Type}

inductive Action (V : Type)
  | insert (key : Key) (value : V) (replace : Bool)
  | find (key : Key)
  | get
  | clear
  | revise (change : Trie V → Trie V)
  | destroy

inductive Yield (V : Type)
  | inserted (fresh : Bool)
  | found (value : Option V)
  | trie (trie : Trie V)
  | done
  | destroyed (nodes : Nat)

inductive Request (V : Type)
  | create
  | through (handle : Handle) (action : Action V)

inductive Answer (V : Type)
  | created (handle : Handle)
  | outcome (outcome : Except AccessError (Yield V))

def empty (config : Trie.Config) : Registry V := { config }

def act (registry : Registry V) (handle : Handle) :
    Action V → Except AccessError (Yield V) × Registry V
  | .insert key value replace =>
    let change := registry.insert handle key value replace
    (change.outcome.map .inserted, change.registry)
  | .find key => ((registry.find handle key).map .found, registry)
  | .get => ((registry.get handle).map .trie, registry)
  | .clear =>
    let change := registry.clear handle
    (change.outcome.map fun _ => .done, change.registry)
  | .revise change =>
    match registry.get handle with
    | .error invalid => (.error invalid, registry)
    | .ok trie => (.ok .done, registry.put handle (change trie))
  | .destroy =>
    let change := registry.destroy handle
    (change.outcome.map .destroyed, change.registry)

def perform (registry : Registry V) : Request V → Answer V × Registry V
  | .create => (.created registry.create.1, registry.create.2)
  | .through handle action =>
    (.outcome (registry.act handle action).1, (registry.act handle action).2)

def run (registry : Registry V) (requests : List (Request V)) : List (Answer V) × Registry V :=
  Trie.transcript perform registry requests

@[simp] theorem run_nil (registry : Registry V) : registry.run [] = ([], registry) := rfl

@[simp] theorem run_create (registry : Registry V) (requests : List (Request V)) :
    registry.run (.create :: requests) =
      (.created registry.create.1 :: (registry.create.2.run requests).1,
        (registry.create.2.run requests).2) := rfl

@[simp] theorem run_through (registry : Registry V) (handle : Handle) (action : Action V)
    (requests : List (Request V)) :
    registry.run (.through handle action :: requests) =
      (.outcome (registry.act handle action).1 :: ((registry.act handle action).2.run requests).1,
        ((registry.act handle action).2.run requests).2) := rfl

/-- What an action comes to on a trie that no registry holds. A destroyed trie is gone. -/
def Action.alone (trie : Trie V) : Action V → Except Trie.KeyError (Yield V) × Option (Trie V)
  | .insert key value replace =>
    let insertion := trie.insert key value replace
    (insertion.outcome.map .inserted, some insertion.trie)
  | .find key => ((trie.find key).map .found, some trie)
  | .get => (.ok (.trie trie), some trie)
  | .clear => (.ok .done, some trie.clear)
  | .revise change => (.ok .done, some (change trie))
  | .destroy => (.ok (.destroyed trie.nodeCount), none)

theorem get_eq_ok {registry : Registry V} {handle : Handle} {trie : Trie V} :
    registry.get handle = .ok trie ↔
      registry.slots[handle.slot.toNat]? = some ⟨handle.generation, some trie⟩ := by
  unfold get
  split
  · rename_i generation held slot
    rw [slot]
    by_cases same : generation = handle.generation
    · simp [same]
    · simp [same]
  · rename_i noTrie
    simp only [reduceCtorEq, false_iff]
    exact noTrie handle.generation trie

theorem get_eq_error {registry : Registry V} {handle : Handle} {cause : AccessError}
    (invalid : registry.get handle = .error cause) : cause = .invalidHandle handle := by
  unfold get at invalid
  split at invalid
  · split at invalid
    · simp at invalid
    · exact (Except.error.inj invalid).symm
  · exact (Except.error.inj invalid).symm

theorem get_congr {one other : Registry V} {handle : Handle}
    (same : ∀ trie, one.get handle = .ok trie ↔ other.get handle = .ok trie) :
    one.get handle = other.get handle := by
  cases left : one.get handle with
  | ok trie => exact ((same trie).mp left).symm
  | error cause =>
      cases right : other.get handle with
      | ok trie => rw [(same trie).mpr right] at left; simp at left
      | error otherCause => rw [get_eq_error left, get_eq_error right]

def release (registry : Registry V) (handle : Handle) : Registry V :=
  { registry with
    slots := registry.slots.setIfInBounds handle.slot.toNat ⟨handle.generation + 1, none⟩
    free := handle.slot :: registry.free }

theorem act_of_error {registry : Registry V} {handle : Handle} {cause : AccessError}
    (invalid : registry.get handle = .error cause) (action : Action V) :
    registry.act handle action = (.error (.invalidHandle handle), registry) := by
  have causeEq := get_eq_error invalid
  subst causeEq
  cases action with
  | insert key value replace => simp only [act, insert, invalid]; rfl
  | find key => simp only [act, find, invalid]; rfl
  | get => simp only [act, invalid]; rfl
  | clear => simp only [act, clear, invalid]; rfl
  | revise change => simp only [act, invalid]
  | destroy => simp only [act, destroy, invalid]; rfl

theorem put_self {registry : Registry V} {handle : Handle} {trie : Trie V}
    (live : registry.get handle = .ok trie) : registry.put handle trie = registry := by
  have slot := get_eq_ok.mp live
  have same : registry.slots.modify handle.slot.toNat
      (fun slot => { slot with trie := some trie }) = registry.slots := by
    apply Array.ext_getElem?
    intro number
    rw [Array.getElem?_modify]
    by_cases here : handle.slot.toNat = number
    · subst here
      rw [if_pos rfl, slot, Option.map_some]
    · rw [if_neg here]
  rw [put, same]

/-- Behind a handle that leads to a trie an action does to it what it does to a trie alone. -/
theorem act_of_ok {registry : Registry V} {handle : Handle} {trie : Trie V}
    (live : registry.get handle = .ok trie) (action : Action V) :
    registry.act handle action =
      ((action.alone trie).1.mapError .refused,
        match (action.alone trie).2 with
        | some next => registry.put handle next
        | none => registry.release handle) := by
  cases action with
  | insert key value replace =>
      simp only [act, insert, live, Action.alone]
      cases (trie.insert key value replace).outcome <;> rfl
  | find key =>
      simp only [act, find, live, Action.alone, put_self live, Prod.mk.injEq, and_true]
      show ((trie.find key).mapError AccessError.refused).map Yield.found =
        ((trie.find key).map Yield.found).mapError AccessError.refused
      cases trie.find key <;> rfl
  | get =>
      simp only [act, live, Action.alone, put_self live]
      rfl
  | clear =>
      simp only [act, clear, live, Action.alone]
      rfl
  | revise change =>
      simp only [act, live, Action.alone]
      rfl
  | destroy =>
      simp only [act, destroy, live, Action.alone]
      rfl

theorem generation_ne (handle : Handle) {other : Handle}
    (sameSlot : handle.slot.toNat = other.slot.toNat)
    (different : other ≠ handle) : handle.generation ≠ other.generation := by
  intro sameGeneration
  apply different
  have slots := UInt32.toNat_inj.mp sameSlot
  cases handle
  cases other
  simp only [Handle.mk.injEq]
  exact ⟨slots.symm, sameGeneration.symm⟩

theorem get_put {registry : Registry V} {handle : Handle} {old : Trie V}
    (live : registry.get handle = .ok old) (trie : Trie V) (other : Handle) :
    (registry.put handle trie).get other =
      if other = handle then .ok trie else registry.get other := by
  have slot := get_eq_ok.mp live
  by_cases same : other = handle
  · subst same
    rw [if_pos rfl, get_eq_ok, put, Array.getElem?_modify, if_pos rfl, slot, Option.map_some]
  · rw [if_neg same]
    apply get_congr
    intro seen
    rw [get_eq_ok, get_eq_ok, put, Array.getElem?_modify]
    by_cases here : handle.slot.toNat = other.slot.toNat
    · have later := generation_ne handle here same
      rw [if_pos here, ← here, slot]
      simp [later]
    · rw [if_neg here]

theorem getElem?_release {registry : Registry V} {handle : Handle} {old : Trie V}
    (live : registry.get handle = .ok old) (number : Nat) :
    (registry.release handle).slots[number]? =
      if handle.slot.toNat = number then some ⟨handle.generation + 1, none⟩
      else registry.slots[number]? := by
  have bound := (Array.getElem?_eq_some_iff.mp (get_eq_ok.mp live)).1
  rw [release, Array.getElem?_setIfInBounds, if_pos bound]

theorem get_release {registry : Registry V} {handle : Handle} {old : Trie V}
    (live : registry.get handle = .ok old) (other : Handle) :
    (registry.release handle).get other =
      if other = handle then .error (.invalidHandle handle) else registry.get other := by
  have slot := get_eq_ok.mp live
  by_cases same : other = handle
  · subst same
    rw [if_pos rfl]
    cases found : (registry.release other).get other with
    | ok trie => simp [get_eq_ok, getElem?_release live] at found
    | error cause => rw [get_eq_error found]
  · rw [if_neg same]
    apply get_congr
    intro seen
    rw [get_eq_ok, get_eq_ok, getElem?_release live]
    by_cases here : handle.slot.toNat = other.slot.toNat
    · have later := generation_ne handle here same
      rw [if_pos here, ← here, slot]
      simp [later]
    · rw [if_neg here]

/-- An action through a handle leaves what other handles lead to as it is. -/
theorem get_act_of_ne (registry : Registry V) {handle other : Handle} (different : other ≠ handle)
    (action : Action V) : (registry.act handle action).2.get other = registry.get other := by
  cases found : registry.get handle with
  | error cause => rw [act_of_error found]
  | ok trie =>
      rw [act_of_ok found]
      cases (action.alone trie).2 with
      | some next => rw [get_put found, if_neg different]
      | none => rw [get_release found, if_neg different]

end RadixForest.Registry
