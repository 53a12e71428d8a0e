import RadixForest.Trie.Basic

/-!
A registry owns tries and gives out handles to them. A handle names a slot and the generation of
its tenant; destroying a trie moves its slot to the next generation, so the handle no longer
fits when the slot is taken again.
-/

namespace RadixForest

structure Handle where
  slot : UInt32
  generation : UInt32
deriving DecidableEq, Repr

def Handle.text (handle : Handle) : String :=
  "#" ++ toString handle.slot.toNat ++ "@" ++ toString handle.generation.toNat

structure Registry.Slot (V : Type) where
  -- Counts the tries destroyed in this slot; it starts again at zero after 2^32 of them.
  generation : UInt32
  trie : Option (Trie V)

structure Registry (V : Type) where
  config : Trie.Config
  slots : Array (Registry.Slot V) := #[]
  -- The slots without a trie, the one freed last at the head.
  free : List UInt32 := []

namespace Registry

inductive AccessError
  | refused (cause : Trie.KeyError)
  | invalidHandle (handle : Handle)
deriving DecidableEq, Repr

def AccessError.message : AccessError → String
  | .refused cause => cause.message
  | .invalidHandle handle => "Invalid trie handle: " ++ handle.text

inductive Event
  | inTrie (event : Trie.Event)
  | released (handle : Handle)
deriving DecidableEq, Repr

variable {V : Type}

def size (registry : Registry V) : Nat := registry.slots.size - registry.free.length

def isEmpty (registry : Registry V) : Bool := registry.size == 0

/-- Makes an empty trie, in the slot freed last if there is one. -/
def create (registry : Registry V) : Handle × Registry V :=
  let fresh := Trie.empty registry.config
  match registry.free with
  | slot :: free =>
    let generation := (registry.slots[slot.toNat]?.map (·.generation)).getD 0
    (⟨slot, generation⟩, { registry with
      free
      slots := registry.slots.setIfInBounds slot.toNat ⟨generation, some fresh⟩ })
  | [] =>
    (⟨registry.slots.size.toUInt32, 0⟩,
      { registry with slots := registry.slots.push ⟨0, some fresh⟩ })

def get (registry : Registry V) (handle : Handle) : Except AccessError (Trie V) :=
  match registry.slots[handle.slot.toNat]? with
  | some ⟨generation, some trie⟩ =>
    if generation = handle.generation then .ok trie else .error (.invalidHandle handle)
  | _ => .error (.invalidHandle handle)

def put (registry : Registry V) (handle : Handle) (trie : Trie V) : Registry V :=
  { registry with
    slots := registry.slots.modify handle.slot.toNat fun slot => { slot with trie := some trie } }

def find (registry : Registry V) (handle : Handle) (key : Key) :
    Except AccessError (Option V) := do
  (← registry.get handle).find key |>.mapError .refused

structure Change (V α : Type) where
  outcome : Except AccessError α
  registry : Registry V
  events : List Event := []

def insert (registry : Registry V) (handle : Handle) (key : Key) (value : V) (replace : Bool) :
    Change V Bool :=
  match registry.get handle with
  | .error invalid => ⟨.error invalid, registry, []⟩
  | .ok trie =>
    let insertion := trie.insert key value replace
    ⟨insertion.outcome.mapError .refused, registry.put handle insertion.trie,
      insertion.events.map .inTrie⟩

def clear (registry : Registry V) (handle : Handle) : Change V Unit :=
  match registry.get handle with
  | .error invalid => ⟨.error invalid, registry, []⟩
  | .ok trie => ⟨.ok (), registry.put handle trie.clear, []⟩

/-- Takes the trie out of its slot and answers with the number of its nodes. -/
def destroy (registry : Registry V) (handle : Handle) : Change V Nat :=
  match registry.get handle with
  | .error invalid => ⟨.error invalid, registry, []⟩
  | .ok trie =>
    let (nodes, events) := trie.destroy
    ⟨.ok nodes,
      { registry with
        slots := registry.slots.setIfInBounds handle.slot.toNat ⟨handle.generation + 1, none⟩
        free := handle.slot :: registry.free },
      .released handle :: events.map .inTrie⟩

end Registry

end RadixForest
