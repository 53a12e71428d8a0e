import RadixForest.Proofs.Registry.Ledger

/-!
Tries of one registry do not see each other. As long as no more tries are made than there are
generations, what is done through a handle comes to what it would come to with a trie of its own.
-/

namespace RadixForest.Registry

variable {V : Type}

def made : List (Request V) → Nat
  | [] => 0
  | .create :: requests => made requests + 1
  | .through _ _ :: requests => made requests

def issued : List (Answer V) → List Handle
  | [] => []
  | .created handle :: answers => handle :: issued answers
  | .outcome _ :: answers => issued answers

def actionsThrough (handle : Handle) : List (Request V) → List (Action V)
  | [] => []
  | .create :: requests => actionsThrough handle requests
  | .through other action :: requests =>
    if other = handle then action :: actionsThrough handle requests
    else actionsThrough handle requests

def outcomesThrough (handle : Handle) :
    List (Request V) → List (Answer V) → List (Except AccessError (Yield V))
  | .through other _ :: requests, .outcome outcome :: answers =>
    if other = handle then outcome :: outcomesThrough handle requests answers
    else outcomesThrough handle requests answers
  | _ :: requests, _ :: answers => outcomesThrough handle requests answers
  | _, _ => []

def lone (handle : Handle) :
    Option (Trie V) → Action V → Except AccessError (Yield V) × Option (Trie V)
  | some trie, action => ((action.alone trie).1.mapError .refused, (action.alone trie).2)
  | none, _ => (.error (.invalidHandle handle), none)

theorem made_append (before after : List (Request V)) :
    made (before ++ after) = made before + made after := by
  induction before with
  | nil => simp [made]
  | cons request before ih =>
      cases request with
      | create =>
          simp only [List.cons_append, made, ih]
          omega
      | through handle action => simp only [List.cons_append, made, ih]

theorem act_config (registry : Registry V) (handle : Handle) (action : Action V) :
    (registry.act handle action).2.config = registry.config := by
  cases found : registry.get handle with
  | error cause => rw [act_of_error found]
  | ok trie =>
      rw [act_of_ok found]
      cases (action.alone trie).2 <;> rfl

theorem run_config (registry : Registry V) (requests : List (Request V)) :
    (registry.run requests).2.config = registry.config := by
  induction requests generalizing registry with
  | nil => rfl
  | cons request requests ih =>
      cases request with
      | create =>
          have kept : registry.create.2.config = registry.config := by
            unfold create
            split <;> rfl
          exact (ih registry.create.2).trans kept
      | through handle action =>
          exact (ih (registry.act handle action).2).trans (act_config registry handle action)

theorem length_issued (registry : Registry V) (requests : List (Request V)) :
    (issued (registry.run requests).1).length = made requests := by
  induction requests generalizing registry with
  | nil => rfl
  | cons request requests ih =>
      cases request with
      | create => simp [issued, made, ih]
      | through handle action => simp [issued, made, ih]

theorem Ledger.run {registry : Registry V} {handles : List Handle}
    (ledger : registry.Ledger handles) (requests : List (Request V))
    (room : handles.length + made requests ≤ UInt32.size) :
    (registry.run requests).2.Ledger ((issued (registry.run requests).1).reverse ++ handles) := by
  induction requests generalizing registry handles with
  | nil => exact ledger
  | cons request requests ih =>
      cases request with
      | create =>
          rw [made] at room
          have later := ih (ledger.create (by omega)) (by rw [List.length_cons]; omega)
          simpa [issued] using later
      | through handle action => exact ih (ledger.act handle action) room

def Shows (registry : Registry V) (handle : Handle) : Option (Trie V) → Prop
  | some trie => registry.get handle = .ok trie
  | none => registry.get handle = .error (.invalidHandle handle)

theorem Shows.act {registry : Registry V} {handle : Handle} {state : Option (Trie V)}
    (shows : registry.Shows handle state) (action : Action V) :
    (registry.act handle action).1 = (lone handle state action).1 ∧
      (registry.act handle action).2.Shows handle (lone handle state action).2 := by
  cases state with
  | none =>
      rw [act_of_error shows]
      exact ⟨rfl, shows⟩
  | some trie =>
      rw [act_of_ok shows]
      refine ⟨rfl, ?_⟩
      simp only [lone]
      cases (action.alone trie).2 with
      | some next => exact (get_put shows next handle).trans (if_pos rfl)
      | none => exact (get_release shows handle).trans (if_pos rfl)

theorem Shows.of_get_eq {one other : Registry V} {handle : Handle} {state : Option (Trie V)}
    (shows : one.Shows handle state) (same : other.get handle = one.get handle) :
    other.Shows handle state := by
  cases state with
  | none => exact same.trans shows
  | some trie => exact same.trans shows

theorem Ledger.outcomes_eq_lone {registry : Registry V} {handles : List Handle}
    (ledger : registry.Ledger handles) {handle : Handle} (given : handle ∈ handles)
    {state : Option (Trie V)} (shows : registry.Shows handle state) (requests : List (Request V))
    (room : handles.length + made requests ≤ UInt32.size) :
    outcomesThrough handle requests (registry.run requests).1 =
      (Trie.transcript (lone handle) state (actionsThrough handle requests)).1 := by
  induction requests generalizing registry handles state with
  | nil => rfl
  | cons request requests ih =>
      cases request with
      | create =>
          rw [made] at room
          have small : handles.length < UInt32.size := by omega
          have different : handle ≠ registry.create.1 := by
            intro same
            exact ledger.create_not_mem small (same ▸ given)
          have same := (ledger.get_create small handle).trans (if_neg different)
          exact ih (ledger.create small) (List.mem_cons_of_mem _ given) (shows.of_get_eq same)
            (by rw [List.length_cons]; omega)
      | through other action =>
          have next := ledger.act other action
          by_cases here : other = handle
          · subst here
            obtain ⟨outcome, after⟩ := shows.act action
            have later := ih next given after room
            simp only [run_through, outcomesThrough, actionsThrough, if_true, Trie.transcript,
              outcome, later]
          · have after := shows.of_get_eq (get_act_of_ne registry (Ne.symm here) action)
            have later := ih next given after room
            simp only [run_through, outcomesThrough, actionsThrough, here, if_false, later]

theorem Ledger.outcomes_of_unknown {registry : Registry V} {handles : List Handle}
    (ledger : registry.Ledger handles) {handle : Handle} (requests : List (Request V))
    (room : handles.length + made requests ≤ UInt32.size) (unknown : handle ∉ handles)
    (never : handle ∉ issued (registry.run requests).1) :
    ∀ outcome ∈ outcomesThrough handle requests (registry.run requests).1,
      outcome = .error (.invalidHandle handle) := by
  induction requests generalizing registry handles with
  | nil => simp [outcomesThrough]
  | cons request requests ih =>
      cases request with
      | create =>
          rw [made] at room
          simp only [run_create, issued, List.mem_cons, not_or] at never
          exact ih (ledger.create (by omega)) (by rw [List.length_cons]; omega)
            (List.not_mem_cons_of_ne_of_not_mem never.1 unknown) never.2
      | through other action =>
          have later := ih (ledger.act other action) room unknown never
          by_cases here : other = handle
          · subst here
            have invalid : (registry.act other action).1 = .error (.invalidHandle other) := by
              cases found : registry.get other with
              | ok trie => exact absurd (ledger.mem_of_get found) unknown
              | error cause => rw [act_of_error found]
            simp only [run_through, outcomesThrough, if_true, List.forall_mem_cons]
            exact ⟨invalid, later⟩
          · simpa only [run_through, outcomesThrough, here, if_false] using later

/-- The handles that a run gives out are different, each trie that is left has one that leads to it,
and what comes through a handle is what a trie of its own would give; before the handle is given out
and after its trie is destroyed, nothing does. -/
structure Isolated (config : Trie.Config) (requests : List (Request V)) : Prop where
  unique : (issued ((empty config).run requests).1).Nodup
  reached : ∀ (place : Nat) generation trie,
    ((empty config).run requests).2.slots[place]? = some ⟨generation, some trie⟩ →
      ∃ handle ∈ issued ((empty config).run requests).1, handle.slot.toNat = place ∧
        ((empty config).run requests).2.get handle = .ok trie
  alone : ∀ before after, requests = before ++ .create :: after →
    let earlier := (empty config).run before
    let handle := earlier.2.create.1
    let later := earlier.2.create.2.run after
    (∀ outcome ∈ outcomesThrough handle before earlier.1,
      outcome = .error (.invalidHandle handle)) ∧
    outcomesThrough handle after later.1 =
      (Trie.transcript (lone handle) (some (Trie.empty config)) (actionsThrough handle after)).1

/-- In a run that makes no more tries than there are generations, they do not see each other. -/
theorem tries_isolated (config : Trie.Config) (requests : List (Request V))
    (few : made requests ≤ UInt32.size) : Isolated config requests := by
  have ledger := (Ledger.empty (V := V) config).run requests (by simpa using few)
  rw [List.append_nil] at ledger
  refine ⟨(List.reverse_perm _).nodup_iff.mp ledger.unique, ?_, ?_⟩
  · intro place generation trie held
    have bound := (Array.getElem?_eq_some_iff.mp held).1
    have size := ledger.size
    rw [List.length_reverse, length_issued] at size
    have number : (UInt32.ofNat place).toNat = place := UInt32.toNat_ofNat_of_lt' (by omega)
    have live : ((empty config).run requests).2.get ⟨UInt32.ofNat place, generation⟩ =
        .ok trie := by
      rw [get_eq_ok]
      simpa only [number] using held
    exact ⟨_, List.mem_reverse.mp (ledger.mem_of_get live), number, live⟩
  · intro before after split earlier handle later
    rw [split, made_append, made] at few
    have start := Ledger.empty (V := V) config
    have room : ([] : List Handle).length + made before ≤ UInt32.size := by
      rw [List.length_nil]
      omega
    have reached := start.run before room
    rw [List.append_nil] at reached
    have count : (issued earlier.1).reverse.length = made before := by
      rw [List.length_reverse]
      exact length_issued _ _
    have small : (issued earlier.1).reverse.length < UInt32.size := by omega
    have fresh := reached.create_not_mem small
    have opened := (reached.get_create small handle).trans (if_pos rfl)
    rw [run_config] at opened
    have shown : Shows earlier.2.create.2 handle (some (Trie.empty config)) := opened
    refine ⟨?_, ?_⟩
    · exact start.outcomes_of_unknown before room (by simp) (mt List.mem_reverse.mpr fresh)
    · exact (reached.create small).outcomes_eq_lone List.mem_cons_self shown after
        (by rw [List.length_cons, count]; omega)

theorem tries_isolated_in_turn :
    made ([.create, .through ⟨0, 0⟩ .destroy, .create, .through ⟨0, 0⟩ (.find ['a']),
        .through ⟨0, 1⟩ (.insert ['a'] 1 true)] : List (Request Nat)) ≤ UInt32.size ∧
      Isolated (V := Nat) {} [.create, .through ⟨0, 0⟩ .destroy, .create,
        .through ⟨0, 0⟩ (.find ['a']), .through ⟨0, 1⟩ (.insert ['a'] 1 true)] := by
  have few : made ([.create, .through ⟨0, 0⟩ .destroy, .create, .through ⟨0, 0⟩ (.find ['a']),
      .through ⟨0, 1⟩ (.insert ['a'] 1 true)] : List (Request Nat)) ≤ UInt32.size := by decide
  exact ⟨few, tries_isolated {} _ few⟩

end RadixForest.Registry
