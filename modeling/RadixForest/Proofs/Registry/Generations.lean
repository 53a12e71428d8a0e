import RadixForest.Proofs.Registry.Slots

/-!
What becomes of a handle once its trie is destroyed. Each trie destroyed in a slot moves the slot to
its next generation, so the handle fits again only when the generations have come round, after as
many tries in the slot as there are generations. Then it does fit.
-/

namespace RadixForest.Registry

variable {V : Type}

def Answer.takes (slot : UInt32) : Answer V → Bool
  | .created handle => handle.slot == slot
  | .outcome _ => false

def reuses (slot : UInt32) (answers : List (Answer V)) : Nat := answers.countP (·.takes slot)

def Slot.Past (slot : Slot V) (generation : UInt32) (reused : Nat) : Prop :=
  ∃ destroyed, slot.generation = generation + UInt32.ofNat destroyed ∧ 0 < destroyed ∧
    slot.tenants destroyed ≤ reused + 1

namespace Slot.Past

variable {current generation : UInt32} {reused : Nat}

theorem of_destroyed (generation : UInt32) :
    (⟨generation + 1, none⟩ : Slot V).Past generation 0 :=
  ⟨1, rfl, Nat.one_pos, Nat.le_refl 1⟩

theorem mono {slot : Slot V} (past : slot.Past generation reused) {more : Nat}
    (atLeast : reused ≤ more) : slot.Past generation more := by
  obtain ⟨destroyed, turned, positive, few⟩ := past
  exact ⟨destroyed, turned, positive, by omega⟩

theorem filled {old : Option (Trie V)} (past : (⟨current, old⟩ : Slot V).Past generation reused)
    (trie : Trie V) : (⟨current, some trie⟩ : Slot V).Past generation (reused + 1) := by
  obtain ⟨destroyed, turned, positive, few⟩ := past
  refine ⟨destroyed, turned, positive, ?_⟩
  cases old with
  | none => exact Nat.succ_le_succ few
  | some _ => exact Nat.le_succ_of_le few

theorem replaced {old : Trie V} (past : (⟨current, some old⟩ : Slot V).Past generation reused)
    (trie : Trie V) : (⟨current, some trie⟩ : Slot V).Past generation reused :=
  past

theorem vacated {old : Trie V} (past : (⟨current, some old⟩ : Slot V).Past generation reused) :
    (⟨current + 1, none⟩ : Slot V).Past generation reused := by
  obtain ⟨destroyed, turned, positive, few⟩ := past
  have before : current = generation + UInt32.ofNat destroyed := turned
  refine ⟨destroyed + 1, ?_, Nat.succ_pos _, few⟩
  rw [before, UInt32.ofNat_add, UInt32.add_assoc]
  rfl

theorem generation_ne {trie : Trie V}
    (past : (⟨current, some trie⟩ : Slot V).Past generation reused) (few : reused < UInt32.size) :
    current ≠ generation := by
  obtain ⟨destroyed, turned, positive, counted⟩ := past
  intro same
  have bound : destroyed < UInt32.size := Nat.lt_of_le_of_lt (Nat.le_of_succ_le_succ counted) few
  have back : generation = generation + UInt32.ofNat destroyed := same.symm.trans turned
  have round : UInt32.ofNat destroyed = 0 := by simpa using back.symm
  have value := congrArg UInt32.toNat round
  rw [UInt32.toNat_ofNat_of_lt' bound] at value
  exact Nat.ne_of_gt positive value

end Slot.Past

/-- The trie of a handle was destroyed, and its slot has held at most so many others since. -/
def Aged (registry : Registry V) (handle : Handle) (reused : Nat) : Prop :=
  ∃ slot, registry.slots[handle.slot.toNat]? = some slot ∧ slot.Past handle.generation reused

namespace Aged

variable {registry : Registry V} {handle : Handle} {reused : Nat}

theorem of_release {trie : Trie V} (live : registry.get handle = .ok trie) :
    (registry.release handle).Aged handle 0 := by
  refine ⟨_, ?_, Slot.Past.of_destroyed handle.generation⟩
  rw [getElem?_release live, if_pos rfl]

theorem get (aged : registry.Aged handle reused) (few : reused < UInt32.size) :
    registry.get handle = .error (.invalidHandle handle) := by
  obtain ⟨slot, held, past⟩ := aged
  cases found : registry.get handle with
  | error cause => rw [get_eq_error found]
  | ok trie =>
      have whole := Option.some.inj (held.symm.trans (get_eq_ok.mp found))
      subst whole
      exact absurd rfl (past.generation_ne few)

theorem create (aged : registry.Aged handle reused) :
    registry.create.2.Aged handle
      (reused + if registry.create.1.slot = handle.slot then 1 else 0) := by
  obtain ⟨slot, held, past⟩ := aged
  have bound := (Array.getElem?_eq_some_iff.mp held).1
  unfold Registry.create
  cases free : registry.free with
  | nil =>
      refine ⟨slot, ?_, past.mono (Nat.le_add_right _ _)⟩
      simp only
      rw [Array.getElem?_push, if_neg (Nat.ne_of_lt bound), held]
  | cons number rest =>
      simp only
      by_cases here : number = handle.slot
      · subst here
        rw [if_pos rfl, held]
        refine ⟨_, ?_, past.filled (Trie.empty registry.config)⟩
        simp only [Option.map_some, Option.getD_some]
        rw [Array.getElem?_setIfInBounds, if_pos rfl, if_pos bound]
      · have elsewhere : number.toNat ≠ handle.slot.toNat := fun same =>
          here (UInt32.toNat_inj.mp same)
        refine ⟨slot, ?_, past.mono (Nat.le_add_right _ _)⟩
        rw [Array.getElem?_setIfInBounds, if_neg elsewhere, held]

theorem put (aged : registry.Aged handle reused) {other : Handle} {old : Trie V}
    (live : registry.get other = .ok old) (trie : Trie V) :
    (registry.put other trie).Aged handle reused := by
  obtain ⟨slot, held, past⟩ := aged
  by_cases here : other.slot.toNat = handle.slot.toNat
  · have taken := get_eq_ok.mp live
    rw [here, held, Option.some.injEq] at taken
    subst taken
    refine ⟨_, ?_, past.replaced trie⟩
    rw [Registry.put, Array.getElem?_modify, if_pos here, held, Option.map_some]
  · refine ⟨slot, ?_, past⟩
    rw [Registry.put, Array.getElem?_modify, if_neg here, held]

theorem release (aged : registry.Aged handle reused) {other : Handle} {old : Trie V}
    (live : registry.get other = .ok old) : (registry.release other).Aged handle reused := by
  obtain ⟨slot, held, past⟩ := aged
  by_cases here : other.slot.toNat = handle.slot.toNat
  · have taken := get_eq_ok.mp live
    rw [here, held, Option.some.injEq] at taken
    subst taken
    refine ⟨_, ?_, past.vacated⟩
    rw [getElem?_release live, if_pos here]
  · refine ⟨slot, ?_, past⟩
    rw [getElem?_release live, if_neg here, held]

theorem perform (aged : registry.Aged handle reused) (request : Request V) :
    (registry.perform request).2.Aged handle
      (reused + if (registry.perform request).1.takes handle.slot then 1 else 0) := by
  cases request with
  | create => simpa [Registry.perform, Answer.takes] using aged.create
  | through other action =>
      simp only [Registry.perform, Answer.takes, Bool.false_eq_true, if_false, Nat.add_zero]
      cases found : registry.get other with
      | error cause =>
          rw [act_of_error found]
          exact aged
      | ok trie =>
          rw [act_of_ok found]
          cases (action.alone trie).2 with
          | some next => exact aged.put found next
          | none => exact aged.release found

theorem run (aged : registry.Aged handle reused) (requests : List (Request V)) :
    (registry.run requests).2.Aged handle
      (reused + reuses handle.slot (registry.run requests).1) := by
  induction requests generalizing registry reused with
  | nil => exact aged
  | cons request requests ih =>
      have later := ih (aged.perform request)
      rw [Nat.add_assoc, Nat.add_comm (ite _ _ _)] at later
      simpa only [Registry.run, Trie.transcript, reuses, List.countP_cons] using later

end Aged

/-- A handle whose trie was destroyed leads nowhere, until as many tries have been made in its slot
as there are generations. -/
theorem destroyed_stays_invalid (registry : Registry V) (handle : Handle) {nodes : Nat}
    {after : Registry V}
    (destroyed : registry.act handle .destroy = (.ok (.destroyed nodes), after))
    (requests : List (Request V)) (few : reuses handle.slot (after.run requests).1 < UInt32.size)
    (action : Action V) :
    (after.run requests).2.act handle action =
      (.error (.invalidHandle handle), (after.run requests).2) := by
  cases found : registry.get handle with
  | error cause =>
      rw [act_of_error found] at destroyed
      simp at destroyed
  | ok trie =>
      rw [act_of_ok found] at destroyed
      simp only [Prod.mk.injEq] at destroyed
      obtain ⟨_, rfl⟩ := destroyed
      have aged := (Aged.of_release found).run requests
      rw [Nat.zero_add] at aged
      exact act_of_error (aged.get few) action

def turns (generation : UInt32) : Nat → List (Request V)
  | 0 => []
  | count + 1 =>
    .create :: .through ⟨0, generation⟩ .destroy :: turns (generation + 1) count

def vacated (config : Trie.Config) (generation : UInt32) : Registry V :=
  { config, slots := #[⟨generation, none⟩], free := [0] }

def rented (config : Trie.Config) (generation : UInt32) : Registry V :=
  { config, slots := #[⟨generation, some (Trie.empty config)⟩] }

theorem create_vacated (config : Trie.Config) (generation : UInt32) :
    (vacated config generation : Registry V).create =
      (⟨0, generation⟩, rented config generation) := rfl

theorem act_rented (config : Trie.Config) (generation : UInt32) :
    (rented config generation : Registry V).act ⟨0, generation⟩ .destroy =
      (.ok (.destroyed 0), vacated config (generation + 1)) := by
  have live : (rented config generation : Registry V).get ⟨0, generation⟩ =
      .ok (Trie.empty config) := get_eq_ok.mpr rfl
  rw [act_of_ok live]
  rfl

theorem destroyed_stays_invalid_once :
    (rented {} 0 : Registry Nat).act ⟨0, 0⟩ .destroy = (.ok (.destroyed 0), vacated {} 1) ∧
      reuses 0 ((vacated {} 1 : Registry Nat).run [.create]).1 < UInt32.size ∧
      ((vacated {} 1 : Registry Nat).run [.create]).2.act ⟨0, 0⟩ .get =
        (.error (.invalidHandle ⟨0, 0⟩), ((vacated {} 1 : Registry Nat).run [.create]).2) := by
  have few : reuses 0 ((vacated {} 1 : Registry Nat).run [.create]).1 < UInt32.size := by decide
  exact
    ⟨act_rented {} 0, few,
      destroyed_stays_invalid (rented {} 0) ⟨0, 0⟩ (act_rented {} 0) [.create] few .get⟩

theorem run_turns (config : Trie.Config) (count : Nat) (generation : UInt32) :
    ((vacated config generation : Registry V).run (turns generation count)).2 =
      vacated config (generation + UInt32.ofNat count) := by
  induction count generalizing generation with
  | zero => simp [turns, run, Trie.transcript]
  | succ count ih =>
      have later := ih (generation + 1)
      simp only [run] at later
      simp only [turns, run, Trie.transcript, perform, create_vacated, act_rented, later]
      rw [UInt32.add_assoc, ← UInt32.ofNat_one, ← UInt32.ofNat_add, Nat.add_comm]

theorem run_turns_create (config : Trie.Config) {count : Nat}
    (round : (1 : UInt32) + UInt32.ofNat count = 0) :
    ((vacated config 1 : Registry V).run (turns 1 count ++ [.create])).2 = rented config 0 := by
  have turned := run_turns (V := V) config count 1
  rw [round] at turned
  simp only [run] at turned ⊢
  rw [Trie.transcript_append, turned]
  rfl

/-- When the generations of a slot have come round, the handle of a trie destroyed long before leads
to a new one. -/
theorem destroyed_handle_returns :
    let opened : Registry Nat := (empty {}).create.2
    let after := (opened.act ⟨0, 0⟩ .destroy).2
    let last := (after.run (turns 1 (UInt32.size - 1) ++ [.create])).2
    (opened.act ⟨0, 0⟩ .destroy).1 = .ok (.destroyed 0) ∧
      (last.act ⟨0, 0⟩ .get).1 = .ok (.trie (Trie.empty {})) := by
  intro opened after last
  have destroyed : opened.act ⟨0, 0⟩ .destroy = (.ok (.destroyed 0), vacated {} 1) :=
    act_rented {} 0
  have afterEq : after = vacated {} 1 := congrArg Prod.snd destroyed
  have lastEq : last = rented {} 0 := by
    unfold last
    rw [afterEq]
    exact run_turns_create {} (by decide)
  have live : last.get ⟨0, 0⟩ = .ok (Trie.empty {}) := by
    rw [lastEq, get_eq_ok]
    rfl
  refine ⟨congrArg Prod.fst destroyed, ?_⟩
  rw [act_of_ok live]
  rfl

end RadixForest.Registry
