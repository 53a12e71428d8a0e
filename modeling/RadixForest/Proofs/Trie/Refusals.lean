import RadixForest.Log.Events
import RadixForest.Proofs.Trie.Dispatch
import RadixForest.Proofs.Trie.Inserting

/-!
Insertions that are refused. Why one is refused can be told before it is made; it leaves no trace in
the trie, so a run goes on as if it had never been asked for.
-/

namespace RadixForest.Trie

variable {V : Type}

/-- A key that is not empty, and in normal form not over the limit. -/
def Config.Admits (config : Config) (key : Key) : Prop :=
  key ≠ [] ∧ ∀ most, config.maxKeyLen = some most → (config.foldCase key).length ≤ most

def Event.structural (event : Event) : Bool := event.record.level = .trace

def Reply.refused : Reply V → Bool
  | .answer (.inserted (.error _)) => true
  | _ => false

/-- The inputs whose outputs are to be kept. -/
def keptInputs {State Input Output : Type} (step : State → Input → Output × State)
    (keep : Output → Bool) (state : State) (inputs : List Input) : List Input :=
  ((inputs.zip (transcript step state inputs).1).filter fun asked => keep asked.2).map Prod.fst

theorem keptInputs_cons {State Input Output : Type} (step : State → Input → Output × State)
    (keep : Output → Bool) (state : State) (input : Input) (inputs : List Input) :
    keptInputs step keep state (input :: inputs) =
      if keep (step state input).1 then input :: keptInputs step keep (step state input).2 inputs
      else keptInputs step keep (step state input).2 inputs := by
  simp only [keptInputs, transcript, List.zip_cons_cons, List.filter_cons]
  split <;> rfl

theorem transcript_keptInputs {State Input Output : Type} {step : State → Input → Output × State}
    {keep : Output → Bool}
    (unchanged : ∀ state input, keep (step state input).1 = false → (step state input).2 = state)
    (state : State) (inputs : List Input) :
    transcript step state (keptInputs step keep state inputs) =
      ((transcript step state inputs).1.filter keep, (transcript step state inputs).2) := by
  induction inputs generalizing state with
  | nil => rfl
  | cons input inputs ih =>
      rw [keptInputs_cons]
      cases kept : keep (step state input).1 with
      | true =>
          rw [if_pos rfl]
          simp only [transcript, ih, List.filter_cons, kept, if_true]
      | false =>
          have same := unchanged state input kept
          rw [if_neg Bool.false_ne_true]
          simp only [transcript, same, ih, List.filter_cons, kept, Bool.false_eq_true, if_false]

theorem Config.normalize_cases (config : Config) (key : Key) :
    (key = [] ∧ config.normalize key = .error .emptyKey) ∨
    (∃ most, key ≠ [] ∧ config.maxKeyLen = some most ∧ most < (config.foldCase key).length ∧
      config.normalize key = .error (.keyTooLong (config.foldCase key) most)) ∨
    (config.Admits key ∧ config.normalize key = .ok (config.foldCase key)) := by
  cases key with
  | nil => exact Or.inl ⟨rfl, rfl⟩
  | cons c rest =>
      right
      have filled := List.cons_ne_nil c rest
      simp only [normalize, List.isEmpty_cons, Bool.false_eq_true, if_false, Admits]
      cases limit : config.maxKeyLen with
      | none => exact Or.inr ⟨⟨filled, by simp⟩, rfl⟩
      | some most =>
          by_cases long : most < (config.foldCase (c :: rest)).length
          · exact Or.inl ⟨most, filled, rfl, long, if_pos long⟩
          · refine Or.inr ⟨⟨filled, ?_⟩, if_neg long⟩
            rintro other ⟨⟩
            exact Nat.not_lt.mp long

theorem Mirrors.insert_outcome {config : Config} {trie : Trie V} {bindings : Bindings V}
    (mirrors : Mirrors config trie bindings) (key : Key) (value : V) (replace : Bool) :
    (trie.insert key value replace).outcome =
      (Insert.mk key value replace).outcome config fun name => (bindings.lookup name).isSome := by
  have answer := (mirrors.insert key value replace).1
  have told := Dictionary.perform_insert config bindings ⟨key, value, replace⟩
  exact Answer.inserted.inj (answer.trans told)

theorem Mirrors.contains {config : Config} {trie : Trie V} {bindings : Bindings V}
    (mirrors : Mirrors config trie bindings) (key : Key) :
    trie.contains key =
      (config.normalize key).map fun name => (bindings.lookup name).isSome := by
  have answer := (mirrors.perform (.contains key)).1
  rw [← Dictionary.name_eq_normalize]
  exact Answer.contained.inj answer

theorem Mirrors.insert_cases {config : Config} {trie : Trie V} {bindings : Bindings V}
    (mirrors : Mirrors config trie bindings) (key : Key) (value : V) (replace : Bool) :
    let outcome := (trie.insert key value replace).outcome
    let normal := config.foldCase key
    (key = [] ∧ outcome = .error .emptyKey) ∨
    (∃ most, key ≠ [] ∧ config.maxKeyLen = some most ∧ most < normal.length ∧
      outcome = .error (.keyTooLong normal most)) ∨
    (config.Admits key ∧ (replace = false ∧ trie.contains key = .ok true) ∧
      outcome = .error (.duplicateKey normal)) ∨
    (config.Admits key ∧ ¬ (replace = false ∧ trie.contains key = .ok true) ∧
      ∃ new, outcome = .ok new) := by
  intro outcome normal
  have outcomeEq : outcome = _ := mirrors.insert_outcome key value replace
  have contains := mirrors.contains key
  rw [Insert.outcome, Dictionary.name_eq_normalize] at outcomeEq
  rcases config.normalize_cases key with
    ⟨empty, named⟩ | ⟨most, filled, limit, long, named⟩ | ⟨admits, named⟩
  · simp only [named] at outcomeEq
    exact Or.inl ⟨empty, outcomeEq⟩
  · simp only [named] at outcomeEq
    exact Or.inr (Or.inl ⟨most, filled, limit, long, outcomeEq⟩)
  · right
    right
    simp only [named] at outcomeEq
    rw [named] at contains
    cases bound : (bindings.lookup (config.foldCase key)).isSome with
    | false =>
        simp only [bound, Bool.false_eq_true, if_false] at outcomeEq
        refine Or.inr ⟨admits, ?_, true, outcomeEq⟩
        rintro ⟨_, present⟩
        rw [contains, Except.map, bound] at present
        cases present
    | true =>
        have present : trie.contains key = .ok true := by rw [contains, Except.map, bound]
        simp only [bound, if_true] at outcomeEq
        cases replace with
        | true => exact Or.inr ⟨admits, by simp, false, outcomeEq⟩
        | false => exact Or.inl ⟨admits, ⟨rfl, present⟩, outcomeEq⟩

section Reasons

variable {config : Config} {trie : Trie V} {bindings : Bindings V}
  (mirrors : Mirrors config trie bindings) (key : Key) (value : V) (replace : Bool)

include mirrors

theorem Mirrors.emptyKey_iff :
    (trie.insert key value replace).outcome = .error .emptyKey ↔ key = [] := by
  rcases mirrors.insert_cases key value replace with
    ⟨empty, outcome⟩ | ⟨_, filled, _, _, outcome⟩ | ⟨admits, _, outcome⟩ | ⟨admits, _, _, outcome⟩
  · exact iff_of_true outcome empty
  · exact iff_of_false (by simp [outcome]) filled
  · exact iff_of_false (by simp [outcome]) admits.1
  · exact iff_of_false (by simp [outcome]) admits.1

theorem Mirrors.keyTooLong_iff (named : Key) (most : Nat) :
    (trie.insert key value replace).outcome = .error (.keyTooLong named most) ↔
      key ≠ [] ∧ config.maxKeyLen = some most ∧ most < (config.foldCase key).length ∧
        named = config.foldCase key := by
  rcases mirrors.insert_cases key value replace with
    ⟨empty, outcome⟩ | ⟨own, filled, limit, long, outcome⟩ | ⟨admits, _, outcome⟩ |
      ⟨admits, _, _, outcome⟩
  · exact iff_of_false (by simp [outcome]) fun reason => reason.1 empty
  · rw [outcome]
    constructor
    · rintro ⟨⟩
      exact ⟨filled, limit, long, rfl⟩
    · rintro ⟨_, sameLimit, _, rfl⟩
      rw [Option.some.inj (limit.symm.trans sameLimit)]
  · exact iff_of_false (by simp [outcome]) fun reason =>
      Nat.not_lt.mpr (admits.2 most reason.2.1) reason.2.2.1
  · exact iff_of_false (by simp [outcome]) fun reason =>
      Nat.not_lt.mpr (admits.2 most reason.2.1) reason.2.2.1

theorem Mirrors.duplicateKey_iff (named : Key) :
    (trie.insert key value replace).outcome = .error (.duplicateKey named) ↔
      config.Admits key ∧ (replace = false ∧ trie.contains key = .ok true) ∧
        named = config.foldCase key := by
  rcases mirrors.insert_cases key value replace with
    ⟨empty, outcome⟩ | ⟨_, _, limit, long, outcome⟩ | ⟨admits, bound, outcome⟩ |
      ⟨_, free, _, outcome⟩
  · exact iff_of_false (by simp [outcome]) fun reason => reason.1.1 empty
  · exact iff_of_false (by simp [outcome]) fun reason =>
      Nat.not_lt.mpr (reason.1.2 _ limit) long
  · rw [outcome]
    constructor
    · rintro ⟨⟩
      exact ⟨admits, bound, rfl⟩
    · rintro ⟨_, _, rfl⟩
      rfl
  · exact iff_of_false (by simp [outcome]) fun reason => free reason.2.1

theorem Mirrors.inserted_iff :
    (∃ new, (trie.insert key value replace).outcome = .ok new) ↔
      config.Admits key ∧ ¬ (replace = false ∧ trie.contains key = .ok true) := by
  rcases mirrors.insert_cases key value replace with
    ⟨empty, outcome⟩ | ⟨_, _, limit, long, outcome⟩ | ⟨_, bound, outcome⟩ |
      ⟨admits, free, new, outcome⟩
  · exact iff_of_false (by simp [outcome]) fun reason => reason.1.1 empty
  · exact iff_of_false (by simp [outcome]) fun reason =>
      Nat.not_lt.mpr (reason.1.2 _ limit) long
  · exact iff_of_false (by simp [outcome]) fun reason => reason.2 bound
  · exact iff_of_true ⟨new, outcome⟩ ⟨admits, free⟩

end Reasons

theorem insertNormal_refused {trie : Trie V} {key : Key} {value : V} {replace : Bool}
    {cause : KeyError} (refused : (trie.insertNormal key value replace).outcome = .error cause) :
    trie.insertNormal key value replace =
      ⟨.error (.duplicateKey key), trie, [.rejectedDuplicate key]⟩ := by
  cases root : trie.root with
  | none => simp [insertNormal, root] at refused
  | some head =>
      cases stops : trie.descend none key with
      | append place rest => simp [insertNormal, root, stops] at refused
      | split id node parts => simp [insertNormal, root, stops] at refused
      | store id node =>
          cases stored : node.value with
          | none => simp [insertNormal, root, stops, store, stored] at refused
          | some old =>
              cases replace with
              | true => simp [insertNormal, root, stops, store, stored] at refused
              | false => simp [insertNormal, root, stops, store, stored]

theorem insert_refused {trie : Trie V} {key : Key} {value : V} {replace : Bool} {cause : KeyError}
    (refused : (trie.insert key value replace).outcome = .error cause) :
    (trie.insert key value replace).trie = trie ∧
      (trie.insert key value replace).events.filter Event.structural = [] := by
  cases admitted : trie.config.normalize key with
  | error own => simp [insert, admitted]
  | ok normal =>
      simp only [insert, admitted] at refused ⊢
      rw [insertNormal_refused refused]
      exact ⟨rfl, rfl⟩

theorem serve_refused {trie : Trie V} {shown : V → String} {request : Request V}
    (refused : (trie.serve shown request).1.reply.refused) :
    (trie.serve shown request).2 = trie ∧
      (trie.serve shown request).1.events.filter Event.structural = [] := by
  cases request with
  | operation operation =>
      cases operation with
      | insert key value replace =>
          cases outcome : (trie.insert key value replace).outcome with
          | error cause => exact insert_refused outcome
          | ok new => simp [serve, perform, Reply.refused, outcome] at refused
      | _ => cases refused
  | _ => cases refused

def structuralEvents (views : List (View V)) : List Event :=
  (views.flatMap (·.events)).filter Event.structural

theorem structuralEvents_filter (trie : Trie V) (shown : V → String) (requests : List (Request V)) :
    structuralEvents ((transcript (serve shown) trie requests).1.filter (!·.reply.refused)) =
      structuralEvents (transcript (serve shown) trie requests).1 := by
  induction requests generalizing trie with
  | nil => rfl
  | cons request requests ih =>
      simp only [structuralEvents] at ih
      simp only [transcript, structuralEvents, List.filter_cons, List.flatMap_cons,
        List.filter_append, ← ih]
      cases refused : (trie.serve shown request).1.reply.refused with
      | true =>
          rw [(serve_refused refused).2]
          rfl
      | false => simp

/-- Why a key is refused can be told from the key, the limit and whether the key is bound. A refused
insertion changes nothing, and a run without it is answered as the run with it. -/
theorem refusals_exact (config : Config) (operations : List (Operation V)) (key : Key) (value : V)
    (replace : Bool) :
    let trie := ((Trie.empty config).run operations).2
    let insertion := trie.insert key value replace
    let normal := config.foldCase key
    (insertion.outcome = .error .emptyKey ↔ key = []) ∧
    (∀ named most, insertion.outcome = .error (.keyTooLong named most) ↔
      key ≠ [] ∧ config.maxKeyLen = some most ∧ most < normal.length ∧ named = normal) ∧
    (∀ named, insertion.outcome = .error (.duplicateKey named) ↔
      config.Admits key ∧ (replace = false ∧ trie.contains key = .ok true) ∧ named = normal) ∧
    ((∃ new, insertion.outcome = .ok new) ↔
      config.Admits key ∧ ¬ (replace = false ∧ trie.contains key = .ok true)) ∧
    (∀ cause, insertion.outcome = .error cause → insertion.trie = trie) ∧
    ∀ (shown : V → String) (requests : List (Request V)),
      let whole := transcript (serve shown) trie requests
      let left := transcript (serve shown) trie
        (keptInputs (serve shown) (!·.reply.refused) trie requests)
      left = (whole.1.filter (!·.reply.refused), whole.2) ∧
        structuralEvents left.1 = structuralEvents whole.1 := by
  intro trie insertion normal
  have mirrors := (run_mirrors config operations).2
  refine ⟨mirrors.emptyKey_iff key value replace, mirrors.keyTooLong_iff key value replace,
    mirrors.duplicateKey_iff key value replace, mirrors.inserted_iff key value replace,
    fun cause refused => (insert_refused refused).1, ?_⟩
  intro shown requests whole left
  have leftEq : left = (whole.1.filter (!·.reply.refused), whole.2) := by
    refine transcript_keptInputs (fun trie request refused => ?_) trie requests
    exact (serve_refused (by simpa using refused)).1
  refine ⟨leftEq, ?_⟩
  rw [leftEq]
  exact structuralEvents_filter trie shown requests

end RadixForest.Trie
