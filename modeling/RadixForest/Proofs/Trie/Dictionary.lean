import RadixForest.Proofs.Trie.Insertion
import RadixForest.Proofs.Trie.Runs

/-!
A plain list of keys and values that answers as a trie does, and the invariant that ties the two
together: a trie stands for a shape that grew as the list did.
-/

namespace RadixForest.Trie

/-- Keys and their values, in the order in which the keys came. -/
abbrev Bindings (V : Type) := List (Key × V)

variable {V : Type}

namespace Bindings

def put (key : Key) (value : V) : Bindings V → Bindings V
  | [] => [(key, value)]
  | (other, old) :: rest =>
    if other = key then (key, value) :: rest else (other, old) :: put key value rest

theorem lookup_cons (bound : Key) (value : V) (rest : Bindings V) (key : Key) :
    List.lookup key ((bound, value) :: rest) =
      if bound = key then some value else rest.lookup key := by
  by_cases same : bound = key
  · rw [same, List.lookup_cons_self, if_pos rfl]
  · rw [List.lookup_cons, beq_false_of_ne (Ne.symm same), if_neg same]

theorem lookup_put (key : Key) (value : V) (bindings : Bindings V) (other : Key) :
    (put key value bindings).lookup other =
      if other = key then some value else bindings.lookup other := by
  induction bindings with
  | nil => simp [put, lookup_cons, eq_comm]
  | cons first rest ih =>
      obtain ⟨bound, old⟩ := first
      by_cases here : bound = key
      · subst here
        simp only [put, if_true, lookup_cons, eq_comm]
        split <;> rfl
      · by_cases same : bound = other
        · subst same
          simp [put, here]
        · simp [put, lookup_cons, here, same, ih]

theorem length_put (key : Key) (value : V) (bindings : Bindings V) :
    (put key value bindings).length =
      if (bindings.lookup key).isSome then bindings.length else bindings.length + 1 := by
  induction bindings with
  | nil => rfl
  | cons first rest ih =>
      obtain ⟨bound, old⟩ := first
      by_cases here : bound = key
      · simp [put, here]
      · simp only [put, here, if_false, List.length_cons, ih, lookup_cons]
        split <;> rfl

end Bindings

namespace Dictionary

def limited (limit : Option Nat) (name : Key) : Except KeyError Key :=
  match limit with
  | none => .ok name
  | some most => if name.length ≤ most then .ok name else .error (.keyTooLong name most)

def name (config : Config) (key : Key) : Except KeyError Key :=
  if key = [] then .error .emptyKey
  else if config.caseSensitive then limited config.maxKeyLen key
  else limited config.maxKeyLen (Text.lowercase key)

def perform (config : Config) (bindings : Bindings V) : Operation V → Answer V × Bindings V
  | .insert key value replace =>
    match name config key with
    | .error refusal => (.inserted (.error refusal), bindings)
    | .ok name =>
      match bindings.lookup name with
      | none => (.inserted (.ok true), bindings.put name value)
      | some _ =>
        if replace then (.inserted (.ok false), bindings.put name value)
        else (.inserted (.error (.duplicateKey name)), bindings)
  | .find key => (.found ((name config key).map fun name => bindings.lookup name), bindings)
  | .contains key =>
    (.contained ((name config key).map fun name => (bindings.lookup name).isSome), bindings)
  | .size => (.size bindings.length, bindings)
  | .isEmpty => (.isEmpty bindings.isEmpty, bindings)
  | .clear => (.cleared, [])

def run (config : Config) (operations : List (Operation V)) : List (Answer V) × Bindings V :=
  transcript (perform config) [] operations

theorem limited_some (most : Nat) (name : Key) :
    limited (some most) name =
      if most < name.length then .error (.keyTooLong name most) else .ok name := by
  by_cases long : most < name.length
  · simp only [limited, long, if_true, Nat.not_le.mpr long, if_false]
  · simp only [limited, long, if_false, Nat.not_lt.mp long, if_true]

theorem name_eq_normalize (config : Config) (key : Key) :
    name config key = config.normalize key := by
  cases key with
  | nil => rfl
  | cons c rest =>
      unfold name Config.normalize Config.foldCase
      cases config.maxKeyLen with
      | none => cases config.caseSensitive <;> rfl
      | some most =>
          simp only [limited_some]
          cases config.caseSensitive <;> rfl

end Dictionary

/-- A shape and bindings that took in the same keys and values in the same order. -/
inductive Filled : Shape V → Bindings V → Prop
  | empty : Filled .nil []
  | put {shape bindings} (key : Key) (value : V) : key ≠ [] → Filled shape bindings →
      Filled (shape.plant key value) (bindings.put key value)

namespace Filled

variable {shape : Shape V} {bindings : Bindings V}

theorem compact (filled : Filled shape bindings) : shape.Compact := by
  induction filled with
  | empty => trivial
  | put key value nonempty _ ih => exact Shape.compact_plant ih nonempty value

theorem lookup (filled : Filled shape bindings) (key : Key) :
    shape.lookup key = bindings.lookup key := by
  induction filled with
  | empty => rfl
  | put other value nonempty before ih =>
      rw [Shape.lookup_plant before.compact nonempty, Bindings.lookup_put, ih]

theorem valued (filled : Filled shape bindings) : shape.valued = bindings.length := by
  induction filled with
  | empty => rfl
  | put key value nonempty before ih =>
      rw [Shape.valued_plant before.compact nonempty, Bindings.length_put, before.lookup, ih]

end Filled

structure Mirrors (config : Config) (trie : Trie V) (bindings : Bindings V) : Prop where
  config : trie.config = config
  content : ∃ forest, trie.StandsFor forest ∧ Filled forest.shape bindings

namespace Mirrors

variable {config : Config} {trie : Trie V} {bindings : Bindings V}

theorem empty (config : Config) : Mirrors config (Trie.empty config : Trie V) [] :=
  ⟨rfl, .nil, .empty config, .empty⟩

theorem size (mirrors : Mirrors config trie bindings) : trie.size = bindings.length := by
  obtain ⟨_, forest, stands, filled⟩ := mirrors
  rw [stands.size, filled.valued]

theorem find (mirrors : Mirrors config trie bindings) (key : Key) :
    trie.find key = (Dictionary.name config key).map fun name => bindings.lookup name := by
  obtain ⟨rfl, forest, stands, filled⟩ := mirrors
  rw [stands.find, Dictionary.name_eq_normalize]
  simp only [filled.lookup]

theorem insert (mirrors : Mirrors config trie bindings) (key : Key) (value : V) (replace : Bool) :
    Answer.inserted (trie.insert key value replace).outcome =
        (Dictionary.perform config bindings (.insert key value replace)).1 ∧
      Mirrors config (trie.insert key value replace).trie
        (Dictionary.perform config bindings (.insert key value replace)).2 := by
  obtain ⟨rfl, forest, stands, filled⟩ := mirrors
  simp only [Trie.insert, Dictionary.perform, Dictionary.name_eq_normalize]
  cases admitted : trie.config.normalize key with
  | error refusal => exact ⟨rfl, rfl, forest, stands, filled⟩
  | ok normal =>
      have nonempty := Config.ne_nil_of_normalize admitted
      have config := insertNormal_config trie normal value replace
      have planted :=
        Forest.shape_plant stands.distinct stands.compact nonempty trie.nodes.size value
      have content : Filled (forest.plant trie.nodes.size normal value).shape
          (bindings.put normal value) := planted ▸ .put normal value nonempty filled
      cases bound : bindings.lookup normal with
      | none =>
          obtain ⟨outcome, grown⟩ := stands.insertNormal_new nonempty
            ((filled.lookup normal).trans bound) value replace
          simp only [outcome, bound]
          exact ⟨trivial, config, _, grown, content⟩
      | some old =>
          obtain ⟨grown, standsAfter, insertion⟩ := stands.insertNormal_bound nonempty
            ((filled.lookup normal).trans bound) value replace
          simp only [insertion, bound] at config ⊢
          cases replace with
          | true => exact ⟨rfl, config, _, standsAfter, content⟩
          | false => exact ⟨rfl, rfl, forest, stands, filled⟩

theorem perform (mirrors : Mirrors config trie bindings) (operation : Operation V) :
    (trie.perform operation).answer = (Dictionary.perform config bindings operation).1 ∧
      Mirrors config (trie.perform operation).trie
        (Dictionary.perform config bindings operation).2 := by
  cases operation with
  | insert key value replace => exact mirrors.insert key value replace
  | find key => exact ⟨congrArg Answer.found (mirrors.find key), mirrors⟩
  | contains key =>
      refine ⟨?_, mirrors⟩
      simp only [Trie.perform, Trie.contains, Dictionary.perform, mirrors.find]
      cases Dictionary.name config key <;> rfl
  | size => exact ⟨congrArg Answer.size mirrors.size, mirrors⟩
  | isEmpty =>
      refine ⟨?_, mirrors⟩
      simp only [Trie.perform, isEmpty, Dictionary.perform, mirrors.size]
      cases bindings <;> rfl
  | clear => exact ⟨rfl, by rw [Trie.perform, clear, mirrors.config]; exact .empty config⟩

end Mirrors

theorem Mirrors.run {config : Config} {trie : Trie V} {bindings : Bindings V}
    (mirrors : Mirrors config trie bindings) (operations : List (Operation V)) :
    (trie.run operations).1 = (transcript (Dictionary.perform config) bindings operations).1 ∧
      Mirrors config (trie.run operations).2
        (transcript (Dictionary.perform config) bindings operations).2 :=
  transcript_related (Mirrors config) (fun _ _ operation mirrors => mirrors.perform operation)
    operations mirrors

theorem run_mirrors (config : Config) (operations : List (Operation V)) :
    ((Trie.empty config).run operations).1 = (Dictionary.run config operations).1 ∧
      Mirrors config ((Trie.empty config).run operations).2 (Dictionary.run config operations).2 :=
  (Mirrors.empty config).run operations

/-- Whatever is asked of a trie, it answers as a dictionary of its configuration does. -/
theorem answers_eq_dictionary (config : Config) (operations : List (Operation V)) :
    ((Trie.empty config).run operations).1 = (Dictionary.run config operations).1 :=
  (run_mirrors config operations).1

end RadixForest.Trie
