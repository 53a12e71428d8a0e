import RadixForest.Proofs.Trie.Dictionary

/-!
Runs that only insert. Each insertion makes an offer to the name of its key, and what a name is
bound to in the end is decided by the offers made to it, in their order.
-/

namespace RadixForest.Trie

structure Insert (V : Type) where
  key : Key
  value : V
  replace : Bool

namespace Insert

variable {V : Type}

def operation (insert : Insert V) : Operation V :=
  .insert insert.key insert.value insert.replace

def offer (insert : Insert V) (old : Option V) : Option V :=
  if insert.replace then some insert.value else old.or (some insert.value)

/-- What comes of an insertion, given whether the name of its key is bound. -/
def outcome (config : Config) (insert : Insert V) (bound : Key → Bool) : Except KeyError Bool :=
  match Dictionary.name config insert.key with
  | .error cause => .error cause
  | .ok name =>
    if bound name then (if insert.replace then .ok false else .error (.duplicateKey name))
    else .ok true

def naming (config : Config) (name : Key) (inserts : List (Insert V)) : List (Insert V) :=
  inserts.filter fun insert => Dictionary.name config insert.key = .ok name

end Insert

variable {V : Type} (config : Config)

theorem Insert.offer_isSome (insert : Insert V) (old : Option V) : (insert.offer old).isSome := by
  unfold offer
  split
  · rfl
  · cases old <;> rfl

theorem Insert.foldl_offer_isSome (inserts : List (Insert V)) (old : Option V) :
    (inserts.foldl (fun old insert => insert.offer old) old).isSome =
      (old.isSome || !inserts.isEmpty) := by
  induction inserts generalizing old with
  | nil => simp
  | cons insert rest ih => simp [ih, insert.offer_isSome]

namespace Dictionary

theorem perform_insert (bindings : Bindings V) (insert : Insert V) :
    (perform config bindings insert.operation).1 =
      .inserted (insert.outcome config fun name => (bindings.lookup name).isSome) := by
  simp only [Insert.operation, perform, Insert.outcome]
  cases name config insert.key with
  | error cause => rfl
  | ok name =>
      cases bound : bindings.lookup name with
      | none => simp only [bound, Option.isSome_none, Bool.false_eq_true, if_false]
      | some old =>
          simp only [bound, Option.isSome_some, if_true]
          cases insert.replace <;> rfl

theorem lookup_perform_insert (bindings : Bindings V) (insert : Insert V) (name : Key) :
    (perform config bindings insert.operation).2.lookup name =
      if Dictionary.name config insert.key = .ok name then insert.offer (bindings.lookup name)
      else bindings.lookup name := by
  simp only [Insert.operation, perform]
  cases named : Dictionary.name config insert.key with
  | error cause => simp
  | ok own =>
      simp only [Except.ok.injEq]
      by_cases same : own = name
      · subst same
        rw [if_pos rfl]
        cases bound : bindings.lookup own with
        | none => simp [Bindings.lookup_put, Insert.offer]
        | some old =>
            cases replaced : insert.replace with
            | true => simp [Bindings.lookup_put, Insert.offer, replaced]
            | false => simp [bound, Insert.offer, replaced]
      · rw [if_neg same]
        cases bindings.lookup own with
        | none => simp [Bindings.lookup_put, Ne.symm same]
        | some old => cases insert.replace <;> simp [Bindings.lookup_put, Ne.symm same]

theorem length_perform_insert (bindings : Bindings V) (insert : Insert V) :
    (perform config bindings insert.operation).2.length =
      bindings.length +
        if insert.outcome config (fun name => (bindings.lookup name).isSome) = .ok true then 1
        else 0 := by
  cases named : Dictionary.name config insert.key with
  | error cause => simp [Insert.operation, perform, Insert.outcome, named]
  | ok name =>
      cases bound : bindings.lookup name with
      | none =>
          simp [Insert.operation, perform, Insert.outcome, named, bound, Bindings.length_put]
      | some old =>
          cases replaced : insert.replace <;>
            simp [Insert.operation, perform, Insert.outcome, named, bound, replaced,
              Bindings.length_put]

theorem lookup_inserts (bindings : Bindings V) (inserts : List (Insert V)) (name : Key) :
    (transcript (perform config) bindings (inserts.map (·.operation))).2.lookup name =
      (Insert.naming config name inserts).foldl (fun old insert => insert.offer old)
        (bindings.lookup name) := by
  induction inserts generalizing bindings with
  | nil => rfl
  | cons insert rest ih =>
      have step := lookup_perform_insert config bindings insert name
      rw [List.map_cons]
      simp only [transcript, ih, step, Insert.naming, List.filter_cons]
      by_cases named : Dictionary.name config insert.key = .ok name
      · simp [named]
      · simp [named]

end Dictionary

end RadixForest.Trie
