import RadixForest.Proofs.Text.Settled
import RadixForest.Proofs.Trie.Places
import RadixForest.Proofs.Trie.Refusals
import RadixForest.Proofs.Trie.Rendering

/-!
Keys and their normal forms. A trie cannot tell the two apart, so a key that an error names stands
for the key that was refused. What is in normal form stays so wherever it is cut, and with it every
path of a trie.
-/

namespace RadixForest.Trie

variable {V : Type}

namespace Config

variable (config : Config)

theorem foldCase_foldCase (key : Key) :
    config.foldCase (config.foldCase key) = config.foldCase key := by
  unfold foldCase
  split
  · rfl
  · exact Text.lowercase_lowercase key

theorem foldCase_eq_nil_iff (key : Key) : config.foldCase key = [] ↔ key = [] := by
  constructor
  · intro empty
    by_contra filled
    exact config.foldCase_ne_nil filled empty
  · rintro rfl
    unfold foldCase
    split <;> rfl

theorem normalize_foldCase (key : Key) :
    config.normalize (config.foldCase key) = config.normalize key := by
  have empty : (config.foldCase key).isEmpty = key.isEmpty := by
    rw [Bool.eq_iff_iff, List.isEmpty_iff, List.isEmpty_iff, foldCase_eq_nil_iff]
  simp only [normalize, empty, foldCase_foldCase]

-- The dotted capital I goes over a limit of one character only when it is folded.
example : let config : Config := { caseSensitive := false, maxKeyLen := some 1 }
    config.normalize ['İ'] = .error (.keyTooLong ['i', '\u0307'] 1) ∧
      config.normalize ['i', '\u0307'] = .error (.keyTooLong ['i', '\u0307'] 1) := by
  decide +kernel

structure Normal (key : Key) : Prop where
  filled : key ≠ []
  folded : config.foldCase key = key
  fits : ∀ most, config.maxKeyLen = some most → key.length ≤ most

variable {config} {start key name : Key}

theorem foldCase_of_prefix (starts : start <+: key) (folded : config.foldCase key = key) :
    config.foldCase start = start := by
  cases sensitive : config.caseSensitive with
  | true => simp [foldCase, sensitive]
  | false =>
      simp only [foldCase, sensitive, Bool.false_eq_true, if_false] at folded ⊢
      exact Text.lowercase_of_prefix starts folded

theorem Normal.of_starts (normal : config.Normal key) (starts : start <+: key)
    (filled : start ≠ []) : config.Normal start where
  filled := filled
  folded := foldCase_of_prefix starts normal.folded
  fits most limit := Nat.le_trans starts.length_le (normal.fits most limit)

theorem normalize_eq_ok_iff :
    config.normalize key = .ok name ↔ config.Admits key ∧ name = config.foldCase key := by
  rcases config.normalize_cases key with
    ⟨empty, refused⟩ | ⟨most, _, limit, long, refused⟩ | ⟨admits, named⟩
  · exact iff_of_false (by simp [refused]) fun held => held.1.1 empty
  · exact iff_of_false (by simp [refused]) fun held =>
      Nat.not_le.mpr long (held.1.2 most limit)
  · simp [named, admits, eq_comm]

theorem Normal.normalize (normal : config.Normal key) : config.normalize key = .ok key := by
  have admits : config.Admits key := by
    rw [Admits, normal.folded]
    exact ⟨normal.filled, normal.fits⟩
  exact normalize_eq_ok_iff.mpr ⟨admits, normal.folded.symm⟩

theorem normal_of_normalize (named : config.normalize key = .ok name) : config.Normal name := by
  obtain ⟨admits, rfl⟩ := normalize_eq_ok_iff.mp named
  exact ⟨config.foldCase_ne_nil admits.1, config.foldCase_foldCase key, admits.2⟩

end Config

theorem find_eq (trie : Trie V) (key : Key) :
    trie.find key = (trie.config.normalize key).map fun normal =>
      (trie.locate none normal).bind (·.value) := by
  unfold find
  cases trie.config.normalize key <;> rfl

theorem contains_eq (trie : Trie V) (key : Key) :
    trie.contains key = (trie.find key).map (·.isSome) := by
  unfold contains
  cases trie.find key <;> rfl

/-- Whatever is done through the one key comes to the same through the other. -/
structure Interchangeable (trie : Trie V) (one other : Key) : Prop where
  insert : ∀ value replace, trie.insert one value replace = trie.insert other value replace
  find : trie.find one = trie.find other
  contains : trie.contains one = trie.contains other

theorem interchangeable_foldCase (trie : Trie V) (key : Key) :
    trie.Interchangeable (trie.config.foldCase key) key := by
  have same := trie.config.normalize_foldCase key
  have find : trie.find (trie.config.foldCase key) = trie.find key := by
    rw [find_eq, find_eq, same]
  refine ⟨fun value replace => ?_, find, ?_⟩
  · rw [Trie.insert, Trie.insert, same]
  · rw [contains_eq, contains_eq, find]

def Operation.mapKey (change : Key → Key) : Operation V → Operation V
  | .insert key value replace => .insert (change key) value replace
  | .find key => .find (change key)
  | .contains key => .contains (change key)
  | .size => .size
  | .isEmpty => .isEmpty
  | .clear => .clear

theorem perform_foldCase (trie : Trie V) (operation : Operation V) :
    trie.perform (operation.mapKey trie.config.foldCase) = trie.perform operation := by
  cases operation with
  | insert key value replace =>
      simp only [Operation.mapKey, perform, (trie.interchangeable_foldCase key).insert]
  | find key => simp only [Operation.mapKey, perform, (trie.interchangeable_foldCase key).find]
  | contains key =>
      simp only [Operation.mapKey, perform, (trie.interchangeable_foldCase key).contains]
  | size => rfl
  | isEmpty => rfl
  | clear => rfl

theorem perform_config (trie : Trie V) (operation : Operation V) :
    (trie.perform operation).trie.config = trie.config := by
  cases operation with
  | insert key value replace =>
      simp only [perform, insert]
      split
      · rfl
      · exact insertNormal_config trie _ value replace
  | _ => rfl

theorem run_foldCase (trie : Trie V) (operations : List (Operation V)) :
    trie.run (operations.map (·.mapKey trie.config.foldCase)) = trie.run operations := by
  induction operations generalizing trie with
  | nil => rfl
  | cons operation operations ih =>
      have later := ih (trie.perform operation).trie
      rw [perform_config] at later
      simp only [run, List.map_cons, transcript, perform_foldCase] at later ⊢
      rw [later]

def KeyError.named? : KeyError → Option Key
  | .emptyKey => none
  | .duplicateKey key => some key
  | .keyTooLong key _ => some key

def Refuses (trie : Trie V) (key : Key) (cause : KeyError) : Prop :=
  (∃ value replace, (trie.insert key value replace).outcome = .error cause) ∨
    trie.find key = .error cause ∨ trie.contains key = .error cause

section Refuses

variable {trie : Trie V} {key named : Key} {cause : KeyError} (refused : trie.Refuses key cause)

include refused

theorem Refuses.cases :
    trie.config.normalize key = .error cause ∨
      ∃ normal, trie.config.normalize key = .ok normal ∧ cause = .duplicateKey normal := by
  cases admitted : trie.config.normalize key with
  | error own =>
      left
      rcases refused with ⟨value, replace, inserted⟩ | found | contained
      · simpa [Trie.insert, admitted] using inserted
      · simpa [find_eq, admitted, Except.map] using found
      · simpa [contains_eq, find_eq, admitted, Except.map] using contained
  | ok normal =>
      right
      rcases refused with ⟨value, replace, inserted⟩ | found | contained
      · simp only [Trie.insert, admitted] at inserted
        rw [insertNormal_refused inserted] at inserted
        exact ⟨normal, rfl, (Except.error.inj inserted).symm⟩
      · simp [find_eq, admitted, Except.map] at found
      · simp [contains_eq, find_eq, admitted, Except.map] at contained

theorem Refuses.named_eq (names : cause.named? = some named) :
    named = trie.config.foldCase key := by
  rcases refused.cases with own | ⟨normal, admitted, rfl⟩
  · rcases trie.config.normalize_cases key with ⟨_, empty⟩ | ⟨_, _, _, _, long⟩ | ⟨_, admitted⟩
    · obtain rfl := Except.error.inj (empty.symm.trans own)
      cases names
    · obtain rfl := Except.error.inj (long.symm.trans own)
      exact (Option.some.inj names).symm
    · simp [admitted] at own
  · obtain rfl := Option.some.inj names
    exact (Config.normalize_eq_ok_iff.mp admitted).2

theorem Refuses.interchangeable (names : cause.named? = some named) :
    trie.Interchangeable named key :=
  refused.named_eq names ▸ trie.interchangeable_foldCase key

end Refuses

def Bindings.Normal (config : Config) (bindings : Bindings V) : Prop :=
  ∀ name, (bindings.lookup name).isSome → config.Normal name

theorem Bindings.Normal.perform {config : Config} {bindings : Bindings V}
    (normal : bindings.Normal config) (operation : Operation V) :
    Bindings.Normal config (Dictionary.perform config bindings operation).2 := by
  cases operation with
  | insert key value replace =>
      -- A name that was not bound before is what the key was normalised to.
      intro name bound
      have after : (Dictionary.perform config bindings (.insert key value replace)).2.lookup name =
          _ := Dictionary.lookup_perform_insert config bindings ⟨key, value, replace⟩ name
      rw [after] at bound
      split at bound
      · rename_i named
        rw [Dictionary.name_eq_normalize] at named
        exact Config.normal_of_normalize named
      · exact normal name bound
  | clear => simp [Bindings.Normal, Dictionary.perform]
  | _ => exact normal

theorem Bindings.normal_run (config : Config) (operations : List (Operation V)) :
    (Dictionary.run config operations).2.Normal config := by
  refine transcript_keeps _ (fun _ operation normal => normal.perform operation) operations ?_
  simp [Bindings.Normal]

/-- A limit of no more than 32768 characters keeps every trie from growing too deep to be shown. -/
theorem render_within_limit {config : Config} {most : Nat} (limit : config.maxKeyLen = some most)
    (small : most ≤ 32768) (operations : List (Operation V)) (shown : V → String) :
    ∃ text, ((Trie.empty config).run operations).2.render shown = .ok text := by
  have shallow := maxDepth_le config operations most fun key member => by
    have bound := (Bindings.mem_keys_iff _ key).mp member
    exact (Bindings.normal_run config operations key bound).fits most limit
  obtain ⟨_, _, stands, _⟩ := (run_mirrors config operations).2
  exact ⟨_, (stands.render shown).trans (if_pos (Nat.le_trans shallow small))⟩

theorem Mirrors.find_of_duplicate {config : Config} {trie : Trie V} {bindings : Bindings V}
    (mirrors : Mirrors config trie bindings) {key named : Key} {value : V} {replace : Bool}
    (refused : (trie.insert key value replace).outcome = .error (.duplicateKey named)) :
    ∃ bound, trie.find key = .ok (some bound) := by
  obtain ⟨_, ⟨_, present⟩, _⟩ := (mirrors.duplicateKey_iff key value replace named).mp refused
  rw [contains_eq] at present
  cases found : trie.find key with
  | error cause => simp [found, Except.map] at present
  | ok bound =>
      simp only [found, Except.map, Except.ok.injEq] at present
      obtain ⟨stored, rfl⟩ := Option.isSome_iff_exists.mp present
      exact ⟨stored, rfl⟩

theorem Mirrors.normal_of_endsAt {config : Config} {trie : Trie V} {bindings : Bindings V}
    (mirrors : Mirrors config trie bindings) (normal : bindings.Normal config) {id : NodeId}
    {path : Key} (reached : trie.EndsAt id path) : config.Normal path := by
  obtain ⟨_, forest, stands, content⟩ := mirrors
  have member := List.mem_toFinset.mp (stands.charted.inside id path reached).2
  have filled := (Shape.head_of_mem_collect Shape.own_path stands.compact member).1
  obtain ⟨key, binds, starts⟩ := Shape.exists_binds_behind stands.compact member
  rw [Shape.Binds, content.lookup] at binds
  exact (normal key binds).of_starts starts filled

/-- A key and its normal form are one to a trie, and all that it keeps is in normal form. -/
theorem normal_form_respected (config : Config) (operations : List (Operation V)) (key : Key) :
    let trie := ((Trie.empty config).run operations).2
    let normal := config.foldCase key
    ((normal = [] ↔ key = []) ∧ config.foldCase normal = normal ∧
      config.normalize normal = config.normalize key ∧
      ∀ name, config.normalize key = .ok name → name = normal ∧ config.normalize name = .ok name) ∧
    trie.Interchangeable normal key ∧
    (∀ later, trie.run (later.map (·.mapKey config.foldCase)) = trie.run later) ∧
    (∀ cause named, trie.Refuses key cause → cause.named? = some named →
      named = normal ∧ trie.Interchangeable named key) ∧
    (∀ value replace named, (trie.insert key value replace).outcome = .error (.duplicateKey named) →
      ∃ bound, trie.find named = .ok (some bound) ∧ trie.find key = .ok (some bound)) ∧
    (∀ id < trie.nodeCount, ∃ path, trie.EndsAt id path) ∧
    ∀ id path, trie.EndsAt id path → config.normalize path = .ok path ∧ 1 ≤ path.length ∧
      ∀ most, config.maxKeyLen = some most → path.length ≤ most := by
  intro trie normal
  have mirrors := (run_mirrors config operations).2
  have same : trie.config = config := mirrors.config
  refine ⟨⟨config.foldCase_eq_nil_iff key, config.foldCase_foldCase key,
    config.normalize_foldCase key, fun name named => ?_⟩, ?_, fun later => ?_,
    fun cause named refused names => ?_, fun value replace named refused => ?_, fun id bound => ?_,
    fun id path reached => ?_⟩
  · exact ⟨(Config.normalize_eq_ok_iff.mp named).2, (Config.normal_of_normalize named).normalize⟩
  · have folded := trie.interchangeable_foldCase key
    rwa [same] at folded
  · have folded := trie.run_foldCase later
    rwa [same] at folded
  · have named := refused.named_eq names
    rw [same] at named
    exact ⟨named, refused.interchangeable names⟩
  · obtain ⟨bound, found⟩ := mirrors.find_of_duplicate refused
    have one := Refuses.interchangeable (Or.inl ⟨value, replace, refused⟩) rfl
    exact ⟨bound, one.find.trans found, found⟩
  · obtain ⟨_, forest, stands, _⟩ := mirrors
    obtain ⟨path, reached, _⟩ := stands.charted.place id bound
    exact ⟨path, reached⟩
  · have inForm := mirrors.normal_of_endsAt (Bindings.normal_run config operations) reached
    exact ⟨inForm.normalize, List.length_pos_iff.mpr inForm.filled, inForm.fits⟩

end RadixForest.Trie
