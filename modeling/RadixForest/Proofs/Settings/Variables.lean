import RadixForest.Proofs.Settings.Fields
import RadixForest.Proofs.Text.Lowercase

/-!
The layer that environment variables make. Where no two of them have the same name in the document,
the layer enters one value after the other. The variable of a setting, in any case, has the path of
the setting as its name.
-/

namespace RadixForest.Settings

open Document

def carries (leading name : String) : Bool :=
  (Text.lowercase (leading ++ "__").toList).isPrefixOf (Text.lowercase name.toList)

def Field.inEnvironment (leading : String) (field : Field) : String :=
  leading ++ "__" ++ field.part ++ "__" ++ field.name

def isFor (leading name : String) (field : Field) : Bool :=
  Text.lowercase name.toList == Text.lowercase (field.inEnvironment leading).toList

theorem stripStart?_eq_some_iff (start text rest : List Char) :
    stripStart? start text = some rest ↔ text = start ++ rest := by
  induction start generalizing text with
  | nil => simp [stripStart?]
  | cons c start ih =>
      cases text with
      | nil => simp [stripStart?]
      | cons d text =>
          by_cases same : c = d
          · simp [stripStart?, same, ih]
          · simp [stripStart?, same, Ne.symm same]

theorem carries_eq (leading name : String) :
    carries leading name = (entryName? leading name).isSome := by
  unfold carries entryName?
  rw [Option.isSome_map, Bool.eq_iff_iff, List.isPrefixOf_iff_prefix, Option.isSome_iff_exists]
  constructor
  · rintro ⟨rest, whole⟩
    exact ⟨rest, (stripStart?_eq_some_iff _ _ _).mpr whole.symm⟩
  · rintro ⟨rest, found⟩
    exact ⟨rest, ((stripStart?_eq_some_iff _ _ _).mp found).symm⟩

theorem lowercase_inEnvironment (leading : String) (field : Field) :
    Text.lowercase (field.inEnvironment leading).toList =
      Text.lowercase (leading ++ "__").toList ++ (field.part ++ "__" ++ field.name).toList := by
  have lower : Text.lowercase (field.part ++ "__" ++ field.name).toList =
      (field.part ++ "__" ++ field.name).toList := by
    cases field <;> decide +kernel
  have whole : (field.inEnvironment leading).toList =
      leading.toList ++ '_' :: '_' :: (field.part ++ "__" ++ field.name).toList := by
    simp [Field.inEnvironment, String.toList_append]
  have start : (leading ++ "__").toList = leading.toList ++ '_' :: '_' :: [] := by
    simp [String.toList_append]
  rw [whole, start, Text.lowercase_underscores, Text.lowercase_underscores, lower]
  simp [Text.lowercase, Text.lowercaseFrom]

theorem entryName?_of_isFor {leading name : String} {field : Field}
    (found : isFor leading name field) :
    entryName? leading name = some (field.part ++ "." ++ field.name) := by
  rw [isFor, beq_iff_eq, lowercase_inEnvironment] at found
  have spelled : String.ofList (dotted (field.part ++ "__" ++ field.name).toList) =
      field.part ++ "." ++ field.name := by
    cases field <;> decide +kernel
  rw [entryName?, (stripStart?_eq_some_iff _ _ _).mpr found, Option.map_some, spelled]

theorem carries_of_isFor {leading name : String} {field : Field}
    (found : isFor leading name field) : carries leading name := by
  rw [carries_eq, entryName?_of_isFor found]
  rfl

theorem not_isFor_of_foreign {leading name : String} (foreign : carries leading name = false)
    (field : Field) : isFor leading name field = false := by
  rw [Bool.eq_false_iff]
  intro found
  rw [carries_of_isFor found] at foreign
  cases foreign

theorem partsOf_field (field : Field) : partsOf (field.part ++ "." ++ field.name) = field.path := by
  cases field <;> decide +kernel

theorem isIdentifier_of_mem_path {field : Field} : ∀ part ∈ field.path, isIdentifier part := by
  cases field <;> decide +kernel

theorem eq_of_isFor {leading name : String} {field other : Field}
    (found : isFor leading name field) (found' : isFor leading name other) : field = other := by
  have same := (entryName?_of_isFor found).symm.trans (entryName?_of_isFor found')
  apply Field.path_injective
  rw [← partsOf_field, ← partsOf_field, Option.some.inj same]

def isScalar : Value → Bool
  | .table _ | .list _ => false
  | _ => true

theorem isScalar_entryValue (written : String) : isScalar (entryValue written) := by
  unfold entryValue
  split
  · rfl
  split
  · rfl
  split
  · rfl
  split <;> rfl

theorem not_table_of_isScalar {value : Value} (scalar : isScalar value) :
    value.isTable = false := by
  cases value with
  | table entries => simp [isScalar] at scalar
  | _ => rfl

theorem ne_list_of_isScalar {value : Value} (scalar : isScalar value) (items : List Value) :
    value ≠ .list items := by
  rintro rfl
  exact absurd scalar (by simp [isScalar])

def assignments (leading : String) (environment : List (String × String)) : Table :=
  environment.filterMap fun given =>
    (entryName? leading given.1).map fun name => (name, entryValue given.2)

theorem assignments_cons (leading : String) (given : String × String)
    (rest : List (String × String)) :
    assignments leading (given :: rest) =
      match entryName? leading given.1 with
      | some name => (name, entryValue given.2) :: assignments leading rest
      | none => assignments leading rest := by
  unfold assignments
  rw [List.filterMap_cons]
  cases entryName? leading given.1 <;> rfl

theorem nodup_assignments {leading : String} {environment : List (String × String)}
    (different : environment.Pairwise fun one other =>
      ∀ name, entryName? leading one.1 = some name → entryName? leading other.1 ≠ some name) :
    ((assignments leading environment).map (·.1)).Nodup := by
  rw [assignments, List.map_filterMap, List.Nodup, List.pairwise_filterMap]
  refine different.imp fun {one other} differ => ?_
  intro name found name' found' same
  subst same
  rw [Option.map_map, Option.map_eq_some_iff] at found found'
  obtain ⟨_, entry, rfl⟩ := found
  obtain ⟨_, entry', rfl⟩ := found'
  exact differ _ entry entry'

def record (leading : String) (entries : Table) (given : String × String) : Table :=
  match entryName? leading given.1 with
  | some name => Table.set entries name (entryValue given.2)
  | none => entries

theorem foldl_record {leading : String} {environment : List (String × String)} (entries : Table)
    (distinct : ((entries ++ assignments leading environment).map (·.1)).Nodup) :
    environment.foldl (record leading) entries = entries ++ assignments leading environment := by
  induction environment generalizing entries with
  | nil => exact (List.append_nil entries).symm
  | cons given rest ih =>
      rw [assignments_cons] at distinct ⊢
      rw [List.foldl_cons, record]
      cases found : entryName? leading given.1 with
      | none =>
          simp only [found] at distinct
          exact ih entries distinct
      | some name =>
          simp only [found] at distinct
          have fresh : name ∉ entries.map (·.1) := by
            intro member
            rw [List.map_append, List.map_cons] at distinct
            exact (List.nodup_append.mp distinct).2.2 name member name List.mem_cons_self rfl
          rw [List.append_cons] at distinct
          simp only [Table.set_of_not_mem fresh, ih _ distinct, List.append_assoc,
            List.singleton_append]

theorem environmentLayer_eq {leading : String} {environment : List (String × String)}
    (distinct : ((assignments leading environment).map (·.1)).Nodup) :
    environmentLayer leading environment = assignments leading environment :=
  foldl_record [] distinct

def enter (leading : String) (document : Value) (given : String × String) : Value :=
  match entryName? leading given.1 with
  | some name => Value.along (entryValue given.2) (partsOf name) (some document)
  | none => document

theorem lay_assignments (leading : String) (environment : List (String × String))
    (document : Value) :
    document.lay (assignments leading environment) =
      environment.foldl (enter leading) document := by
  induction environment generalizing document with
  | nil => rfl
  | cons given rest ih =>
      rw [List.foldl_cons, ← ih, assignments_cons, enter]
      cases entryName? leading given.1 <;> rfl

def pathOf? (leading name : String) : Option (List String) :=
  (entryName? leading name).map partsOf

/-- The paths that the variables name are made of identifiers. -/
def Named (leading : String) (environment : List (String × String)) : Prop :=
  ∀ given ∈ environment, ∀ path ∈ pathOf? leading given.1, ∀ part ∈ path, isIdentifier part

instance (leading : String) (environment : List (String × String)) :
    Decidable (Named leading environment) :=
  inferInstanceAs (Decidable (∀ given ∈ environment, ∀ path ∈ pathOf? leading given.1,
    ∀ part ∈ path, isIdentifier part))

/-- Neither of two variables names a path that starts, or is, the path of the other. -/
def Separate (leading : String) (one other : String × String) : Prop :=
  ∀ path ∈ pathOf? leading one.1, ∀ path' ∈ pathOf? leading other.1, Alike.Apart path path'

instance (leading : String) (one other : String × String) :
    Decidable (Separate leading one other) :=
  inferInstanceAs (Decidable (∀ path ∈ pathOf? leading one.1, ∀ path' ∈ pathOf? leading other.1,
    Alike.Apart path path'))

theorem Separate.symm {leading : String} {one other : String × String}
    (separate : Separate leading one other) : Separate leading other one :=
  fun path found path' found' => (separate path' found' path found).symm

theorem Separate.differ {leading : String} {one other : String × String}
    (separate : Separate leading one other) (name : String)
    (found : entryName? leading one.1 = some name) : entryName? leading other.1 ≠ some name := by
  intro found'
  have path : pathOf? leading one.1 = some (partsOf name) := by rw [pathOf?, found, Option.map_some]
  have path' : pathOf? leading other.1 = some (partsOf name) := by
    rw [pathOf?, found', Option.map_some]
  exact (separate _ path _ path').1 (List.prefix_refl _)

theorem tidy_assignments {leading : String} {environment : List (String × String)}
    (named : Named leading environment) (separate : environment.Pairwise (Separate leading)) :
    Alike.Tidy (assignments leading environment) := by
  constructor
  · intro entry member
    obtain ⟨given, listed, made⟩ := List.mem_filterMap.mp member
    obtain ⟨name, found, rfl⟩ := Option.map_eq_some_iff.mp made
    exact named given listed (partsOf name) (by rw [pathOf?, found]; rfl)
  · rw [assignments, List.pairwise_filterMap]
    refine separate.imp fun {one other} apart => ?_
    intro entry made entry' made'
    obtain ⟨name, found, rfl⟩ := Option.map_eq_some_iff.mp made
    obtain ⟨name', found', rfl⟩ := Option.map_eq_some_iff.mp made'
    exact apart _ (by rw [pathOf?, found]; rfl) _ (by rw [pathOf?, found']; rfl)

theorem environmentLayer_separate {leading : String} {environment : List (String × String)}
    (separate : environment.Pairwise (Separate leading)) :
    environmentLayer leading environment = assignments leading environment :=
  environmentLayer_eq (nodup_assignments (separate.imp Separate.differ))

end RadixForest.Settings
