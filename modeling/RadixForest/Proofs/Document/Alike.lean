import RadixForest.Proofs.Document.Paths

/-!
Documents that differ only in the order of their entries. Layers over alike documents make alike
documents, and the entries of a layer may come in any order if none of their names starts another.
-/

namespace RadixForest.Document

/-- The same value, or tables with as many entries that hold alike values under the same names. -/
inductive Alike : Value → Value → Prop
  | refl (value : Value) : Alike value value
  | table {one other : Table} : one.length = other.length →
      (∀ name, (Table.get? one name).isSome = (Table.get? other name).isSome) →
      (∀ name left right, Table.get? one name = some left → Table.get? other name = some right →
        Alike left right) →
      Alike (.table one) (.table other)

namespace Alike

theorem symm {one other : Value} (alike : Alike one other) : Alike other one := by
  induction alike with
  | refl value => exact .refl value
  | table length names _ ih =>
      exact .table length.symm (fun name => (names name).symm)
        fun name left right first second => ih name right left second first

theorem trans {one middle other : Value} (alike : Alike one middle)
    (next : Alike middle other) : Alike one other := by
  induction alike generalizing other with
  | refl value => exact next
  | table length names below ih =>
      cases next with
      | refl => exact .table length names below
      | table length' names' below' =>
          refine .table (length.trans length') (fun name => (names name).trans (names' name)) ?_
          intro name left right first last
          -- What stands between the two under this name is there, as both sides of it are.
          obtain ⟨value, held⟩ := Option.isSome_iff_exists.mp
            ((names name).symm.trans (by rw [first]; rfl))
          exact ih name left value first held (below' name value right held last)

theorem entries {one other : Value} (alike : Alike one other) :
    Alike (.table one.entries) (.table other.entries) := by
  cases alike with
  | refl => exact .refl _
  | table length names below => exact .table length names below

theorem length {one other : Table} (alike : Alike (.table one) (.table other)) :
    one.length = other.length := by
  cases alike with
  | refl => rfl
  | table length _ _ => exact length

theorem names {one other : Table} (alike : Alike (.table one) (.table other)) (name : String) :
    (Table.get? one name).isSome = (Table.get? other name).isSome := by
  cases alike with
  | refl => rfl
  | table _ names _ => exact names name

theorem within {one other : Table} (alike : Alike (.table one) (.table other)) {name : String}
    {left right : Value} (first : Table.get? one name = some left)
    (second : Table.get? other name = some right) : Alike left right := by
  cases alike with
  | refl =>
      rw [first] at second
      cases second
      exact .refl left
  | table _ _ below => exact below name left right first second

theorem get? {one other : Table} (alike : Alike (.table one) (.table other)) (name : String) :
    Option.Rel Alike (Table.get? one name) (Table.get? other name) := by
  have same := alike.names name
  cases first : Table.get? one name with
  | none =>
      cases second : Table.get? other name with
      | none => exact .none
      | some right => simp [first, second] at same
  | some left =>
      cases second : Table.get? other name with
      | none => simp [first, second] at same
      | some right => exact .some (alike.within first second)

theorem set {one other : Table} (alike : Alike (.table one) (.table other)) (name : String)
    {left right : Value} (values : Alike left right) :
    Alike (.table (Table.set one name left)) (.table (Table.set other name right)) := by
  refine .table ?_ (fun asked => ?_) fun asked first second => ?_
  · rw [Table.length_set, Table.length_set, alike.names, alike.length]
  · rw [Table.get?_set, Table.get?_set]
    split
    · rfl
    · exact alike.names asked
  · rw [Table.get?_set, Table.get?_set]
    split
    · rintro ⟨⟩ ⟨⟩
      exact values
    · exact alike.within

theorem set_set {table : Table} {name : String} (first : Value) {one other : Value}
    (values : Alike one other) :
    Alike (.table (Table.set (Table.set table name first) name one))
      (.table (Table.set table name other)) := by
  refine .table ?_ (fun asked => ?_) fun asked left right => ?_
  · simp [Table.length_set, Table.get?_set]
  · rw [Table.get?_set, Table.get?_set, Table.get?_set]
    split <;> rfl
  · rw [Table.get?_set, Table.get?_set, Table.get?_set]
    split
    · rintro ⟨⟩ ⟨⟩
      exact values
    · intro before after
      rw [before] at after
      cases after
      exact .refl left

theorem set_comm (table : Table) {name other : String} (different : name ≠ other)
    (one two : Value) :
    Alike (.table (Table.set (Table.set table name one) other two))
      (.table (Table.set (Table.set table other two) name one)) := by
  have same (asked : String) : Table.get? (Table.set (Table.set table name one) other two) asked =
      Table.get? (Table.set (Table.set table other two) name one) asked := by
    simp only [Table.get?_set]
    by_cases isName : name = asked
    · simp [isName, Ne.symm (isName ▸ different)]
    · simp [isName]
  refine .table ?_ (fun asked => congrArg Option.isSome (same asked)) ?_
  · simp only [Table.length_set, Table.get?_set, different, Ne.symm different, if_false]
    cases (Table.get? table name).isSome <;> cases (Table.get? table other).isSome <;> rfl
  · intro asked left right first second
    rw [same, second] at first
    cases first
    exact .refl _

theorem getD {one other : Option Value} (alike : Option.Rel Alike one other) :
    Alike (one.getD .null) (other.getD .null) := by
  cases alike with
  | none => exact .refl .null
  | some values => exact values

theorem items {one other : Value} (alike : Alike one other) : one.items = other.items := by
  cases alike <;> rfl

mutual

theorem overlay (incoming : Value) {one other : Option Value} (alike : Option.Rel Alike one other) :
    Alike (Value.overlay one incoming) (Value.overlay other incoming) := by
  cases incoming with
  | table entries =>
      rw [Value.overlay, Value.overlay]
      refine overlayEntries entries ?_
      cases alike with
      | none => exact .refl _
      | some values => exact values
  | _ =>
      simp only [Value.overlay]
      exact .refl _

theorem overlayEntries (incoming : List (String × Value)) {one other : Value}
    (alike : Alike one other) :
    Alike (Value.overlayEntries one incoming) (Value.overlayEntries other incoming) := by
  cases incoming with
  | nil =>
      rw [Value.overlayEntries, Value.overlayEntries]
      exact alike
  | cons entry rest =>
      obtain ⟨name, value⟩ := entry
      rw [Value.overlayEntries, Value.overlayEntries]
      exact overlayEntries rest (alike.entries.set name (overlay value (alike.entries.get? name)))

end

theorem along (incoming : Value) (path : List String) {one other : Option Value}
    (alike : Option.Rel Alike one other) :
    Alike (Value.along incoming path one) (Value.along incoming path other) := by
  induction path generalizing one other with
  | nil => exact overlay incoming alike
  | cons name rest ih =>
      have under := (getD alike).entries
      exact under.set name (ih (under.get? name))

inductive Outcome : Except Panic Value → Except Panic Value → Prop
  | broken (panic : Panic) : Outcome (.error panic) (.error panic)
  | made {one other : Value} : Alike one other → Outcome (.ok one) (.ok other)

theorem Outcome.refl (outcome : Except Panic Value) : Outcome outcome outcome := by
  cases outcome with
  | error panic => exact .broken panic
  | ok value => exact .made (.refl value)

theorem Outcome.symm {one other : Except Panic Value} (alike : Outcome one other) :
    Outcome other one := by
  cases alike with
  | broken panic => exact .broken panic
  | made values => exact .made values.symm

theorem Outcome.trans {one middle other : Except Panic Value} (alike : Outcome one middle)
    (next : Outcome middle other) : Outcome one other := by
  cases alike with
  | broken panic => exact next
  | made values =>
      cases next with
      | made values' => exact .made (values.trans values')

theorem Outcome.bind {one other : Except Panic Value} {next next' : Value → Except Panic Value}
    (alike : Outcome one other)
    (later : ∀ {one other}, Alike one other → Outcome (next one) (next' other)) :
    Outcome (one >>= next) (other >>= next') := by
  cases alike with
  | broken panic => exact .broken panic
  | made values => exact later values

theorem putAt (incoming : Value) (path : List Step) {one other : Value} (alike : Alike one other) :
    Outcome (Value.putAt incoming path one) (Value.putAt incoming path other) := by
  induction path generalizing one other with
  | nil => exact .refl _
  | cons step rest ih =>
      cases step with
      | index position =>
          -- Lists do not differ in alike documents, nor does what is put into them.
          cases rest <;> simp only [Value.putAt, alike.items] <;> exact .refl _
      | name name =>
          have under := alike.entries.get? name
          cases rest with
          | nil => exact .made (alike.entries.set name (overlay incoming under))
          | cons next rest =>
              exact (ih (getD under)).bind fun values => .made (alike.entries.set name values)

theorem layer (entries : Table) {one other : Value} (alike : Alike one other) :
    Outcome (one.layer entries) (other.layer entries) := by
  induction entries generalizing one other with
  | nil => exact .made alike
  | cons entry rest ih => exact (putAt entry.2 _ alike).bind ih

def Apart {α : Type} (path other : List α) : Prop := ¬path <+: other ∧ ¬other <+: path

instance {α : Type} [DecidableEq α] (path other : List α) : Decidable (Apart path other) :=
  inferInstanceAs (Decidable (¬path <+: other ∧ ¬other <+: path))

theorem Apart.symm {α : Type} {path other : List α} (apart : Apart path other) :
    Apart other path :=
  ⟨apart.2, apart.1⟩

theorem Apart.tail {α : Type} {name : α} {path other : List α}
    (apart : Apart (name :: path) (name :: other)) : Apart path other := by
  refine ⟨fun starts => apart.1 ?_, fun starts => apart.2 ?_⟩
  · exact List.cons_prefix_cons.mpr ⟨rfl, starts⟩
  · exact List.cons_prefix_cons.mpr ⟨rfl, starts⟩

theorem along_comm (one two : Value) {path other : List String} (apart : Apart path other)
    (old : Option Value) :
    Alike (Value.along two other (some (Value.along one path old)))
      (Value.along one path (some (Value.along two other old))) := by
  induction path generalizing other old with
  | nil => exact absurd (List.nil_prefix) apart.1
  | cons name path ih =>
      cases other with
      | nil => exact absurd (List.nil_prefix) apart.2
      | cons next other =>
          simp only [Value.along, Option.getD_some, Value.entries]
          by_cases same : name = next
          · subst same
            simp only [Table.get?_set, if_true]
            have inner := ih apart.tail (Table.get? (old.getD .null).entries name)
            exact (set_set _ inner).trans (set_set _ (.refl _)).symm
          · simp only [Table.get?_set, same, Ne.symm same, if_false]
            exact set_comm _ same _ _

/-- The names of the entries are paths of identifiers, none of which starts another. -/
def Tidy (entries : Table) : Prop :=
  (∀ entry ∈ entries, ∀ part ∈ partsOf entry.1, isIdentifier part) ∧
    entries.Pairwise fun one other => Apart (partsOf one.1) (partsOf other.1)

instance (entries : Table) : Decidable (Tidy entries) :=
  inferInstanceAs (Decidable ((∀ entry ∈ entries, ∀ part ∈ partsOf entry.1, isIdentifier part) ∧
    entries.Pairwise fun one other => Apart (partsOf one.1) (partsOf other.1)))

theorem Tidy.perm {entries others : Table} (tidy : Tidy entries) (reordered : entries.Perm others) :
    Tidy others :=
  ⟨fun entry member => tidy.1 entry (reordered.mem_iff.mpr member),
    (reordered.pairwise_iff Apart.symm).mp tidy.2⟩

theorem Tidy.of_identifiers {entries : Table}
    (identifiers : ∀ entry ∈ entries, isIdentifier entry.1)
    (distinct : (entries.map (·.1)).Nodup) : Tidy entries := by
  have parts {entry : String × Value} (member : entry ∈ entries) : partsOf entry.1 = [entry.1] :=
    partsOf_identifier (identifiers entry member)
  constructor
  · intro entry member part inside
    rw [parts member, List.mem_singleton] at inside
    exact inside ▸ identifiers entry member
  · refine (List.pairwise_map.mp distinct).imp_of_mem fun {one other} member member' differ => ?_
    rw [parts member, parts member']
    simp [Apart, List.cons_prefix_cons, differ, Ne.symm differ]

theorem lay_perm {entries others : Table} (tidy : Tidy entries) (reordered : entries.Perm others)
    {one other : Value} (alike : Alike one other) : Alike (one.lay entries) (other.lay others) := by
  have keeps (entry : String × Value) {one other : Value} (alike : Alike one other) :
      Alike (Value.along entry.2 (partsOf entry.1) (some one))
        (Value.along entry.2 (partsOf entry.1) (some other)) :=
    along _ _ (.some alike)
  have all (entries : Table) {one other : Value} (alike : Alike one other) :
      Alike (one.lay entries) (other.lay entries) := by
    induction entries generalizing one other with
    | nil => exact alike
    | cons entry entries ih => exact ih (keeps entry alike)
  have apart := tidy.2
  clear tidy
  induction reordered generalizing one other with
  | nil => exact alike
  | cons entry _ ih => exact ih (keeps entry alike) apart.tail
  | swap left right rest =>
      obtain ⟨first, _⟩ := List.pairwise_cons.mp apart
      have swapped := along_comm right.2 left.2 (first left List.mem_cons_self) (some one)
      exact (all rest swapped).trans (all rest (keeps right (keeps left alike)))
  | trans before _ ih ih' =>
      exact (ih (.refl one) apart).trans
        (ih' alike ((before.pairwise_iff Apart.symm).mp apart))

/-- Layers with the same entries in any order make alike documents of alike ones. -/
theorem layer_perm {entries others : Table} (tidy : Tidy entries) (reordered : entries.Perm others)
    {one other : Value} (alike : Alike one other) :
    Outcome (one.layer entries) (other.layer others) := by
  rw [Value.layer_eq_lay tidy.1, Value.layer_eq_lay (tidy.perm reordered).1]
  exact .made (lay_perm tidy reordered alike)

end Alike

end RadixForest.Document
