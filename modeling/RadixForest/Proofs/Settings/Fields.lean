import RadixForest.Proofs.Document.Alike
import RadixForest.Settings.Load

/-!
The settings one by one, and what a document says of each. A document whose sections are no lists
is decoded from the values that it holds under the paths of the settings, and a value put along
names changes these values on its own path only.
-/

namespace RadixForest

open Document

namespace Document.Value

theorem read_alike {α : Type} {read : Value → Option α}
    (tables : ∀ entries, read (.table entries) = none) {one other : Value}
    (alike : Alike one other) : read one = read other := by
  cases alike with
  | refl => rfl
  | table => rw [tables, tables]

theorem toDispatch?_alike {one other : Value} (alike : Alike one other) :
    one.toDispatch? = other.toDispatch? := by
  cases alike with
  | refl => rfl
  | @table one other length names _ =>
      match one, other with
      | [(name, _)], [(name', _)] =>
          have same := names name
          simp only [Table.get?_cons, if_true, Option.isSome_some] at same
          split at same
          · rename_i equal
            simp [toDispatch?, equal]
          · simp [Table.get?] at same
      | [], [] => rfl
      | _ :: _ :: _, _ :: _ :: _ => rfl
      | [], _ :: _ => simp at length
      | _ :: _, [] => simp at length
      | [_], _ :: _ :: _ => simp at length
      | _ :: _ :: _, [_] => simp at length

end Document.Value

namespace Settings

inductive Field
  | caseSensitive
  | maxKeyLen
  | dispatch
  | level
  | json
  | sourceLocation
deriving DecidableEq, Repr

namespace Field

def part : Field → String
  | .caseSensitive | .maxKeyLen | .dispatch => "trie"
  | .level | .json | .sourceLocation => "log"

def name : Field → String
  | .caseSensitive => "case_sensitive"
  | .maxKeyLen => "max_key_len"
  | .dispatch => "dispatch"
  | .level => "level"
  | .json => "json"
  | .sourceLocation => "source_location"

def path (field : Field) : List String := [field.part, field.name]

def all : List Field := [.caseSensitive, .maxKeyLen, .dispatch, .level, .json, .sourceLocation]

theorem path_injective {field other : Field} (same : field.path = other.path) : field = other := by
  cases field <;> cases other <;> first | rfl | exact absurd same (by decide)

theorem path_apart {field other : Field} (different : field ≠ other) :
    Alike.Apart field.path other.path := by
  cases field <;> cases other <;> first | exact absurd rfl different | decide

end Field

def partNames : List String := ["trie", "log"]

theorem Field.part_mem (field : Field) : field.part ∈ partNames := by
  cases field <;> decide

def valueAt (document : Value) (field : Field) : Option Value :=
  (Table.get? document.entries field.part).bind fun part => Table.get? part.entries field.name

def trieOf? (value : Field → Option Value) : Option TrieSettings := do
  return {
    caseSensitive := ← (value .caseSensitive).bind Value.toBool?
    maxKeyLen := ← ((value .maxKeyLen).getD .null).optional? Value.toNat?
    dispatch := ← (value .dispatch).bind Value.toDispatch? }

def logOf? (value : Field → Option Value) : Option LogSettings := do
  return {
    level := ← (value .level).bind Value.toText?
    json := ← (value .json).bind Value.toBool?
    sourceLocation := ← (value .sourceLocation).bind Value.toBool? }

def ofValues? (value : Field → Option Value) : Option Settings := do
  return { trie := ← trieOf? value, log := ← logOf? value }

def Unlisted (document : Value) : Prop :=
  ∀ part ∈ partNames, ∀ items, Table.get? document.entries part ≠ some (.list items)

theorem decodeTrie?_table (entries : Table) :
    decodeTrie? .converting (.table entries) =
      trieOf? fun field => Table.get? entries field.name := by
  simp only [decodeTrie?, Reading.converting, fields?, List.map_cons, List.map_nil, trieOf?,
    Field.name]
  cases Table.get? entries "case_sensitive" with
  | none => rfl
  | some caseSensitive => cases Table.get? entries "dispatch" <;> simp

theorem decodeLog?_table (entries : Table) :
    decodeLog? .converting (.table entries) =
      logOf? fun field => Table.get? entries field.name := by
  simp only [decodeLog?, Reading.converting, fields?, List.map_cons, List.map_nil, logOf?,
    Field.name]
  cases Table.get? entries "level" with
  | none => rfl
  | some level =>
      cases Table.get? entries "json" with
      | none => simp
      | some json => cases Table.get? entries "source_location" <;> simp

theorem decodeTrie?_eq {document : Value} (unlisted : Unlisted document) :
    (Table.get? document.entries "trie").bind (decodeTrie? .converting) =
      trieOf? (valueAt document) := by
  simp only [trieOf?, valueAt, Field.part]
  cases found : Table.get? document.entries "trie" with
  | none => rfl
  | some trie =>
      cases trie with
      | list items => exact absurd found (unlisted "trie" (by decide) items)
      | table entries => exact decodeTrie?_table entries
      | _ => rfl

theorem decodeLog?_eq {document : Value} (unlisted : Unlisted document) :
    (Table.get? document.entries "log").bind (decodeLog? .converting) =
      logOf? (valueAt document) := by
  simp only [logOf?, valueAt, Field.part]
  cases found : Table.get? document.entries "log" with
  | none => rfl
  | some log =>
      cases log with
      | list items => exact absurd found (unlisted "log" (by decide) items)
      | table entries => exact decodeLog?_table entries
      | _ => rfl

theorem decode?_eq_ofValues? {document : Value} (unlisted : Unlisted document) :
    decode? .converting document = ofValues? (valueAt document) := by
  rw [ofValues?, ← decodeTrie?_eq unlisted, ← decodeLog?_eq unlisted]
  simp only [decode?, Option.bind_eq_bind, Option.bind_assoc]

theorem bind_get?_alike {α : Type} {read : Value → Option α}
    (reads : ∀ {left right}, Alike left right → read left = read right) {one other : Table}
    (alike : Alike (.table one) (.table other)) (name : String) :
    (Table.get? one name).bind read = (Table.get? other name).bind read := by
  have held := alike.get? name
  generalize Table.get? one name = left at held ⊢
  generalize Table.get? other name = right at held ⊢
  cases held with
  | none => rfl
  | some values => exact reads values

theorem toBool?_alike {one other : Value} (alike : Alike one other) :
    one.toBool? = other.toBool? :=
  Value.read_alike (fun _ => rfl) alike

theorem toText?_alike {one other : Value} (alike : Alike one other) :
    one.toText? = other.toText? :=
  Value.read_alike (fun _ => rfl) alike

theorem decodeTrie?_alike {one other : Value} (alike : Alike one other) :
    decodeTrie? .converting one = decodeTrie? .converting other := by
  cases alike with
  | refl => rfl
  | @table one other length names below =>
      have alike : Alike (.table one) (.table other) := .table length names below
      have limit : Value.optional? Value.toNat? ((Table.get? one "max_key_len").getD .null) =
          Value.optional? Value.toNat? ((Table.get? other "max_key_len").getD .null) :=
        Value.read_alike (fun _ => rfl) (Alike.getD (alike.get? "max_key_len"))
      rw [decodeTrie?_table, decodeTrie?_table]
      simp only [trieOf?, Field.name, limit, bind_get?_alike toBool?_alike alike,
        bind_get?_alike Value.toDispatch?_alike alike]

theorem decodeLog?_alike {one other : Value} (alike : Alike one other) :
    decodeLog? .converting one = decodeLog? .converting other := by
  cases alike with
  | refl => rfl
  | @table one other length names below =>
      have alike : Alike (.table one) (.table other) := .table length names below
      rw [decodeLog?_table, decodeLog?_table]
      simp only [logOf?, Field.name, bind_get?_alike toBool?_alike alike,
        bind_get?_alike toText?_alike alike]

theorem decode?_alike {one other : Value} (alike : Alike one other) :
    decode? .converting one = decode? .converting other := by
  have trie := bind_get?_alike decodeTrie?_alike alike.entries "trie"
  have log := bind_get?_alike decodeLog?_alike alike.entries "log"
  simp only [decode?, Option.bind_eq_bind, ← Option.bind_assoc, trie, log]

/-- What stands under the path of a setting after a value has been laid along names. -/
def alter (value : Value) (path : List String) (field : Field) (old : Option Value) :
    Option Value :=
  match path with
  | [] => none
  | [part] => if part = field.part then none else old
  | part :: name :: rest =>
    if part = field.part ∧ name = field.name then some (Value.along value rest old) else old

theorem valueAt_along {value : Value} (solid : value.isTable = false) (path : List String)
    (document : Value) (field : Field) :
    valueAt (Value.along value path (some document)) field =
      alter value path field (valueAt document field) := by
  unfold valueAt
  match path with
  | [] =>
      rw [Value.along, Value.overlay_of_not_table solid, Value.entries_of_not_table solid]
      rfl
  | [part] =>
      simp only [Value.along, Value.entries_table, Table.get?_set, Option.getD_some,
        Value.overlay_of_not_table solid, alter]
      by_cases same : part = field.part
      · simp [same, Value.entries_of_not_table solid, Table.get?]
      · simp [same]
  | part :: name :: rest =>
      have below (asked : String) :
          Table.get? ((Table.get? document.entries field.part).getD .null).entries asked =
            (Table.get? document.entries field.part).bind fun part =>
              Table.get? part.entries asked := by
        cases Table.get? document.entries field.part <;> rfl
      simp only [Value.along, Value.entries_table, Table.get?_set, Option.getD_some, alter]
      by_cases same : part = field.part
      · simp only [same, if_true, Option.bind_some, Value.entries_table, Table.get?_set, below,
          true_and]
        split
        · rename_i named
          rw [named]
        · rfl
      · simp only [same, if_false, false_and]

theorem unlisted_along {value : Value} (solid : value.isTable = false)
    (noList : ∀ items, value ≠ .list items) {path : List String} (filled : path ≠ [])
    {document : Value} (unlisted : Unlisted document) :
    Unlisted (Value.along value path (some document)) := by
  intro part member items
  obtain ⟨first, rest, rfl⟩ := List.exists_cons_of_ne_nil filled
  simp only [Value.along, Value.entries_table, Table.get?_set, Option.getD_some]
  split
  · cases rest with
    | nil => simpa [Value.along, Value.overlay_of_not_table solid] using noList items
    | cons next rest => simp [Value.along]
  · exact unlisted part member items

end Settings

end RadixForest
