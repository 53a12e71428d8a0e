import RadixForest.Proofs.Document.Tables
import RadixForest.Document.Json.Reader
import RadixForest.Document.Yaml.Node

/-!
Tables in which no name stands twice, and the readers that give them, however often a name is
written: of JSON, where the last entry of a name counts, and of YAML, where the earlier ones are
left out.
-/

namespace RadixForest.Document

/-- No name stands twice, and all values are of one kind. -/
structure Single {α : Type} (kind : α → Prop) (entries : List (String × α)) : Prop where
  names : (entries.map (·.1)).Nodup
  values : ∀ entry ∈ entries, kind entry.2

namespace Single

theorem nil {α : Type} {kind : α → Prop} : Single kind [] := ⟨List.nodup_nil, by simp⟩

theorem set {kind : Value → Prop} {entries : Table} (single : Single kind entries) (name : String)
    {value : Value} (held : kind value) : Single kind (Table.set entries name value) := by
  refine ⟨Table.nodup_set single.names name value, fun entry member => ?_⟩
  rcases Table.mem_set member with rfl | old
  · exact held
  · exact single.values entry old

theorem append {α : Type} {kind : α → Prop} {entries later : List (String × α)}
    (single : Single kind entries) (after : Single kind later)
    (apart : ∀ entry ∈ entries, ∀ other ∈ later, entry.1 ≠ other.1) :
    Single kind (entries ++ later) := by
  constructor
  · rw [List.map_append, List.nodup_append]
    refine ⟨single.names, after.names, ?_⟩
    simpa using apart
  · intro entry member
    rcases List.mem_append.mp member with old | new
    · exact single.values entry old
    · exact after.values entry new

end Single

def Value.Neat (value : Value) : Prop := Single (fun _ : Value => True) value.entries

/-- No name stands twice in a table, nor in the tables that stand right in it. -/
def Clear (entries : Table) : Prop := Single Value.Neat entries

theorem Clear.below {entries : Table} (clear : Clear entries) {name : String} {value : Value}
    (held : Table.get? entries name = some value) : (value.entries.map (·.1)).Nodup := by
  unfold Table.get? at held
  obtain ⟨entry, found, rfl⟩ := Option.map_eq_some_iff.mp held
  exact (clear.values entry (List.mem_of_find?_eq_some found)).names

namespace Json

theorem entries?_single {kind : Value → Prop} {room : Nat}
    (values : ∀ {fuel text value rest}, value? fuel room text = some (value, rest) → kind value)
    {fuel : Nat} {text rest : List Char} {entries result : Table}
    (read : entries? fuel room entries text = some (result, rest)) (single : Single kind entries) :
    Single kind result := by
  induction fuel generalizing entries text with
  | zero => simp [entries?] at read
  | succ fuel ih =>
      unfold entries? at read
      split at read
      case h_2 => cases read
      simp only [Option.bind_eq_bind, Option.bind_eq_some_iff] at read
      obtain ⟨⟨name, behind⟩, _, read⟩ := read
      split at read
      case h_2 => cases read
      simp only [Option.bind_eq_some_iff] at read
      obtain ⟨⟨value, later⟩, held, read⟩ := read
      have more := single.set (String.ofList name) (values held)
      split at read
      · exact ih read more
      · cases read
        exact more
      · cases read

theorem fraction?_entries {negative : Bool} {whole after text rest : List Char} {value : Value}
    (read : fraction? negative whole after text = some (value, rest)) : value.entries = [] := by
  unfold fraction? at read
  simp only [] at read
  split at read
  · obtain ⟨number, parts, found⟩ := Option.map_eq_some_iff.mp read
    obtain ⟨x, _, rfl⟩ := Option.map_eq_some_iff.mp parts
    cases found
    rfl
  · cases read

theorem unsigned?_entries {negative : Bool} {text rest : List Char} {value : Value}
    (read : unsigned? negative text = some (value, rest)) : value.entries = [] := by
  unfold unsigned? at read
  split at read
  · cases read
  · cases read
  · split at read
    · cases read
    · exact fraction?_entries read
  · split at read
    · exact fraction?_entries read
    · split at read
      · cases read
        rfl
      · exact fraction?_entries read

theorem number?_entries {text rest : List Char} {value : Value}
    (read : number? text = some (value, rest)) : value.entries = [] := by
  unfold number? at read
  split at read
  · exact unsigned?_entries read
  · exact unsigned?_entries read

theorem word?_entries {word : String} {given value : Value} {text rest : List Char}
    (empty : given.entries = []) (read : word? word given text = some (value, rest)) :
    value.entries = [] := by
  obtain ⟨_, _, found⟩ := Option.map_eq_some_iff.mp read
  cases found
  exact empty

theorem value?_entries {fuel room : Nat} {text rest : List Char} {value : Value}
    (read : value? fuel room text = some (value, rest)) :
    value.entries = [] ∨
      ∃ less deeper behind, entries? less deeper [] behind = some (value.entries, rest) := by
  unfold value? at read
  split at read
  · cases read
  · cases read
  split at read
  · exact .inl (word?_entries rfl read)
  split at read
  · exact .inl (word?_entries rfl read)
  split at read
  · exact .inl (word?_entries rfl read)
  split at read
  · obtain ⟨_, _, found⟩ := Option.map_eq_some_iff.mp read
    cases found
    exact .inl rfl
  split at read
  · split at read
    · cases read
    split at read
    · cases read
      exact .inl rfl
    · obtain ⟨_, _, found⟩ := Option.map_eq_some_iff.mp read
      cases found
      exact .inl rfl
  split at read
  · split at read
    · cases read
    split at read
    · cases read
      exact .inl rfl
    · obtain ⟨_, held, found⟩ := Option.map_eq_some_iff.mp read
      cases found
      exact .inr ⟨_, _, _, held⟩
  · exact .inl (number?_entries read)

theorem value?_single {kind : Value → Prop}
    (values : ∀ {fuel room text value rest},
      value? fuel room text = some (value, rest) → kind value)
    {fuel room : Nat} {text rest : List Char} {value : Value}
    (read : value? fuel room text = some (value, rest)) : Single kind value.entries := by
  rcases value?_entries read with empty | ⟨_, _, _, held⟩
  · exact empty ▸ Single.nil
  · exact entries?_single values held Single.nil

theorem read?_clear {text : List Char} {value : Value} (read : read? text = some value) :
    Clear value.entries := by
  unfold read? at read
  split at read
  · rename_i found
    split at read
    · cases read
      exact value?_single (fun below => value?_single (fun _ => trivial) below) found
    · cases read
  · cases read

end Json

namespace Yaml

theorem tableValues?_single {kind : Value → Prop}
    (values : ∀ {node : Node} {value}, node.value? = some value → kind value)
    {pairs : List (Node × Node)} {entries : Table} (read : tableValues? pairs = some entries) :
    Single kind entries ∧
      ∀ entry ∈ entries, ∃ pair ∈ pairs, pair.1.isText entry.1.toList := by
  induction pairs generalizing entries with
  | nil =>
      cases read
      exact ⟨Single.nil, by simp⟩
  | cons pair rest ih =>
      have widen {entries : Table}
          (named : ∀ entry ∈ entries, ∃ pair ∈ rest, pair.1.isText entry.1.toList) :
          ∀ entry ∈ entries, ∃ other ∈ pair :: rest, other.1.isText entry.1.toList := by
        intro entry member
        obtain ⟨other, among, same⟩ := named entry member
        exact ⟨other, List.mem_cons_of_mem _ among, same⟩
      unfold tableValues? at read
      split at read
      case h_2 => exact (ih read).imp_right widen
      rename_i spelled
      split at read
      · exact (ih read).imp_right widen
      rename_i last
      split at read
      case h_2 => cases read
      rename_i value values' held later
      cases read
      obtain ⟨single, named⟩ := ih later
      refine ⟨⟨?_, ?_⟩, ?_⟩
      · rw [List.map_cons, List.nodup_cons]
        refine ⟨fun member => ?_, single.names⟩
        obtain ⟨entry, among, same⟩ := List.mem_map.mp member
        obtain ⟨other, among', again⟩ := named entry among
        refine last (List.any_eq_true.mpr ⟨other, among', ?_⟩)
        rwa [same, String.toList_ofList] at again
      · intro entry member
        rcases List.mem_cons.mp member with rfl | among
        · exact values held
        · exact single.values entry among
      · intro entry member
        rcases List.mem_cons.mp member with rfl | among
        · exact ⟨_, List.mem_cons_self, by simp [spelled, Node.isText]⟩
        · exact widen named entry among

theorem value?_single {kind : Value → Prop}
    (values : ∀ {node : Node} {value}, node.value? = some value → kind value)
    {node : Node} {value : Value} (read : node.value? = some value) :
    Single kind value.entries := by
  cases node with
  | table pairs =>
      rw [Node.value?] at read
      obtain ⟨entries, held, rfl⟩ := Option.map_eq_some_iff.mp read
      exact (tableValues?_single values held).1
  | list items =>
      rw [Node.value?] at read
      obtain ⟨_, _, rfl⟩ := Option.map_eq_some_iff.mp read
      exact Single.nil
  | real written =>
      rw [Node.value?] at read
      obtain ⟨_, _, rfl⟩ := Option.map_eq_some_iff.mp read
      exact Single.nil
  | _ =>
      rw [Node.value?] at read
      cases read
      exact Single.nil

theorem read?_clear {text : List Char} {value : Value} (read : read? text = some value) :
    Clear value.entries := by
  unfold read? at read
  split at read
  · cases read
  split at read
  · cases read
    exact Single.nil
  · exact value?_single (fun below => value?_single (fun _ => trivial) below) read
  · cases read

end Yaml

end RadixForest.Document
