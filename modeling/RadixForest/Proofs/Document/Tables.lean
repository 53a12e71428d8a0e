import RadixForest.Document.Place

/-!
Tables of a document by what their names hold, after an entry is set and after one table is laid
over another. Equality of values is decided.
-/

namespace RadixForest.Document

namespace Value

mutual

def same : Value → Value → Bool
  | .null, .null => true
  | .bool b, .bool b' => b == b'
  | .int n, .int n' => n == n'
  | .float x, .float x' => x == x'
  | .text s, .text s' => s == s'
  | .list items, .list items' => sameItems items items'
  | .table entries, .table entries' => sameEntries entries entries'
  | _, _ => false

def sameItems : List Value → List Value → Bool
  | [], [] => true
  | item :: rest, item' :: rest' => same item item' && sameItems rest rest'
  | _, _ => false

def sameEntries : List (String × Value) → List (String × Value) → Bool
  | [], [] => true
  | (name, value) :: rest, (name', value') :: rest' =>
    name == name' && same value value' && sameEntries rest rest'
  | _, _ => false

end

mutual

theorem same_iff (value other : Value) : same value other ↔ value = other := by
  cases value with
  | list items => cases other <;> simp [same, sameItems_iff items]
  | table entries => cases other <;> simp [same, sameEntries_iff entries]
  | _ => cases other <;> simp [same]

theorem sameItems_iff (items others : List Value) : sameItems items others ↔ items = others := by
  cases items with
  | nil => cases others <;> simp [sameItems]
  | cons item rest => cases others <;> simp [sameItems, same_iff item, sameItems_iff rest]

theorem sameEntries_iff (entries others : List (String × Value)) :
    sameEntries entries others ↔ entries = others := by
  cases entries with
  | nil => cases others <;> simp [sameEntries]
  | cons entry rest =>
      obtain ⟨name, value⟩ := entry
      cases others with
      | nil => simp [sameEntries]
      | cons other rest' =>
          obtain ⟨name', value'⟩ := other
          simp [sameEntries, same_iff value, sameEntries_iff rest]

end

instance : DecidableEq Value := fun value other => decidable_of_iff _ (same_iff value other)

end Value

namespace Table

theorem get?_cons (name : String) (value : Value) (rest : Table) (other : String) :
    get? ((name, value) :: rest) other = if name = other then some value else get? rest other := by
  unfold get?
  by_cases same : name = other
  · simp [same]
  · simp [same]

theorem get?_eq_none_iff (table : Table) (name : String) :
    get? table name = none ↔ name ∉ table.map (·.1) := by
  induction table with
  | nil => simp [get?]
  | cons entry rest ih =>
      obtain ⟨first, value⟩ := entry
      rw [get?_cons, List.map_cons, List.mem_cons, not_or, ← ih]
      by_cases same : first = name
      · simp [same]
      · simp [same, Ne.symm same]

theorem get?_set (table : Table) (name : String) (value : Value) (other : String) :
    get? (set table name value) other = if name = other then some value else get? table other := by
  induction table with
  | nil => rw [set, get?_cons]
  | cons entry rest ih =>
      obtain ⟨first, held⟩ := entry
      by_cases here : first = name
      · subst here
        simp only [set, beq_self_eq_true, if_true, get?_cons]
        split <;> rfl
      · have other_first : (first == name) = false := by simpa using here
        simp only [set, other_first, Bool.false_eq_true, if_false, get?_cons, ih]
        by_cases same : first = other
        · subst same
          simp [Ne.symm here]
        · simp [same]

theorem length_set (table : Table) (name : String) (value : Value) :
    (set table name value).length =
      if (get? table name).isSome then table.length else table.length + 1 := by
  induction table with
  | nil => rfl
  | cons entry rest ih =>
      obtain ⟨first, held⟩ := entry
      by_cases here : first = name
      · simp [set, here, get?_cons]
      · have other_first : (first == name) = false := by simpa using here
        simp only [set, other_first, Bool.false_eq_true, if_false, List.length_cons, ih, get?_cons,
          here]
        split <;> rfl

theorem set_of_not_mem {table : Table} {name : String} (absent : name ∉ table.map (·.1))
    (value : Value) : set table name value = table ++ [(name, value)] := by
  induction table with
  | nil => rfl
  | cons entry rest ih =>
      simp only [List.map_cons, List.mem_cons, not_or] at absent
      have other_first : (entry.1 == name) = false := by simpa using Ne.symm absent.1
      simp [set, other_first, ih absent.2]

theorem mem_set {table : Table} {name : String} {value : Value} {entry : String × Value}
    (member : entry ∈ set table name value) : entry = (name, value) ∨ entry ∈ table := by
  induction table with
  | nil => simpa [set] using member
  | cons first rest ih =>
      unfold set at member
      split at member
      · rcases List.mem_cons.mp member with here | later
        · exact .inl here
        · exact .inr (List.mem_cons_of_mem _ later)
      · rcases List.mem_cons.mp member with here | later
        · exact .inr (here ▸ List.mem_cons_self)
        · exact (ih later).imp_right (List.mem_cons_of_mem _)

theorem nodup_set {table : Table} (distinct : (table.map (·.1)).Nodup) (name : String)
    (value : Value) : ((set table name value).map (·.1)).Nodup := by
  induction table with
  | nil => simp [set]
  | cons entry rest ih =>
      obtain ⟨fresh, later⟩ := List.nodup_cons.mp distinct
      unfold set
      split
      · rename_i same
        rw [beq_iff_eq] at same
        exact List.nodup_cons.mpr ⟨by simpa [← same] using fresh, later⟩
      · rename_i other
        refine List.nodup_cons.mpr ⟨?_, ih later⟩
        intro member
        have held := mt (get?_eq_none_iff (set rest name value) entry.1).mp (not_not_intro member)
        rw [get?_set] at held
        split at held
        · rename_i same
          simp [same] at other
        · exact held ((get?_eq_none_iff rest entry.1).mpr fresh)

end Table

namespace Value

def isTable : Value → Bool
  | .table _ => true
  | _ => false

@[simp]
theorem entries_table (entries : Table) : (Value.table entries).entries = entries := rfl

theorem overlay_of_not_table {value : Value} (solid : value.isTable = false)
    (existing : Option Value) : overlay existing value = value := by
  cases value with
  | table entries => simp [isTable] at solid
  | _ => simp [overlay]

theorem entries_of_not_table {value : Value} (solid : value.isTable = false) :
    value.entries = [] := by
  cases value with
  | table entries => simp [isTable] at solid
  | _ => rfl

theorem overlayEntries_table (under incoming : Table) :
    ∃ entries, overlayEntries (.table under) incoming = .table entries := by
  induction incoming generalizing under with
  | nil => exact ⟨under, by rw [overlayEntries]⟩
  | cons entry rest ih =>
      rw [overlayEntries]
      exact ih _

/-- Each name of a table that is laid over another meets what the other holds under it. -/
theorem get?_overlayEntries (target : Value) {incoming : Table}
    (distinct : (incoming.map (·.1)).Nodup) (name : String) :
    Table.get? (overlayEntries target incoming).entries name =
      match Table.get? incoming name with
      | some value => some (overlay (Table.get? target.entries name) value)
      | none => Table.get? target.entries name := by
  induction incoming generalizing target with
  | nil => rw [overlayEntries]; rfl
  | cons entry rest ih =>
      obtain ⟨first, value⟩ := entry
      obtain ⟨fresh, later⟩ := List.nodup_cons.mp distinct
      rw [overlayEntries, ih _ later, Table.get?_cons]
      by_cases same : first = name
      · subst same
        have absent := (Table.get?_eq_none_iff rest first).mpr fresh
        simp [absent, Table.get?_set]
      · simp [Table.get?_set, same]

end Value

end RadixForest.Document
