import Mathlib.Data.List.TakeDrop
import RadixForest.Proofs.Document.Clear
import RadixForest.Settings.Load

/-!
Tables that headers open and pairs fill. A TOML document that gives a name twice is refused, so no
name stands twice in the tables that are read, and that holds of all formats then.
-/

namespace RadixForest.Document

namespace Toml

def Tree.Simple (tree : Tree) : Prop := ∀ value, tree = .plain value → value.entries = []

theorem Tree.simple_table (dotted : Bool) (entries : Tree.Entries) :
    (Tree.table dotted entries).Simple := by
  rintro _ ⟨⟩

theorem numberTree_simple (number : Number) : (numberTree number).Simple := by
  cases number with
  | int n =>
      rintro _ ⟨⟩
      rfl
  | float x =>
      rintro _ ⟨⟩
      rfl

theorem wordValue?_simple {word text rest : List Char} {tree : Tree}
    (read : wordValue? word text = some (tree, rest)) : tree.Simple := by
  have number {word text : List Char}
      (read : (number? word text).map (fun found => (numberTree found.1, found.2)) =
        some (tree, rest)) : tree.Simple := by
    obtain ⟨found, _, same⟩ := Option.map_eq_some_iff.mp read
    cases same
    exact numberTree_simple found.1
  unfold wordValue? at read
  split at read
  · cases read
    rintro _ ⟨⟩
    rfl
  split at read
  · cases read
    rintro _ ⟨⟩
    rfl
  simp only [] at read
  split at read
  · split at read
    · obtain ⟨_, _, same⟩ := Option.map_eq_some_iff.mp read
      cases same
      rintro _ ⟨⟩
    · exact number read
  · cases read

theorem value?_simple {fuel : Nat} {text rest : List Char} {tree : Tree}
    (read : value? fuel text = some (tree, rest)) : tree.Simple := by
  unfold value? at read
  split at read
  · cases read
  · cases read
  split at read
  · obtain ⟨_, _, same⟩ := Option.map_eq_some_iff.mp read
    cases same
    rintro _ ⟨⟩
    rfl
  split at read
  · simp only [Option.bind_eq_bind, Option.bind_eq_some_iff] at read
    obtain ⟨_, _, _, _, same⟩ := read
    cases same
    rintro _ ⟨⟩
  split at read
  · split at read
    · cases read
      exact Tree.simple_table _ _
    · simp only [Option.bind_eq_bind, Option.bind_eq_some_iff] at read
      obtain ⟨_, _, same⟩ := read
      cases same
      exact Tree.simple_table _ _
  split at read
  · split at read
    · cases read
    · obtain ⟨found, _, same⟩ := Option.map_eq_some_iff.mp read
      cases same
      exact numberTree_simple found.1
  · split at read
    · cases read
    · exact wordValue?_simple read

namespace Tree

theorem mem_set {name : String} {tree : Tree} {entries : Entries} {entry : String × Tree}
    (member : entry ∈ set name tree entries) : entry = (name, tree) ∨ entry ∈ entries := by
  induction entries with
  | nil => cases member
  | cons first rest ih =>
      unfold set at member
      split at member
      · rcases List.mem_cons.mp member with here | later
        · exact .inl here
        · exact .inr (List.mem_cons_of_mem _ later)
      · rcases List.mem_cons.mp member with here | later
        · exact .inr (here ▸ List.mem_cons_self)
        · exact (ih later).imp_right (List.mem_cons_of_mem _)

theorem add?_simple {path : List String} {tree : Tree} {entries result : Entries}
    (added : add? path tree entries = some result) (simple : tree.Simple)
    (before : ∀ entry ∈ entries, entry.2.Simple) : ∀ entry ∈ result, entry.2.Simple := by
  intro entry member
  unfold add? at added
  split at added
  · cases added
  · cases added
    rcases List.mem_append.mp member with old | new
    · exact before entry old
    · cases List.mem_singleton.mp new
      exact simple
  · split at added
    · obtain ⟨below, _, rfl⟩ := Option.map_eq_some_iff.mp added
      rcases List.mem_append.mp member with old | new
      · exact before entry old
      · cases List.mem_singleton.mp new
        exact simple_table _ _
    · obtain ⟨below, _, rfl⟩ := Option.map_eq_some_iff.mp added
      rcases mem_set member with rfl | old
      · exact simple_table _ _
      · exact before entry old
    · cases added

theorem entries?_single {kind : Value → Prop} {pairs : Entries} {entries : Table}
    (read : entries? pairs = some entries)
    (values : ∀ entry ∈ pairs, ∀ value, entry.2.value? = some value → kind value) :
    Single kind entries ∧ entries.map (·.1) = pairs.map (·.1) := by
  induction pairs generalizing entries with
  | nil =>
      rw [entries?] at read
      cases read
      exact ⟨Single.nil, rfl⟩
  | cons pair rest ih =>
      obtain ⟨name, tree⟩ := pair
      rw [entries?] at read
      split at read
      · cases read
      rename_i fresh
      split at read
      case h_2 => cases read
      rename_i value entries' held later
      cases read
      obtain ⟨single, names⟩ :=
        ih later fun entry member => values entry (List.mem_cons_of_mem _ member)
      refine ⟨⟨?_, ?_⟩, by simp [names]⟩
      · rw [List.map_cons, List.nodup_cons, names]
        refine ⟨fun member => fresh ?_, names ▸ single.names⟩
        obtain ⟨entry, among, same⟩ := List.mem_map.mp member
        rw [find?, Option.isSome_map, List.find?_isSome]
        exact ⟨entry, among, by simpa using same⟩
      · intro entry member
        rcases List.mem_cons.mp member with rfl | among
        · exact values _ List.mem_cons_self value held
        · exact single.values entry among

theorem dateValue?_entries {written : List Char} {value : Value}
    (read : dateValue? written = some value) : value.entries = [] := by
  obtain ⟨_, _, rfl⟩ := Option.map_eq_some_iff.mp read
  rfl

theorem asDate?_entries {entries : Entries} {value : Value}
    (read : asDate? entries = some (some value)) : value.entries = [] := by
  unfold asDate? at read
  split at read
  · split at read
    · split at read
      · exact dateValue?_entries (Option.some.inj read)
      · cases read
    · cases read
  · cases read

theorem value?_neat {tree : Tree} {value : Value} (simple : tree.Simple)
    (read : tree.value? = some value) : value.Neat := by
  have empty (none : value.entries = []) : value.Neat := by
    rw [Value.Neat, none]
    exact Single.nil
  cases tree with
  | plain held =>
      rw [value?] at read
      cases read
      exact empty (simple value rfl)
  | date written =>
      rw [value?] at read
      exact empty (dateValue?_entries read)
  | list items =>
      rw [value?] at read
      obtain ⟨_, _, rfl⟩ := Option.map_eq_some_iff.mp read
      exact empty rfl
  | table dotted entries =>
      rw [value?] at read
      split at read
      · rename_i held date
        subst read
        exact empty (asDate?_entries date)
      · obtain ⟨_, found, rfl⟩ := Option.map_eq_some_iff.mp read
        exact (entries?_single found fun _ _ _ _ => trivial).1

end Tree

namespace Outline

abbrev Singly (kind : Value → Prop) (entries : Entries) : Prop :=
  Single (fun outline => kind (value outline)) entries

theorem values_eq (entries : Entries) :
    values entries = entries.map fun entry => (entry.1, value entry.2) := by
  induction entries with
  | nil => rw [values]; rfl
  | cons entry rest ih =>
      rw [values, ih]
      rfl

theorem values_single {kind : Value → Prop} {entries : Entries} (singly : Singly kind entries) :
    Single kind (values entries) := by
  rw [values_eq]
  constructor
  · rw [List.map_map]
    exact singly.names
  · intro entry member
    obtain ⟨outline, among, rfl⟩ := List.mem_map.mp member
    exact singly.values outline among

theorem find?_eq_none_iff (entries : Entries) (name : String) :
    find? entries name = none ↔ ∀ entry ∈ entries, entry.1 ≠ name := by
  simp [find?]

theorem mem_of_find? {entries : Entries} {name : String} {outline : Outline}
    (found : find? entries name = some outline) : ∃ entry ∈ entries, entry.2 = outline := by
  obtain ⟨entry, first, rfl⟩ := Option.map_eq_some_iff.mp found
  exact ⟨entry, List.mem_of_find?_eq_some first, rfl⟩

theorem singly_append {kind : Value → Prop} {entries : Entries} (singly : Singly kind entries)
    {name : String} (fresh : find? entries name = none) {outline : Outline}
    (held : kind (value outline)) : Singly kind (entries ++ [(name, outline)]) := by
  refine Single.append singly ⟨by simp, by simpa using held⟩ ?_
  intro entry member other member'
  cases List.mem_singleton.mp member'
  exact (find?_eq_none_iff entries name).mp fresh entry member

theorem singly_set {kind : Value → Prop} {entries : Entries} (singly : Singly kind entries)
    {name : String} (there : (find? entries name).isSome) {outline : Outline}
    (held : kind (value outline)) : Singly kind (set entries name outline) := by
  obtain ⟨found, here⟩ := Option.isSome_iff_exists.mp there
  simp only [set, here]
  constructor
  · rw [List.map_map]
    have names : entries.map ((·.1) ∘ fun entry : String × Outline =>
        if entry.1 == name then (name, outline) else entry) = entries.map (·.1) := by
      refine List.map_congr_left fun entry _ => ?_
      by_cases same : entry.1 = name
      · simp [same]
      · simp [same]
    exact names ▸ singly.names
  · intro entry member
    obtain ⟨old, among, rfl⟩ := List.mem_map.mp member
    split
    · exact held
    · exact singly.values old among

theorem fill?_singly {kind : Value → Prop} {pairs : Tree.Entries} {entries result : Entries}
    (filled : fill? pairs entries = some result)
    (values : ∀ entry ∈ pairs, ∀ value, entry.2.value? = some value → kind value)
    (singly : Singly kind entries) : Singly kind result := by
  unfold fill? at filled
  split at filled
  · cases filled
  rename_i table read
  split at filled
  · cases filled
  rename_i free
  cases filled
  obtain ⟨single, _⟩ := Tree.entries?_single read values
  refine Single.append singly ⟨?_, ?_⟩ ?_
  · rw [List.map_map]
    exact single.names
  · intro entry member
    obtain ⟨pair, among, rfl⟩ := List.mem_map.mp member
    simpa [value] using single.values pair among
  · intro entry member other member' same
    obtain ⟨pair, among, rfl⟩ := List.mem_map.mp member'
    refine free (List.any_eq_true.mpr ⟨pair, among, ?_⟩)
    rw [find?, Option.isSome_map, List.find?_isSome]
    exact ⟨entry, member, by simpa using same⟩

theorem ofPairs?_cases {pairs : Tree.Entries} {outline : Outline}
    (made : ofPairs? pairs = some outline) :
    (value outline).entries = [] ∨
      ∃ below, fill? pairs [] = some below ∧ outline = .table true below := by
  unfold ofPairs? at made
  split at made
  · rename_i date held
    obtain ⟨text, rfl, rfl⟩ := Option.map_eq_some_iff.mp made
    refine .inl ?_
    rw [value]
    exact Tree.asDate?_entries held
  · obtain ⟨below, filled, rfl⟩ := Option.map_eq_some_iff.mp made
    exact .inr ⟨below, filled, rfl⟩

theorem make?_eq {entries result : Entries} {name : String} {outline : Outline}
    (made : make? entries name outline = some result) : result = entries ++ [(name, outline)] := by
  unfold make? at made
  split at made
  · cases made
  · cases made
    rfl

/-- A header changes what stands under the first name of its path, or adds it. -/
theorem open?_cons {isItem : Bool} {pairs : Tree.Entries} {name : String} {path : List String}
    {entries result : Entries} (opened : open? isItem pairs (name :: path) entries = some result) :
    ∃ outline,
      (find? entries name = none ∧ result = entries ++ [(name, outline)] ∨
        (find? entries name).isSome ∧ result = set entries name outline) ∧
      ((value outline).entries = [] ∨
        ∃ was now under below steps, outline = .table now below ∧
          (under = [] ∨ find? entries name = some (.table was under)) ∧
          open? isItem pairs steps under = some below) := by
  have tables (items : List Outline) : (value (.tables items)).entries = [] := by
    rw [value]
    rfl
  cases path with
  | nil =>
      unfold open? at opened
      split at opened
      · rename_i fresh
        obtain ⟨outline, new, made⟩ := Option.bind_eq_some_iff.mp opened
        refine ⟨outline, .inl ⟨fresh, make?_eq made⟩, ?_⟩
        refine (ofPairs?_cases new).imp_right fun ⟨below, filled, same⟩ => ?_
        exact ⟨true, true, [], below, [], same, .inl rfl, filled⟩
      · rename_i under found
        obtain ⟨below, filled, rfl⟩ := Option.map_eq_some_iff.mp opened
        refine ⟨_, .inr ⟨found ▸ rfl, rfl⟩, .inr ?_⟩
        exact ⟨false, true, under, below, [], rfl, .inr found, filled⟩
      · rename_i fresh
        obtain ⟨outline, _, made⟩ := Option.bind_eq_some_iff.mp opened
        exact ⟨_, .inl ⟨fresh, make?_eq made⟩, .inl (tables _)⟩
      · rename_i items found
        obtain ⟨outline, _, rfl⟩ := Option.map_eq_some_iff.mp opened
        exact ⟨_, .inr ⟨found ▸ rfl, rfl⟩, .inl (tables _)⟩
      · cases opened
  | cons next rest =>
      unfold open? at opened
      split at opened
      · rename_i fresh
        obtain ⟨below, deeper, made⟩ := Option.bind_eq_some_iff.mp opened
        refine ⟨_, .inl ⟨fresh, make?_eq made⟩, .inr ?_⟩
        exact ⟨false, false, [], below, _, rfl, .inl rfl, deeper⟩
      · rename_i was under found
        obtain ⟨below, deeper, rfl⟩ := Option.map_eq_some_iff.mp opened
        refine ⟨_, .inr ⟨found ▸ rfl, rfl⟩, .inr ?_⟩
        exact ⟨was, was, under, below, _, rfl, .inr found, deeper⟩
      · rename_i found
        obtain ⟨last, _, rfl⟩ := Option.map_eq_some_iff.mp opened
        exact ⟨_, .inr ⟨found ▸ rfl, rfl⟩, .inl (tables _)⟩
      · cases opened

theorem open?_names {isItem : Bool} {pairs : Tree.Entries} {path : List String}
    {entries result : Entries} (opened : open? isItem pairs path entries = some result)
    (singly : Singly (fun _ => True) entries) : Singly (fun _ => True) result := by
  cases path with
  | nil => exact fill?_singly opened (fun _ _ _ _ => trivial) singly
  | cons name rest =>
      obtain ⟨outline, ⟨fresh, rfl⟩ | ⟨there, rfl⟩, _⟩ := open?_cons opened
      · exact singly_append singly fresh trivial
      · exact singly_set singly there trivial

theorem open?_neat {isItem : Bool} {pairs : Tree.Entries} {path : List String}
    {entries result : Entries} (opened : open? isItem pairs path entries = some result)
    (simple : ∀ entry ∈ pairs, entry.2.Simple) (singly : Singly Value.Neat entries) :
    Singly Value.Neat result := by
  cases path with
  | nil =>
      exact fill?_singly opened
        (fun entry member value held => Tree.value?_neat (simple entry member) held) singly
  | cons name rest =>
      obtain ⟨outline, change, held⟩ := open?_cons opened
      have neat : (value outline).Neat := by
        rcases held with empty | ⟨was, now, under, below, steps, rfl, before, opened⟩
        · rw [Value.Neat, empty]
          exact Single.nil
        · have under_single : Singly (fun _ => True) under := by
            rcases before with rfl | found
            · exact Single.nil
            · obtain ⟨entry, among, same⟩ := mem_of_find? found
              have held := singly.values entry among
              rw [same, value, Value.Neat, Value.entries_table, values_eq] at held
              refine ⟨?_, fun _ _ => trivial⟩
              simpa [Function.comp_def] using held.names
          have := values_single (open?_names opened under_single)
          rw [value]
          exact this
      rcases change with ⟨fresh, rfl⟩ | ⟨there, rfl⟩
      · exact singly_append singly fresh neat
      · exact singly_set singly there neat

end Outline

theorem sections?_simple {current : Section} {lines : List Line} {sections : List Section}
    (gathered : sections? current lines = some sections)
    (values : ∀ key tree, .pair key tree ∈ lines → tree.Simple)
    (before : ∀ entry ∈ current.pairs, entry.2.Simple) :
    ∀ part ∈ sections, ∀ entry ∈ part.pairs, entry.2.Simple := by
  induction lines generalizing current sections with
  | nil =>
      cases gathered
      simpa using before
  | cons line rest ih =>
      have later (key : List String) (tree : Tree) (member : Line.pair key tree ∈ rest) :
          tree.Simple := values key tree (List.mem_cons_of_mem _ member)
      cases line with
      | pair key tree =>
          obtain ⟨pairs, added, gathered⟩ := Option.bind_eq_some_iff.mp gathered
          have simple := values key tree List.mem_cons_self
          exact ih gathered later (Tree.add?_simple added simple before)
      | header path isItem =>
          obtain ⟨others, gathered', rfl⟩ := Option.map_eq_some_iff.mp gathered
          intro part member
          rcases List.mem_cons.mp member with rfl | among
          · exact before
          · exact ih gathered' later (by simp) part among

theorem line?_simple {text rest : List Char} {key : List String} {tree : Tree}
    (read : line? text = some (.pair key tree, rest)) : tree.Simple := by
  have header {isItem : Bool} {text : List Char}
      (read : header? isItem text = some (.pair key tree, rest)) : tree.Simple := by
    simp only [header?, Option.bind_eq_bind, Option.bind_eq_some_iff] at read
    obtain ⟨_, _, read⟩ := read
    split at read
    · obtain ⟨_, _, _, _, same⟩ := by simpa only [Option.bind_eq_some_iff] using read
      cases same
    · obtain ⟨_, _, _, _, same⟩ := by simpa only [Option.bind_eq_some_iff] using read
      cases same
    · cases read
  unfold line? at read
  split at read
  · exact header read
  · exact header read
  · unfold pair? at read
    simp only [Option.bind_eq_bind, Option.bind_eq_some_iff] at read
    obtain ⟨⟨key, behind⟩, _, read⟩ := read
    split at read
    · simp only [Option.bind_eq_some_iff] at read
      obtain ⟨⟨value, behind⟩, held, _, _, same⟩ := read
      cases same
      exact value?_simple held
    · cases read

theorem lines?_simple {fuel : Nat} {text : List Char} {lines : List Line}
    (read : lines? fuel text = some lines) {key : List String} {tree : Tree}
    (member : .pair key tree ∈ lines) : tree.Simple := by
  induction fuel generalizing text lines with
  | zero => cases read
  | succ fuel ih =>
      unfold lines? at read
      split at read
      · cases read
      · cases read
        cases member
      · split at read
        · rename_i line rest found
          obtain ⟨later, others, rfl⟩ := Option.map_eq_some_iff.mp read
          rcases List.mem_cons.mp member with rfl | among
          · exact line?_simple found
          · exact ih others among
        · cases read

theorem mem_of_mem_handOver {fuel : Nat} {sections : List Section} {part : Section}
    (member : part ∈ handOver fuel sections) : part ∈ sections := by
  induction fuel generalizing sections with
  | zero => exact member
  | succ fuel ih =>
      cases sections with
      | nil => exact member
      | cons first rest =>
          have step (member : part ∈ first :: handOver fuel rest) : part ∈ first :: rest := by
            rcases List.mem_cons.mp member with rfl | among
            · exact List.mem_cons_self
            · exact List.mem_cons_of_mem _ (ih among)
          unfold handOver at member
          split at member
          · split at member
            · rename_i between next later spans
              rw [List.span_eq_takeWhile_dropWhile, Prod.mk.injEq] at spans
              have whole : rest = between ++ next :: later := by
                rw [← spans.1, ← spans.2, List.takeWhile_append_dropWhile]
              split at member
              · rw [List.partition_eq_filter_filter] at member
                rcases List.mem_cons.mp member with rfl | among
                · exact List.mem_cons_self
                · have among := ih among
                  simp only [List.mem_append, List.mem_cons, List.mem_filter] at among
                  rw [whole]
                  simp only [List.mem_append, List.mem_cons]
                  rcases among with (⟨among, _⟩ | rfl | ⟨among, _⟩) | among
                  · exact .inr (.inl among)
                  · exact .inr (.inr (.inl rfl))
                  · exact .inr (.inl among)
                  · exact .inr (.inr (.inr among))
              · exact step member
            · exact step member
          · exact step member

theorem foldlM_open?_neat {sections : List Section} {entries result : Outline.Entries}
    (opened : sections.foldlM (fun entries part =>
      Outline.open? part.isItem part.pairs part.path entries) entries = some result)
    (simple : ∀ part ∈ sections, ∀ entry ∈ part.pairs, entry.2.Simple)
    (singly : Outline.Singly Value.Neat entries) : Outline.Singly Value.Neat result := by
  induction sections generalizing entries with
  | nil =>
      cases opened
      exact singly
  | cons part rest ih =>
      rw [List.foldlM_cons] at opened
      obtain ⟨next, first, later⟩ := Option.bind_eq_some_iff.mp opened
      exact ih later (fun part member => simple part (List.mem_cons_of_mem _ member))
        (Outline.open?_neat first (simple part List.mem_cons_self) singly)

theorem read?_clear {text : List Char} {entries : Table} (read : read? text = some entries) :
    Clear entries := by
  simp only [read?] at read
  obtain ⟨lines, found, assembled⟩ := Option.bind_eq_some_iff.mp read
  simp only [assemble?, Option.bind_eq_bind] at assembled
  obtain ⟨sections, gathered, assembled⟩ := Option.bind_eq_some_iff.mp assembled
  split at assembled
  · obtain ⟨_, _, rfl⟩ := Option.map_eq_some_iff.mp assembled
    exact Single.nil
  · obtain ⟨outlines, opened, same⟩ := Option.bind_eq_some_iff.mp assembled
    cases same
    refine Outline.values_single (foldlM_open?_neat opened (fun part member => ?_) Single.nil)
    exact sections?_simple gathered (fun _ _ => lines?_simple found) (by simp) part
      (mem_of_mem_handOver member)

end Toml

end RadixForest.Document

namespace RadixForest.Settings

open Document

theorem Format.read?_clear {format : Format} {text : String} {entries : Table}
    (read : format.read? text = some entries) : Clear entries := by
  cases format with
  | toml => exact Toml.read?_clear read
  | json =>
      obtain ⟨_, found, rfl⟩ := Option.map_eq_some_iff.mp read
      exact Json.read?_clear found
  | yaml =>
      obtain ⟨_, found, rfl⟩ := Option.map_eq_some_iff.mp read
      exact Yaml.read?_clear found

end RadixForest.Settings
