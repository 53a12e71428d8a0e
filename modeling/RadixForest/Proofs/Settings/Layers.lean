import RadixForest.Proofs.Document.Outlines
import RadixForest.Proofs.Settings.Variables

/-!
Settings in layers. Each setting has the value of the highest layer that states it, and settings
that are loaded are valid.
-/

namespace RadixForest.Settings

open Document

/-- What a layer states of the settings. It is silent on what is absent. -/
structure Stated where
  caseSensitive : Option Bool := none
  maxKeyLen : Option (Option Nat) := none
  dispatch : Option Dispatch := none
  level : Option String := none
  json : Option Bool := none
  sourceLocation : Option Bool := none

def Stated.on (stated : Stated) (below : Settings) : Settings :=
  { trie := {
      caseSensitive := stated.caseSensitive.getD below.trie.caseSensitive
      maxKeyLen := stated.maxKeyLen.getD below.trie.maxKeyLen
      dispatch := stated.dispatch.getD below.trie.dispatch }
    log := {
      level := stated.level.getD below.log.level
      json := stated.json.getD below.log.json
      sourceLocation := stated.sourceLocation.getD below.log.sourceLocation } }

structure Stated.By (stated : Stated) (value : Field → Option Value) : Prop where
  caseSensitive : (value .caseSensitive).map Value.toBool? = stated.caseSensitive.map some
  maxKeyLen :
    (value .maxKeyLen).map (Value.optional? Value.toNat?) = stated.maxKeyLen.map some
  dispatch : (value .dispatch).map Value.toDispatch? = stated.dispatch.map some
  level : (value .level).map Value.toText? = stated.level.map some
  json : (value .json).map Value.toBool? = stated.json.map some
  sourceLocation : (value .sourceLocation).map Value.toBool? = stated.sourceLocation.map some

def inFile (entries : Table) (field : Field) : Option Value :=
  (Table.get? entries field.part).bind fun part => Table.get? part.entries field.name

def inVariables (leading : String) (environment : List (String × String)) (field : Field) :
    Option Value :=
  (environment.find? fun given => isFor leading given.1 field).map fun given => entryValue given.2

inductive Loader.Finds (files : Files) : Option String → Table → Prop
  | nothing : Finds files none []
  | document {path extension text : String} {format : Format} {entries : Table} :
      Path.extension? path = some extension → Format.ofExtension? extension = some format →
      files.readText path = .ok text → format.read? text = some entries →
      Finds files (some path) entries

def placed (default : Value) (given : Option Value) : Value :=
  match given with
  | some value => Value.overlay (some default) value
  | none => default

theorem bind_placed {α : Type} {read : Value → Option α} {default : Value}
    (stable : ∀ value, (read value).isSome → read (Value.overlay (some default) value) = read value)
    {least : α} (defaults : read default = some least) {inUpper inLower : Option Value}
    {upper lower : Option α} (statesUpper : inUpper.map read = upper.map some)
    (statesLower : inLower.map read = lower.map some) :
    (inUpper.or (some (placed default inLower))).bind read =
      some (upper.getD (lower.getD least)) := by
  cases inUpper with
  | some value =>
      cases upper with
      | none => simp at statesUpper
      | some stated => simpa using statesUpper
  | none =>
      cases upper with
      | some stated => simp at statesUpper
      | none =>
          cases inLower with
          | some value =>
              cases lower with
              | none => simp at statesLower
              | some stated =>
                  have reads : read value = some stated := by simpa using statesLower
                  simp [placed, stable value (by rw [reads]; rfl), reads]
          | none =>
              cases lower with
              | some stated => simp at statesLower
              | none => simpa [placed] using defaults

theorem stable_of_tables {α : Type} {read : Value → Option α}
    (tables : ∀ entries, read (.table entries) = none) (default value : Value)
    (reads : (read value).isSome) : read (Value.overlay (some default) value) = read value := by
  cases value with
  | table entries => simp [tables] at reads
  | _ => simp [Value.overlay]

theorem stable_toDispatch? (name : String) (value : Value) (reads : value.toDispatch?.isSome) :
    (Value.overlay (some (.text name)) value).toDispatch? = value.toDispatch? := by
  cases value with
  | table entries =>
      match entries with
      | [] => simp [Value.toDispatch?] at reads
      | [(only, held)] =>
          simp [Value.overlay, Value.overlayEntries, Value.entries, Table.set, Value.toDispatch?]
      | _ :: _ :: _ => simp [Value.toDispatch?] at reads
  | _ => simp [Value.overlay]

def defaultValue : Field → Value
  | .caseSensitive => .bool true
  | .maxKeyLen => .null
  | .dispatch => .text "indexed"
  | .level => .text "info"
  | .json => .bool false
  | .sourceLocation => .bool true

theorem ofValues?_layered {upper lower : Stated} {inUpper inLower : Field → Option Value}
    (statesUpper : upper.By inUpper) (statesLower : lower.By inLower) :
    ofValues? (fun field =>
        (inUpper field).or (some (placed (defaultValue field) (inLower field)))) =
      some (upper.on (lower.on {})) := by
  have caseSensitive := bind_placed (stable_of_tables (fun _ => rfl) _)
    (rfl : Value.toBool? (defaultValue .caseSensitive) = some true)
    statesUpper.caseSensitive statesLower.caseSensitive
  have maxKeyLen := bind_placed (stable_of_tables (fun _ => rfl) _)
    (rfl : Value.optional? Value.toNat? (defaultValue .maxKeyLen) = some none)
    statesUpper.maxKeyLen statesLower.maxKeyLen
  have dispatch : ((inUpper .dispatch).or
      (some (placed (defaultValue .dispatch) (inLower .dispatch)))).bind Value.toDispatch? =
      some (upper.dispatch.getD (lower.dispatch.getD .indexed)) :=
    bind_placed (stable_toDispatch? _) rfl statesUpper.dispatch statesLower.dispatch
  have level := bind_placed (stable_of_tables (fun _ => rfl) _)
    (rfl : Value.toText? (defaultValue .level) = some "info")
    statesUpper.level statesLower.level
  have json := bind_placed (stable_of_tables (fun _ => rfl) _)
    (rfl : Value.toBool? (defaultValue .json) = some false) statesUpper.json statesLower.json
  have sourceLocation := bind_placed (stable_of_tables (fun _ => rfl) _)
    (rfl : Value.toBool? (defaultValue .sourceLocation) = some true)
    statesUpper.sourceLocation statesLower.sourceLocation
  have limit : Value.optional? Value.toNat? (((inUpper .maxKeyLen).or
      (some (placed (defaultValue .maxKeyLen) (inLower .maxKeyLen)))).getD .null) =
      some (upper.maxKeyLen.getD (lower.maxKeyLen.getD none)) := by
    rw [← maxKeyLen]
    cases inUpper .maxKeyLen <;> rfl
  simp only [ofValues?, trieOf?, logOf?, caseSensitive, limit, dispatch, level, json,
    sourceLocation]
  rfl

/-! ### Layers of documents -/

theorem identifiers_defaults : ∀ entry ∈ toDocument {}, isIdentifier entry.1 := by
  intro entry member
  simp only [toDocument, List.mem_cons, List.not_mem_nil, or_false] at member
  rcases member with rfl | rfl <;> decide

theorem tidy_defaults : Alike.Tidy (toDocument {}) :=
  .of_identifiers identifiers_defaults (by decide)

theorem layer_defaults :
    (Value.table []).layer (toDocument {}) = .ok (.table (toDocument {})) := by
  rw [Value.layer_eq_lay tidy_defaults.1, Value.lay_identifiers identifiers_defaults]
  rfl

def Tabled (entries : Table) : Prop :=
  ∀ part ∈ partNames, (Table.get? entries part).all Value.isTable

instance (entries : Table) : Decidable (Tabled entries) :=
  inferInstanceAs (Decidable (∀ part ∈ partNames, (Table.get? entries part).all Value.isTable))

theorem get?_layered {entries : Table} (clear : Clear entries)
    (plain : ∀ entry ∈ entries, isIdentifier entry.1) (name : String) :
    Table.get? ((Value.table (toDocument {})).lay entries).entries name =
      match Table.get? entries name with
      | some value => some (Value.overlay (Table.get? (toDocument {}) name) value)
      | none => Table.get? (toDocument {}) name := by
  rw [Value.lay_identifiers plain, Value.get?_overlayEntries _ clear.names]
  rfl

theorem exists_field {part : String} (member : part ∈ partNames) :
    ∃ field : Field, field.part = part := by
  simp only [partNames, List.mem_cons, List.not_mem_nil, or_false] at member
  rcases member with rfl | rfl
  · exact ⟨.dispatch, rfl⟩
  · exact ⟨.level, rfl⟩

theorem part_layered {entries : Table} (clear : Clear entries)
    (plain : ∀ entry ∈ entries, isIdentifier entry.1) (tabled : Tabled entries) (field : Field) :
    ∃ part, Table.get? ((Value.table (toDocument {})).lay entries).entries field.part =
        some (.table part) ∧
      Table.get? part field.name = some (placed (defaultValue field) (inFile entries field)) := by
  obtain ⟨least, defaults, held⟩ : ∃ least, Table.get? (toDocument {}) field.part =
      some (.table least) ∧ Table.get? least field.name = some (defaultValue field) := by
    cases field <;> exact ⟨_, rfl, rfl⟩
  rw [get?_layered clear plain, inFile, defaults]
  cases found : Table.get? entries field.part with
  | none => exact ⟨least, rfl, held⟩
  | some given =>
      cases given with
      | table incoming =>
          obtain ⟨part, laid⟩ := Value.overlayEntries_table least incoming
          have merged := Value.get?_overlayEntries (.table least) (clear.below found) field.name
          rw [Value.entries_table, Value.entries_table, laid, Value.entries_table, held] at merged
          refine ⟨part, ?_, ?_⟩
          · simp [Value.overlay, laid]
          · rw [merged]
            simp only [Option.bind_some, Value.entries_table, placed]
            cases Table.get? incoming field.name <;> rfl
      | _ => exact absurd (tabled _ field.part_mem) (by simp [found, Value.isTable])

theorem valueAt_layered {entries : Table} (clear : Clear entries)
    (plain : ∀ entry ∈ entries, isIdentifier entry.1) (tabled : Tabled entries) (field : Field) :
    valueAt ((Value.table (toDocument {})).lay entries) field =
      some (placed (defaultValue field) (inFile entries field)) := by
  obtain ⟨part, found, held⟩ := part_layered clear plain tabled field
  rw [valueAt, found]
  exact held

theorem unlisted_layered {entries : Table} (clear : Clear entries)
    (plain : ∀ entry ∈ entries, isIdentifier entry.1) (tabled : Tabled entries) :
    Unlisted ((Value.table (toDocument {})).lay entries) := by
  intro part member items
  obtain ⟨field, rfl⟩ := exists_field member
  obtain ⟨part, found, _⟩ := part_layered clear plain tabled field
  simp [found]

structure Distinct (leading : String) (environment : List (String × String)) : Prop where
  named : ∀ given ∈ environment, carries leading given.1 → ∃ field, isFor leading given.1 field
  single : environment.Pairwise fun one other =>
    ∀ field, isFor leading one.1 field → !isFor leading other.1 field

theorem enter_of_isFor {leading : String} {given : String × String} {field : Field}
    (found : isFor leading given.1 field) (document : Value) :
    enter leading document given =
      Value.along (entryValue given.2) field.path (some document) := by
  simp only [enter, entryName?_of_isFor found, partsOf_field]

theorem enter_of_not_carries {leading : String} {given : String × String}
    (foreign : carries leading given.1 = false) (document : Value) :
    enter leading document given = document := by
  rw [carries_eq, Option.isSome_eq_false_iff, Option.isNone_iff_eq_none] at foreign
  simp only [enter, foreign]

theorem alter_path {value : Value} (solid : value.isTable = false) (field other : Field)
    (old : Option Value) :
    alter value field.path other old = if field = other then some value else old := by
  by_cases same : field = other
  · subst same
    simp [Field.path, alter, Value.along, Value.overlay_of_not_table solid]
  · have paths : ¬(field.part = other.part ∧ field.name = other.name) := by
      rintro ⟨part, name⟩
      exact same (Field.path_injective (by rw [Field.path, Field.path, part, name]))
    simp [Field.path, alter, same, paths]

theorem valueAt_enterAll {leading : String} {environment : List (String × String)}
    (distinct : Distinct leading environment) (document : Value) (field : Field) :
    valueAt (environment.foldl (enter leading) document) field =
      (inVariables leading environment field).or (valueAt document field) := by
  induction environment generalizing document with
  | nil => rfl
  | cons given rest ih =>
      obtain ⟨alone, later⟩ := List.pairwise_cons.mp distinct.single
      have below : Distinct leading rest :=
        ⟨fun given member => distinct.named given (List.mem_cons_of_mem _ member), later⟩
      rw [List.foldl_cons, ih below, inVariables, inVariables, List.find?_cons]
      cases carried : carries leading given.1 with
      | false =>
          rw [enter_of_not_carries carried, not_isFor_of_foreign carried]
      | true =>
          obtain ⟨own, found⟩ := distinct.named given List.mem_cons_self carried
          rw [enter_of_isFor found,
            valueAt_along (not_table_of_isScalar (isScalar_entryValue given.2)),
            alter_path (not_table_of_isScalar (isScalar_entryValue given.2))]
          by_cases same : own = field
          · subst same
            have none : rest.find? (fun given => isFor leading given.1 own) = none := by
              rw [List.find?_eq_none]
              intro other member
              simpa using alone other member own found
            simp [found, none]
          · have notFor : isFor leading given.1 field = false := by
              rw [Bool.eq_false_iff]
              exact fun found' => same (eq_of_isFor found found')
            simp [notFor, same]

theorem unlisted_enterAll {leading : String} {environment : List (String × String)}
    (distinct : Distinct leading environment) {document : Value} (unlisted : Unlisted document) :
    Unlisted (environment.foldl (enter leading) document) := by
  induction environment generalizing document with
  | nil => exact unlisted
  | cons given rest ih =>
      have below : Distinct leading rest :=
        ⟨fun given member => distinct.named given (List.mem_cons_of_mem _ member),
          distinct.single.tail⟩
      refine ih below ?_
      cases carried : carries leading given.1 with
      | false => rwa [enter_of_not_carries carried]
      | true =>
          obtain ⟨own, found⟩ := distinct.named given List.mem_cons_self carried
          have scalar := isScalar_entryValue given.2
          rw [enter_of_isFor found]
          exact unlisted_along (not_table_of_isScalar scalar) (ne_list_of_isScalar scalar)
            (by simp [Field.path]) unlisted

theorem Distinct.owner {leading : String} {environment : List (String × String)}
    (distinct : Distinct leading environment) {given : String × String}
    (member : given ∈ environment) {name : String}
    (found : entryName? leading given.1 = some name) :
    ∃ field, isFor leading given.1 field ∧ partsOf name = field.path := by
  have carried : carries leading given.1 := by
    rw [carries_eq, found]
    rfl
  obtain ⟨field, own⟩ := distinct.named given member carried
  rw [entryName?_of_isFor own] at found
  exact ⟨field, own, Option.some.inj found ▸ partsOf_field field⟩

theorem Distinct.separate {leading : String} {environment : List (String × String)}
    (distinct : Distinct leading environment) :
    Named leading environment ∧ environment.Pairwise (Separate leading) := by
  have owned {given : String × String} (member : given ∈ environment) {path : List String}
      (leads : path ∈ pathOf? leading given.1) :
      ∃ field, isFor leading given.1 field ∧ path = field.path := by
    obtain ⟨name, found, rfl⟩ := Option.map_eq_some_iff.mp leads
    exact distinct.owner member found
  constructor
  · intro given member path leads
    obtain ⟨field, _, rfl⟩ := owned member leads
    exact isIdentifier_of_mem_path
  · refine distinct.single.imp_of_mem fun {one other} member member' alone => ?_
    intro path leads path' leads'
    obtain ⟨field, isOne, rfl⟩ := owned member leads
    obtain ⟨field', isOther, rfl⟩ := owned member' leads'
    apply Field.path_apart
    rintro rfl
    simpa [isOther] using alone field isOne

/-! ### Loading -/

theorem fileFor?_self {files : Files} {path text : String}
    (readable : files.readText path = .ok text) (format : Format) :
    fileFor? files path format = some path := by
  have isFile : files.isFile path := by
    unfold Files.readText at readable
    unfold Files.isFile
    cases found : files.find path with
    | error cause => simp [found] at readable
    | ok entry =>
        cases entry with
        | directory => simp [found] at readable
        | file bytes => rfl
  simp [fileFor?, candidates, isFile]

theorem exists_of_readText {files : Files} {path text : String}
    (readable : files.readText path = .ok text) : files.exists? path := by
  unfold Files.readText at readable
  unfold Files.exists?
  cases found : files.find path with
  | error cause => simp [found] at readable
  | ok entry => rfl

theorem Loader.Finds.entries {loader : Loader} {files : Files} {entries : Table}
    (found : Loader.Finds files loader.path entries) : loader.entries files = .ok entries := by
  unfold Loader.entries
  cases path : loader.path with
  | none =>
      rw [path] at found
      cases found
      rfl
  | some path' =>
      rw [path] at found
      cases found with
      | document extension format readable parsed =>
          simp [fileLayer, exists_of_readText readable, extension, format,
            fileFor?_self readable, readable, parsed]

theorem ofDocument_alike {one other : Value} (alike : Alike one other) :
    ofDocument one = ofDocument other := by
  rw [ofDocument, ofDocument, decode?_alike alike]

theorem Loader.load_eq {loader : Loader} {files : Files} {entries : Table}
    (found : loader.entries files = .ok entries) (environment : List (String × String)) :
    loader.load files environment = (stack [loader.order.arrange .defaults (toDocument {}),
      loader.order.arrange .file entries, loader.order.arrange .environment
        (environmentLayer loader.leading environment)]).map ofDocument := by
  rw [Loader.load, found]
  rfl

theorem map_ofDocument_alike {one other : Except Panic Value} (alike : Alike.Outcome one other) :
    one.map ofDocument = other.map ofDocument := by
  cases alike with
  | broken panic => rfl
  | made values => exact congrArg Except.ok (ofDocument_alike values)

theorem stack_defaults (order : Order) (lower upper : Table) :
    Alike.Outcome (stack [order.arrange .defaults (toDocument {}), lower, upper])
      ((Value.table (toDocument {})).layer lower >>= fun document => document.layer upper) := by
  have defaults := Alike.layer_perm tidy_defaults (order.perm .defaults _).symm
    (.refl (Value.table []))
  rw [layer_defaults] at defaults
  simp only [stack, List.foldlM_cons, List.foldlM_nil, bind_pure]
  have symm := defaults.symm
  generalize (Value.table []).layer (order.arrange .defaults (toDocument {})) = base at symm ⊢
  cases symm with
  | made values => exact (Alike.layer lower values).bind fun values => Alike.layer upper values

/-- Of a file and variables whose names lie apart no order matters. -/
theorem Loader.load_tidy {loader : Loader} {files : Files} {entries : Table}
    (found : loader.entries files = .ok entries) (tidy : Alike.Tidy entries)
    {environment : List (String × String)}
    (tidyVariables : Alike.Tidy (environmentLayer loader.leading environment)) :
    loader.load files environment = .ok (ofDocument
      (((Value.table (toDocument {})).lay entries).lay
        (environmentLayer loader.leading environment))) := by
  rw [Loader.load_eq found]
  have file := Alike.layer_perm tidy (loader.order.perm .file entries).symm
    (.refl (Value.table (toDocument {})))
  have whole := file.bind fun values =>
    Alike.layer_perm tidyVariables (loader.order.perm .environment _).symm values
  rw [map_ofDocument_alike ((stack_defaults _ _ _).trans whole.symm), Value.layer_eq_lay tidy.1]
  exact congrArg (Except.map ofDocument) (Value.layer_eq_lay tidyVariables.1 _)

theorem ofDocument_eq {document : Value} {settings : Settings}
    (decoded : decode? .converting document = some settings) :
    ofDocument document = settings.validate.map fun _ => settings := by
  rw [ofDocument, decoded]

theorem Loader.Finds.clear {files : Files} {path : Option String} {entries : Table}
    (found : Loader.Finds files path entries) : Clear entries := by
  cases found with
  | nothing => exact Single.nil
  | document _ _ _ read => exact Format.read?_clear read

theorem load_of_layers {loader : Loader} {files : Files} {environment : List (String × String)}
    {entries : Table} (found : Loader.Finds files loader.path entries)
    (plain : ∀ entry ∈ entries, isIdentifier entry.1) (tabled : Tabled entries)
    (distinct : Distinct loader.leading environment) {upper lower : Stated}
    (byVariables : upper.By (inVariables loader.leading environment))
    (byFile : lower.By (inFile entries)) :
    loader.load files environment =
      .ok ((upper.on (lower.on {})).validate.map fun _ => upper.on (lower.on {})) := by
  obtain ⟨named, separate⟩ := distinct.separate
  have layer := environmentLayer_separate separate
  rw [Loader.load_tidy found.entries (.of_identifiers plain found.clear.names)
    (layer ▸ tidy_assignments named separate), layer, lay_assignments]
  refine congrArg Except.ok (ofDocument_eq ?_)
  have unlisted := unlisted_enterAll distinct (unlisted_layered found.clear plain tabled)
  rw [decode?_eq_ofValues? unlisted, ← ofValues?_layered byVariables byFile]
  congr 1
  funext field
  rw [valueAt_enterAll distinct, valueAt_layered found.clear plain tabled]

theorem validate_eq (settings : Settings) :
    settings.validate =
      if settings.trie.maxKeyLen = some 0 then
        .error (.outOfRange "trie.max_key_len" "must be greater than 0")
      else if settings.log.level ∈ ["trace", "debug", "info", "warn", "error"] then .ok ()
      else .error (.invalid ("Invalid log level: " ++ settings.log.level)) := by
  unfold Settings.validate TrieSettings.validate
  split
  · rfl
  · rfl

theorem validate_of_ofDocument {document : Value} {settings : Settings}
    (made : ofDocument document = .ok settings) : settings.validate = .ok () := by
  unfold ofDocument at made
  split at made
  · cases made
  · rename_i decoded _
    cases valid : decoded.validate with
    | error cause =>
        rw [valid] at made
        cases made
    | ok _ =>
        rw [valid] at made
        cases made
        exact valid

theorem validate_of_load {loader : Loader} {files : Files} {environment : List (String × String)}
    {settings : Settings} (loads : loader.load files environment = .ok (.ok settings)) :
    settings.validate = .ok () := by
  cases found : loader.entries files with
  | error cause =>
      rw [Loader.load, found] at loads
      cases loads
  | ok entries =>
      rw [Loader.load_eq found] at loads
      cases stacked : stack _ with
      | error panic =>
          rw [stacked] at loads
          cases loads
      | ok document =>
          rw [stacked] at loads
          exact validate_of_ofDocument (Except.ok.inj loads)

theorem toConfig_maxKeyLen {settings : TrieSettings} (limited : settings.maxKeyLen ≠ some 0) :
    settings.toConfig.maxKeyLen = settings.maxKeyLen := by
  cases limit : settings.maxKeyLen with
  | none => simp [TrieSettings.toConfig, limit]
  | some n =>
      have positive : 0 < n := Nat.pos_of_ne_zero fun zero => limited (by rw [limit, zero])
      simp [TrieSettings.toConfig, limit, positive]

/-- Each setting has the value of the highest layer that states it. What is loaded is valid, and the
first of the settings that are not is named, the trie's before the log's. -/
theorem load_layered {loader : Loader} {files : Files} {environment : List (String × String)}
    {entries : Table} (found : Loader.Finds files loader.path entries)
    (plain : ∀ entry ∈ entries, isIdentifier entry.1) (tabled : Tabled entries)
    (distinct : Distinct loader.leading environment) {upper lower : Stated}
    (byVariables : upper.By (inVariables loader.leading environment))
    (byFile : lower.By (inFile entries)) :
    loader.load files environment =
      .ok ((upper.on (lower.on {})).validate.map fun _ => upper.on (lower.on {})) ∧
    (∀ settings : Settings, settings.validate =
      if settings.trie.maxKeyLen = some 0 then
        .error (.outOfRange "trie.max_key_len" "must be greater than 0")
      else if settings.log.level ∈ ["trace", "debug", "info", "warn", "error"] then .ok ()
      else .error (.invalid ("Invalid log level: " ++ settings.log.level))) ∧
    ∀ loaded, loader.load files environment = .ok (.ok loaded) →
      loaded.trie.maxKeyLen ≠ some 0 ∧
      loaded.log.level ∈ ["trace", "debug", "info", "warn", "error"] ∧
      loaded.trie.toConfig.maxKeyLen = loaded.trie.maxKeyLen := by
  have outcome := load_of_layers found plain tabled distinct byVariables byFile
  refine ⟨outcome, validate_eq, fun loaded loads => ?_⟩
  rw [outcome, validate_eq] at loads
  split at loads
  · cases loads
  rename_i limited
  split at loads
  · rename_i known
    cases loads
    exact ⟨limited, known, toConfig_maxKeyLen limited⟩
  · cases loads

theorem load_layered_over_file :
    let text := "[trie]\nmax_key_len = 8\nshape = \"wide\"\n[log]\nlevel = \"warn\"\njson = true\n"
    Loader.load { path := some "settings.toml" } ⟨[(["settings.toml"], .file text.toUTF8)]⟩
        [("Lanai__Log__Level", "error"), ("HOME", "/")] =
      .ok (.ok { trie := { maxKeyLen := some 8 }, log := { level := "error", json := true } }) := by
  intro text
  let entries : Table :=
    [("trie", .table [("max_key_len", .int 8), ("shape", .text "wide")]),
      ("log", .table [("level", .text "warn"), ("json", .bool true)])]
  have readable : Files.readText ⟨[(["settings.toml"], .file text.toUTF8)]⟩ "settings.toml" =
      .ok text := by decide +kernel
  have parsed : Format.read? .toml text = some entries := by decide +kernel
  have found : Loader.Finds _ (some "settings.toml") entries :=
    .document (by decide +kernel : _ = some "toml") (by decide +kernel) readable parsed
  have tabled : Tabled entries := by decide +kernel
  have distinct : Distinct "LANAI" [("Lanai__Log__Level", "error"), ("HOME", "/")] := by
    constructor
    · intro given member carried
      simp only [List.mem_cons, List.not_mem_nil, or_false] at member
      rcases member with rfl | rfl
      · exact ⟨.level, by decide +kernel⟩
      · exact absurd carried (by decide +kernel)
    · rw [List.pairwise_pair]
      intro field _
      cases field <;> decide +kernel
  have byVariables : Stated.By { level := some "error" }
      (inVariables "LANAI" [("Lanai__Log__Level", "error"), ("HOME", "/")]) := by
    constructor <;> decide +kernel
  have byFile : Stated.By { maxKeyLen := some (some 8), level := some "warn", json := some true }
      (inFile entries) := by
    constructor <;> decide +kernel
  have layered := @load_layered { path := some "settings.toml" } _ _ entries found
    (by decide +kernel) tabled distinct _ _ byVariables byFile
  exact layered.1.trans (by decide +kernel)

end RadixForest.Settings
