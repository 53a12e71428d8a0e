import RadixForest.Proofs.Document.Lines
import RadixForest.Proofs.Settings.Layers
import RadixForest.Settings.Written

/-!
Settings that are written and read back, on their own and as the file of a loader.
-/

namespace RadixForest.Settings

open Document

/-- The settings as the entries of a document that leaves an absent limit out. -/
def asTable (settings : Settings) : Table :=
  [("trie", .table (
      ("case_sensitive", .bool settings.trie.caseSensitive) ::
      (match settings.trie.maxKeyLen with
        | some n => [("max_key_len", .int n)]
        | none => []) ++
      [("dispatch", .text settings.trie.dispatch.name)])),
    ("log", .table [
      ("level", .text settings.log.level),
      ("json", .bool settings.log.json),
      ("source_location", .bool settings.log.sourceLocation)])]

def asLines (settings : Settings) : List Toml.Line :=
  .header ["trie"] false ::
  .pair ["case_sensitive"] (.plain (.bool settings.trie.caseSensitive)) ::
  (match settings.trie.maxKeyLen with
    | some n => [.pair ["max_key_len"] (.plain (.int n))]
    | none => []) ++
  [.pair ["dispatch"] (.plain (.text settings.trie.dispatch.name)),
    .header ["log"] false,
    .pair ["level"] (.plain (.text settings.log.level)),
    .pair ["json"] (.plain (.bool settings.log.json)),
    .pair ["source_location"] (.plain (.bool settings.log.sourceLocation))]

theorem assemble?_asLines (settings : Settings) :
    Toml.assemble? settings.asLines = some settings.asTable := by
  unfold asLines asTable
  cases settings.trie.maxKeyLen <;> rfl

theorem decode?_asTable (settings : Settings) :
    decode? .strict (.table settings.asTable) = some settings := by
  obtain ⟨⟨caseSensitive, maxKeyLen, dispatch⟩, ⟨level, json, sourceLocation⟩⟩ := settings
  cases maxKeyLen with
  | none => cases dispatch <;> rfl
  | some n => cases dispatch <;> rfl

def isWord (name : String) : Bool := !name.toList.isEmpty && name.toList.all Toml.isWordChar

theorem word_of_isWord {name : String} (word : isWord name) :
    name.toList ≠ [] ∧ ∀ c ∈ name.toList, Toml.isWordChar c := by
  simpa [isWord, List.isEmpty_iff] using word

theorem lines?_header {header name : String} (word : isWord name)
    (spelled : header.toList = '[' :: (name.toList ++ [']', '\n'])) (rest : List Char)
    (fuel : Nat) :
    Toml.lines? (fuel + 1) (header.toList ++ rest) =
      (Toml.lines? fuel rest).map (.header [name] false :: ·) := by
  obtain ⟨filled, all⟩ := word_of_isWord word
  have text : header.toList ++ rest = '[' :: (name.toList ++ ']' :: '\n' :: rest) := by
    rw [spelled, List.cons_append, List.append_assoc]
    rfl
  rw [text, Toml.lines?_cons (by decide) (Toml.line?_header filled all rest), String.ofList_toList]

theorem lines?_writtenLine {name : String} (word : isWord name) {value : List Char}
    {tree : Toml.Tree} {rest : List Char}
    (read : ∀ fuel, Toml.value? (fuel + 1) (value ++ '\n' :: rest) = some (tree, '\n' :: rest))
    (fuel : Nat) :
    Toml.lines? (fuel + 1) (writtenLine name value ++ rest) =
      (Toml.lines? fuel rest).map (.pair [name] tree :: ·) := by
  have text : writtenLine name value ++ rest =
      name.toList ++ ' ' :: '=' :: ' ' :: (value ++ '\n' :: rest) := by
    simp [writtenLine]
  obtain ⟨filled, all⟩ := word_of_isWord word
  have line := Toml.line?_pair filled all read
  obtain ⟨c, behind, starts, wordChar⟩ :=
    @Toml.head_word _ (' ' :: '=' :: ' ' :: (value ++ '\n' :: rest)) filled all
  rw [text, starts, Toml.lines?_cons (Toml.startsLine_of_isWordChar wordChar) (starts ▸ line),
    String.ofList_toList]

theorem value?_boolText (b : Bool) (rest : List Char) (fuel : Nat) :
    Toml.value? (fuel + 1) (boolText b ++ '\n' :: rest) =
      some (.plain (.bool b), '\n' :: rest) := by
  cases b <;> rfl

theorem value?_quoted (text : String) (rest : List Char) (fuel : Nat) :
    Toml.value? (fuel + 1) (Toml.quoted text.toList ++ '\n' :: rest) =
      some (.plain (.text text), '\n' :: rest) := by
  rw [Toml.value?_quoted, String.ofList_toList]

theorem lines?_writtenLog (settings : LogSettings) (fuel : Nat) :
    Toml.lines? (fuel + 5) (writtenLog settings) = some
      [.header ["log"] false, .pair ["level"] (.plain (.text settings.level)),
        .pair ["json"] (.plain (.bool settings.json)),
        .pair ["source_location"] (.plain (.bool settings.sourceLocation))] := by
  have last := lines?_writtenLine (by decide +kernel : isWord "source_location")
    (value?_boolText settings.sourceLocation []) (fuel + 1)
  rw [List.append_nil] at last
  unfold writtenLog
  rw [List.append_assoc, List.append_assoc,
    lines?_header (by decide +kernel : isWord "log") (by decide +kernel),
    lines?_writtenLine (by decide +kernel) (value?_quoted settings.level _),
    lines?_writtenLine (by decide +kernel) (value?_boolText settings.json _), last]
  rfl

theorem lines?_blankLog (settings : LogSettings) (fuel : Nat) :
    Toml.lines? (fuel + 1) ('\n' :: writtenLog settings) =
      Toml.lines? (fuel + 1) (writtenLog settings) := by
  have header : "[log]\n".toList = '[' :: ['l', 'o', 'g', ']', '\n'] := by decide +kernel
  unfold writtenLog
  rw [List.append_assoc, List.append_assoc, header, List.cons_append]
  exact Toml.lines?_empty (by decide) fuel

theorem lines?_written {settings : Settings}
    (fits : ∀ n, settings.trie.maxKeyLen = some n → n < Nat.pow 2 63) (fuel : Nat) :
    Toml.lines? (fuel + 9) (writtenTrie settings.trie ++ '\n' :: writtenLog settings.log) =
      some settings.asLines := by
  unfold writtenTrie asLines
  cases limit : settings.trie.maxKeyLen with
  | none =>
      simp only []
      rw [List.append_nil, List.append_assoc, List.append_assoc,
        lines?_header (by decide +kernel : isWord "trie") (by decide +kernel),
        lines?_writtenLine (by decide +kernel) (value?_boolText settings.trie.caseSensitive _),
        lines?_writtenLine (by decide +kernel) (value?_quoted settings.trie.dispatch.name _),
        lines?_blankLog, lines?_writtenLog]
      rfl
  | some n =>
      simp only []
      rw [List.append_assoc, List.append_assoc, List.append_assoc,
        lines?_header (by decide +kernel : isWord "trie") (by decide +kernel),
        lines?_writtenLine (by decide +kernel) (value?_boolText settings.trie.caseSensitive _),
        lines?_writtenLine (by decide +kernel)
          (fun fuel => Toml.value?_toDigits (fits n limit) fuel _),
        lines?_writtenLine (by decide +kernel) (value?_quoted settings.trie.dispatch.name _),
        lines?_blankLog, lines?_writtenLog]
      rfl

theorem return_not_mem_writtenLine {name : String} (word : isWord name) {value : List Char}
    (plain : '\r' ∉ value) : '\r' ∉ writtenLine name value := by
  have noName : '\r' ∉ name.toList :=
    fun member => absurd ((word_of_isWord word).2 _ member) (by decide)
  simp [writtenLine, noName, plain]

theorem return_not_mem_boolText (b : Bool) : '\r' ∉ boolText b := by
  cases b <;> decide +kernel

theorem return_not_mem_writtenTrie (settings : TrieSettings) : '\r' ∉ writtenTrie settings := by
  have switch := return_not_mem_writtenLine (by decide +kernel : isWord "case_sensitive")
    (return_not_mem_boolText settings.caseSensitive)
  have dispatch := return_not_mem_writtenLine (by decide +kernel : isWord "dispatch")
    (Toml.return_not_mem_quoted settings.dispatch.name.toList)
  have limit (n : Nat) := return_not_mem_writtenLine (by decide +kernel : isWord "max_key_len")
    (Toml.not_mem_toDigits (by decide : Char.isDigit '\r' = false) n)
  have header : '\r' ∉ "[trie]\n".toList := by decide +kernel
  unfold writtenTrie
  cases settings.maxKeyLen with
  | none => simp only [List.mem_append, header, switch, dispatch, List.not_mem_nil, or_self,
      not_false_eq_true]
  | some n => simp only [List.mem_append, header, switch, limit, dispatch, or_self,
      not_false_eq_true]

theorem return_not_mem_writtenLog (settings : LogSettings) : '\r' ∉ writtenLog settings := by
  have level := return_not_mem_writtenLine (by decide +kernel : isWord "level")
    (Toml.return_not_mem_quoted settings.level.toList)
  have json := return_not_mem_writtenLine (by decide +kernel : isWord "json")
    (return_not_mem_boolText settings.json)
  have sourceLocation := return_not_mem_writtenLine (by decide +kernel : isWord "source_location")
    (return_not_mem_boolText settings.sourceLocation)
  have header : '\r' ∉ "[log]\n".toList := by decide +kernel
  unfold writtenLog
  simp only [List.mem_append, header, level, json, sourceLocation, or_self, not_false_eq_true]

theorem read?_written {settings : Settings}
    (fits : ∀ n, settings.trie.maxKeyLen = some n → n < Nat.pow 2 63) :
    Toml.read? (written settings).toList = some settings.asTable := by
  have noReturn : '\r' ∉ writtenTrie settings.trie ++ '\n' :: writtenLog settings.log := by
    simp [return_not_mem_writtenTrie, return_not_mem_writtenLog]
  have header : "[trie]\n".toList = ['[', 't', 'r', 'i', 'e', ']', '\n'] := by decide +kernel
  obtain ⟨behind, starts⟩ : ∃ behind, writtenTrie settings.trie = "[trie]\n".toList ++ behind := by
    unfold writtenTrie
    exact ⟨_, by rw [List.append_assoc, List.append_assoc]⟩
  have noMark : Toml.skipMark (writtenTrie settings.trie ++ '\n' :: writtenLog settings.log) =
      writtenTrie settings.trie ++ '\n' :: writtenLog settings.log := by
    rw [starts, header]
    rfl
  obtain ⟨fuel, enough⟩ : ∃ fuel,
      (writtenTrie settings.trie ++ '\n' :: writtenLog settings.log).length + 1 = fuel + 9 := by
    refine ⟨(behind ++ writtenLog settings.log).length, ?_⟩
    rw [starts, header]
    simp only [List.length_append, List.length_cons, List.length_nil]
    omega
  have lines := lines?_written fits fuel
  rw [← enough] at lines
  rw [written, String.toList_ofList, Toml.read?, noMark, Toml.foldLineEnds_eq noReturn]
  simp only [lines, Option.bind_some, assemble?_asLines]

theorem ofWritten?_written {settings : Settings}
    (fits : ∀ n, settings.trie.maxKeyLen = some n → n < Nat.pow 2 63) :
    ofWritten? (written settings) = some settings := by
  rw [ofWritten?, read?_written fits]
  exact decode?_asTable settings

def stated (settings : Settings) : Stated where
  caseSensitive := some settings.trie.caseSensitive
  maxKeyLen := settings.trie.maxKeyLen.map some
  dispatch := some settings.trie.dispatch
  level := some settings.log.level
  json := some settings.log.json
  sourceLocation := some settings.log.sourceLocation

theorem stated_on_defaults (settings : Settings) : settings.stated.on {} = settings := by
  obtain ⟨⟨caseSensitive, maxKeyLen, dispatch⟩, ⟨level, json, sourceLocation⟩⟩ := settings
  cases maxKeyLen <;> rfl

theorem stated_by_asTable (settings : Settings) : settings.stated.By (inFile settings.asTable) := by
  obtain ⟨⟨caseSensitive, maxKeyLen, dispatch⟩, ⟨level, json, sourceLocation⟩⟩ := settings
  constructor
  · cases maxKeyLen <;> rfl
  · cases maxKeyLen <;> rfl
  · cases maxKeyLen <;> cases dispatch <;> rfl
  · rfl
  · rfl
  · rfl

theorem distinct_of_foreign {leading : String} {environment : List (String × String)}
    (foreign : ∀ given ∈ environment, carries leading given.1 = false) :
    Distinct leading environment := by
  constructor
  · intro given member carried
    rw [foreign given member] at carried
    cases carried
  · refine List.pairwise_of_forall_mem_list fun one member other _ field found => ?_
    rw [not_isFor_of_foreign (foreign one member)] at found
    cases found

theorem silent_of_foreign {leading : String} {environment : List (String × String)}
    (foreign : ∀ given ∈ environment, carries leading given.1 = false) :
    Stated.By {} (inVariables leading environment) := by
  have silent (field : Field) : inVariables leading environment field = none := by
    rw [inVariables, Option.map_eq_none_iff, List.find?_eq_none]
    intro given member
    simp [not_isFor_of_foreign (foreign given member)]
  constructor <;> rw [silent] <;> rfl

/-- What is written of settings is a document that holds each of them as a value of its own kind,
and reads as the settings. A loader that has it as its file gives the settings if they are valid. -/
theorem written_reads_back {settings : Settings}
    (fits : ∀ n, settings.trie.maxKeyLen = some n → n < Nat.pow 2 63) :
    Toml.read? (written settings).toList = some settings.asTable ∧
    ofWritten? (written settings) = some settings ∧
    (settings.validate = .ok () →
      ∀ (loader : Loader) (files : Files) (path : String) (environment : List (String × String)),
        loader.path = some path → Path.extension? path = some "toml" →
        files.readText path = .ok (written settings) →
        (∀ given ∈ environment, carries loader.leading given.1 = false) →
        loader.load files environment = .ok (.ok settings)) := by
  refine ⟨read?_written fits, ofWritten?_written fits, ?_⟩
  intro valid loader files path environment named extension readable foreign
  have found : Loader.Finds files loader.path settings.asTable := by
    have format : Format.ofExtension? "toml" = some .toml := by decide +kernel
    have parsed : Format.read? .toml (written settings) = some settings.asTable := by
      unfold Format.read?
      exact read?_written fits
    rw [named]
    exact .document extension format readable parsed
  have plain : ∀ entry ∈ settings.asTable, isIdentifier entry.1 := by
    intro entry member
    simp only [asTable, List.mem_cons, List.not_mem_nil, or_false] at member
    rcases member with rfl | rfl
    · exact (by decide +kernel : isIdentifier "trie")
    · exact (by decide +kernel : isIdentifier "log")
  have tabled : Tabled settings.asTable := by
    intro part member
    simp only [partNames, List.mem_cons, List.not_mem_nil, or_false] at member
    rcases member with rfl | rfl <;> rfl
  have loads := load_of_layers found plain tabled (distinct_of_foreign foreign)
    (silent_of_foreign foreign) settings.stated_by_asTable
  have all : Stated.on {} (settings.stated.on {}) = settings := settings.stated_on_defaults
  rw [loads, all, valid]
  rfl

theorem written_reads_back_over_file :
    let quotes : Settings := { log := { level := "\"\"\"\x27\x27\x27\n\\\x07\"\"" } }
    let largest : Settings := { trie := { maxKeyLen := some 9223372036854775807 } }
    ofWritten? (written quotes) = some quotes ∧
      Loader.load { path := some "out.toml" }
        ⟨[(["out.toml"], .file (written largest).toUTF8)]⟩ [("HOME", "/")] = .ok (.ok largest) := by
  intro quotes largest
  have unlimited : ∀ n, quotes.trie.maxKeyLen = some n → n < Nat.pow 2 63 := by
    rintro n ⟨⟩
  have fits : ∀ n, largest.trie.maxKeyLen = some n → n < Nat.pow 2 63 := by
    rintro n ⟨⟩
    decide
  have readable : Files.readText ⟨[(["out.toml"], .file (written largest).toUTF8)]⟩ "out.toml" =
      .ok (written largest) := by decide +kernel
  have foreign : ∀ given ∈ [("HOME", "/")], carries "LANAI" given.1 = false := by decide +kernel
  have valid : largest.validate = .ok () := by decide +kernel
  exact ⟨(written_reads_back unlimited).2.1, (written_reads_back fits).2.2 valid _ _ _ _
    rfl (by decide +kernel) readable foreign⟩

end RadixForest.Settings
