import RadixForest.Proofs.KeyFile.LineEnds
import RadixForest.Proofs.KeyFile.Loading
import RadixForest.Proofs.Trie.Places

/-!
Key files that are written. Keys and values that fit on a line come back as they were from a file
with one line for each, whatever other characters they have.
-/

namespace RadixForest.KeyFile

open Trie

def Entry.line (entry : Entry) : List Char := entry.key ++ '\t' :: entry.value.toList

def written (entries : List Entry) : List Char := entries.flatMap fun entry => entry.line ++ ['\n']

/-- An entry that a line can hold: it fits between two line endings, its key is no comment and
stands before the first tab, and there is something to see of the whole. -/
structure Entry.Writable (entry : Entry) : Prop where
  filled : entry.key ≠ []
  noComment : entry.key.head? ≠ some '#'
  noTab : '\t' ∉ entry.key
  singleKey : '\n' ∉ entry.key
  singleValue : '\n' ∉ entry.value.toList
  noReturn : entry.value.toList.getLast? ≠ some '\r'
  visible : ∃ c ∈ entry.key ++ entry.value.toList, Text.isBlank c = false

def lastValue? (key : Key) (entries : List Entry) : Option String :=
  ((entries.filter (·.key = key)).getLast?).map (·.value)

theorem trimLineEnds_of_getLast? {line : List Char}
    (kept : ∀ c ∈ line.getLast?, isLineEnd c = false) : trimLineEnds line = line := by
  rw [trimLineEnds]
  cases last : line.reverse with
  | nil => rw [List.dropWhile_nil, ← last, List.reverse_reverse]
  | cons c before =>
      have stays := kept c (by rw [← List.head?_reverse, last]; rfl)
      rw [List.dropWhile_cons_of_neg (by simp [stays]), ← last, List.reverse_reverse]

namespace Entry.Writable

variable {entry : Entry}

theorem single (writable : entry.Writable) : '\n' ∉ entry.line := by
  simp [Entry.line, writable.singleKey, writable.singleValue]

theorem trimmed (writable : entry.Writable) : trimLineEnds entry.line = entry.line := by
  apply trimLineEnds_of_getLast?
  intro c last
  rw [Entry.line, List.getLast?_append, List.getLast?_cons] at last
  cases final : entry.value.toList.getLast? with
  | none =>
      simp only [final] at last
      cases last
      rfl
  | some d =>
      simp only [final] at last
      cases last
      have noFeed : d ≠ '\n' := fun feed =>
        writable.singleValue (feed ▸ List.mem_of_getLast? final)
      have noReturn : d ≠ '\r' := fun same => writable.noReturn (same ▸ final)
      simp [isLineEnd, noFeed, noReturn]

theorem parseLine_line (writable : entry.Writable) (number : Nat) :
    parseLine number entry.line = some entry := by
  have inKey : ∀ c ∈ entry.key, (c != '\t') = true := by
    intro c member
    exact bne_iff_ne.mpr (ne_of_mem_of_not_mem member writable.noTab)
  have visible : entry.line.all Text.isBlank = false := by
    obtain ⟨c, member, seen⟩ := writable.visible
    rw [List.all_eq_false]
    refine ⟨c, ?_, by simp [seen]⟩
    simp only [Entry.line, List.mem_append, List.mem_cons] at member ⊢
    exact member.imp_right Or.inr
  have noComment : (entry.line.head? == some '#') = false := by
    obtain ⟨first, tail, key⟩ := List.exists_cons_of_ne_nil writable.filled
    have other := writable.noComment
    rw [key, List.head?_cons] at other
    rw [Entry.line, key, List.cons_append, List.head?_cons]
    exact beq_false_of_ne other
  rw [parseLine, writable.trimmed]
  simp only [visible, noComment, Bool.or_self, Bool.false_eq_true, if_false]
  rw [Entry.line, List.dropWhile_append_of_pos inKey, List.takeWhile_append_of_pos inKey]
  simp

end Entry.Writable

theorem entriesFrom_written {entries : List Entry} (writable : ∀ entry ∈ entries, entry.Writable)
    (number : Nat) :
    entriesFrom number (lines (written entries)) = (entries.zipIdx number).map Prod.swap := by
  induction entries generalizing number with
  | nil => rfl
  | cons entry entries ih =>
      rw [List.forall_mem_cons] at writable
      rw [written, List.flatMap_cons, List.append_assoc, lines,
        linesFrom_append writable.1.single, List.append_nil, List.singleton_append,
        entriesFrom_feed, List.reverse_reverse, entryAt, writable.1.parseLine_line]
      exact congrArg (_ :: ·) (ih writable.2 (number + 1))

section Plain

variable {config : Config} (sensitive : config.caseSensitive = true)
  (unlimited : config.maxKeyLen = none) {listed : List (Nat × Entry)}
  (filled : ∀ entry ∈ listed, entry.2.key ≠ [])

include sensitive unlimited

theorem name_of_plain {key : Key} (keyFilled : key ≠ []) :
    Dictionary.name config key = .ok key := by
  rw [Dictionary.name, if_neg keyFilled, if_pos sensitive, unlimited]
  rfl

include filled

theorem offers_of_plain {key : Key} (keyFilled : key ≠ []) :
    offers config key listed =
      ((listed.map Prod.snd).filter (·.key = key)).map (·.value) := by
  rw [offers, List.filter_map, List.map_map]
  refine congrArg (List.map _) (List.filter_congr fun entry member => ?_)
  rw [name_of_plain sensitive unlimited (filled entry member),
    name_of_plain sensitive unlimited keyFilled]
  simp

theorem refused_of_plain :
    (listed.countP fun entry => !(Dictionary.name config entry.2.key).toBool) = 0 := by
  refine List.countP_eq_zero.mpr fun entry member => ?_
  rw [name_of_plain sensitive unlimited (filled entry member)]
  exact Bool.false_ne_true

theorem bound_of_plain (key : Key) :
    ((transcript (Dictionary.perform config) []
        ((insertions true listed).map (·.operation))).2.lookup key).isSome ↔
      key ∈ (listed.map Prod.snd).map (·.key) := by
  rw [Dictionary.lookup_inserts, Insert.foldl_offer_isSome]
  have named : (Insert.naming config key (insertions true listed)).isEmpty = false ↔
      ∃ entry ∈ listed, entry.2.key = key := by
    rw [List.isEmpty_eq_false_iff_exists_mem]
    constructor
    · rintro ⟨insert, member⟩
      obtain ⟨inserted, own⟩ := List.mem_filter.mp member
      obtain ⟨entry, entryIn, rfl⟩ := List.mem_map.mp inserted
      have name := of_decide_eq_true own
      rw [name_of_plain sensitive unlimited (filled entry entryIn)] at name
      exact ⟨entry, entryIn, Except.ok.inj name⟩
    · rintro ⟨entry, entryIn, rfl⟩
      refine ⟨_, List.mem_filter.mpr ⟨List.mem_map_of_mem entryIn, decide_eq_true ?_⟩⟩
      exact name_of_plain sensitive unlimited (filled entry entryIn)
  simp [named]

variable {trie : Trie String} {path : String} {load : Load} (mirrors : Mirrors config trie [])
  (accounted : Accounted trie true path listed load)

include mirrors accounted

theorem report_of_plain :
    let keys := ((listed.map Prod.snd).map (·.key)).toFinset
    load.report =
      { inserted := keys.card, replaced := listed.length - keys.card, rejected := 0 } := by
  intro keys
  have after := (mirrors.run ((insertions true listed).map (·.operation))).2
  rw [← accounted.trie] at after
  have size : load.trie.size = keys.card := after.size_eq_card fun key => by
    rw [List.mem_toFinset, bound_of_plain sensitive unlimited filled]
  have inserted := accounted.size
  rw [mirrors.size, List.length_nil, Nat.zero_add, size] at inserted
  have refused := accounted.rejected.trans (countP_refusals mirrors listed)
  rw [refused_of_plain sensitive unlimited filled] at refused
  have total := accounted.total
  cases report : load.report with
  | mk new replaced rejected =>
      simp only [report] at inserted refused total
      simp only [Report.mk.injEq]
      omega

theorem find_of_plain {key : Key} (keyFilled : key ≠ []) :
    load.trie.find key = .ok (lastValue? key (listed.map Prod.snd)) := by
  rw [accounted.find, mirrors.find, mirrors.config, name_of_plain sensitive unlimited keyFilled,
    offers_of_plain sensitive unlimited filled keyFilled, lastValue?, ← List.getLast?_map]
  exact congrArg Except.ok (Option.or_none)

end Plain

/-- Entries that a line can hold are written as a file from which they are loaded as they are, the
last one for each key in the end. -/
theorem written_loads_back {entries : List Entry}
    (writable : ∀ entry ∈ entries, entry.Writable) {config : Config}
    (sensitive : config.caseSensitive = true) (unlimited : config.maxKeyLen = none)
    (operations : List (Operation String))
    (vacant : ((Trie.empty config).run operations).2.isEmpty = true) (files : Files)
    (path : String) (readable : files.readText path = .ok (String.ofList (written entries))) :
    let keys := (entries.map (·.key)).toFinset
    ∃ loaded, load files path ((Trie.empty config).run operations).2 true = .ok loaded ∧
      loaded.report =
        { inserted := keys.card, replaced := entries.length - keys.card, rejected := 0 } ∧
      (∀ key, key ≠ [] → loaded.trie.find key = .ok (lastValue? key entries)) ∧
      loaded.trie.find [] = .error .emptyKey := by
  have mirrors := (run_mirrors config operations).2
  generalize ((Trie.empty config).run operations).2 = trie at mirrors vacant
  have noKeys : (Dictionary.run config operations).2 = [] := by
    rw [isEmpty, mirrors.size, beq_iff_eq] at vacant
    exact List.length_eq_zero_iff.mp vacant
  rw [noKeys] at mirrors
  have asWritten : numbered (written entries) = (entries.zipIdx 1).map Prod.swap := by
    rw [← entries_eq_numbered]
    exact entriesFrom_written writable 1
  have inOrder : (numbered (written entries)).map Prod.snd = entries := by
    rw [asWritten, List.map_map]
    exact List.zipIdx_map_fst 1 entries
  have length : (numbered (written entries)).length = entries.length := by
    rw [asWritten, List.length_map, List.length_zipIdx]
  have filled : ∀ entry ∈ numbered (written entries), entry.2.key ≠ [] := by
    intro entry member
    have own : entry.2 ∈ entries := inOrder ▸ List.mem_map_of_mem member
    exact (writable _ own).filled
  have accounted := accounted_loadText (mirrors.config ▸ mirrors) path (written entries) true
  have report := report_of_plain sensitive unlimited filled mirrors accounted
  rw [inOrder, length] at report
  refine ⟨loadText path (written entries) trie true, ?_, report, ?_, ?_⟩
  · rw [load_of_readText readable, String.toList_ofList]
  · intro key keyFilled
    rw [find_of_plain sensitive unlimited filled mirrors accounted keyFilled, inOrder]
  · rw [accounted.find, mirrors.find]
    rfl

theorem written_loads_back_of_marks :
    let entries : List Entry :=
      [⟨['o', 'x', '\r'], " a\tb"⟩, ⟨[' '], "\t#\r."⟩, ⟨['o', 'x', '\r'], ""⟩]
    let files : Files := ⟨[(["keys"], .file "ox\r\t a\tb\n \t\t#\r.\nox\r\t\n".toUTF8)]⟩
    (∀ entry ∈ entries, entry.Writable) ∧
      ((Trie.empty {}).run [.insert [] "0" false]).2.isEmpty = true ∧
      files.readText "keys" = .ok (String.ofList (written entries)) ∧
      ∃ loaded,
        load files "keys" ((Trie.empty {}).run [.insert [] "0" false]).2 true = .ok loaded ∧
          loaded.report = { inserted := 2, replaced := 1, rejected := 0 } ∧
          loaded.trie.find ['o', 'x', '\r'] = .ok (some "") ∧
          loaded.trie.find [' '] = .ok (some "\t#\r.") ∧
          loaded.trie.find ['o', 'x'] = .ok none := by
  intro entries files
  have writable : ∀ entry ∈ entries, entry.Writable := by
    intro entry member
    simp only [entries, List.mem_cons, List.not_mem_nil, or_false] at member
    rcases member with rfl | rfl | rfl
    · exact ⟨by decide, by decide, by decide, by decide, by decide, by decide, 'o', by decide, rfl⟩
    · exact ⟨by decide, by decide, by decide, by decide, by decide, by decide, '#', by decide, rfl⟩
    · exact ⟨by decide, by decide, by decide, by decide, by decide, by decide, 'o', by decide, rfl⟩
  have sensitive : ({} : Config).caseSensitive = true := rfl
  have readable : files.readText "keys" = .ok (String.ofList (written entries)) := by
    decide +kernel
  obtain ⟨loaded, loads, report, finds, _⟩ :=
    written_loads_back writable sensitive rfl [.insert [] "0" false] rfl files "keys" readable
  exact ⟨writable, rfl, readable, loaded, loads, report, finds _ (by decide), finds _ (by decide),
    finds _ (by decide)⟩

end RadixForest.KeyFile
