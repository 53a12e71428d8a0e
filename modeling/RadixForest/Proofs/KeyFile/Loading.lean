import RadixForest.KeyFile
import RadixForest.Log.Events
import RadixForest.Proofs.Trie.Inserting

/-!
What a load of a key file comes to. It inserts the entries of the file one after the other, counts
each of them once, and leaves each key with the value that the first or the last of its entries
gives it.
-/

namespace RadixForest.KeyFile

open Trie

def numbered (text : List Char) : List (Nat × Entry) :=
  ((lines text).zipIdx 1).filterMap fun line =>
    (parseLine line.2 line.1).map fun entry => (line.2, entry)

def insertions (replace : Bool) (entries : List (Nat × Entry)) : List (Insert String) :=
  entries.map fun entry => ⟨entry.2.key, entry.2.value, replace⟩

structure Moment where
  line : Nat
  entry : Entry
  trie : Trie String

def Moment.insertion (replace : Bool) (moment : Moment) : Insertion String :=
  moment.trie.insert moment.entry.key moment.entry.value replace

def moments (replace : Bool) : Trie String → List (Nat × Entry) → List Moment
  | _, [] => []
  | trie, (line, entry) :: rest =>
    let moment : Moment := ⟨line, entry, trie⟩
    moment :: moments replace (moment.insertion replace).trie rest

def holds (trie : Trie String) (key : Key) : Bool :=
  match trie.contains key with
  | .ok held => held
  | .error _ => false

def Moment.refusal (replace : Bool) (moment : Moment) : Option KeyError :=
  match Dictionary.name moment.trie.config moment.entry.key with
  | .error cause => some cause
  | .ok name =>
    if !replace && holds moment.trie moment.entry.key then some (.duplicateKey name) else none

/-- The values that the entries for a key give it, in order. -/
def offers (config : Config) (key : Key) (entries : List (Nat × Entry)) : List String :=
  (entries.filter fun entry =>
    Dictionary.name config entry.2.key = Dictionary.name config key).map fun entry => entry.2.value

/-- What a key is bound to after its entries made their offers: the last one replaces what was
there, or else the first one stays. -/
def settled (replace : Bool) (offers : List String) (old : Option String) : Option String :=
  if replace then offers.getLast?.or old else old.or offers.head?

structure Accounted (before : Trie String) (replace : Bool) (path : String)
    (entries : List (Nat × Entry)) (load : Load) : Prop where
  total : load.report.inserted + load.report.replaced + load.report.rejected = entries.length
  trie : load.trie =
    (before.run ((insertions replace entries).map (·.operation))).2
  size : load.trie.size = before.size + load.report.inserted
  replaced : replace = false → load.report.replaced = 0
  rejected : load.report.rejected =
    (moments replace before entries).countP fun moment => (moment.refusal replace).isSome
  find : ∀ key, load.trie.find key =
    (before.find key).map (settled replace (offers before.config key entries))
  events : load.events = ((moments replace before entries).flatMap fun moment =>
    (moment.insertion replace).events.map .inTrie ++
      ((moment.refusal replace).map (.skipped moment.line)).toList) ++ [.loaded path load.report]
  warnings : (load.events.map (·.record)).filter (·.level == .warn) =
    (moments replace before entries).filterMap fun moment =>
      (moment.refusal replace).map fun cause => (Event.skipped moment.line cause).record

theorem entriesFrom_eq (number : Nat) (lines : List (List Char)) :
    entriesFrom number lines = (lines.zipIdx number).filterMap fun line =>
      (parseLine line.2 line.1).map fun entry => (line.2, entry) := by
  induction lines generalizing number with
  | nil => rfl
  | cons line rest ih =>
      rw [entriesFrom, List.zipIdx_cons, List.filterMap_cons]
      cases parseLine number line with
      | none => exact ih (number + 1)
      | some entry => exact congrArg _ (ih (number + 1))

theorem entries_eq_numbered (text : List Char) : entries text = numbered text :=
  entriesFrom_eq 1 (lines text)

section Step

variable {config : Config} {trie : Trie String} {bindings : Bindings String}

theorem holds_eq (mirrors : Mirrors config trie bindings) {key name : Key}
    (named : Dictionary.name config key = .ok name) :
    holds trie key = (bindings.lookup name).isSome := by
  simp only [holds, contains, mirrors.find, named]
  rfl

theorem holds_eq_false {moment : Moment} (accepted : moment.refusal false = none) :
    holds moment.trie moment.entry.key = false := by
  unfold Moment.refusal at accepted
  split at accepted
  · cases accepted
  · simpa using accepted

theorem outcome_eq (mirrors : Mirrors config trie bindings) (line : Nat) (entry : Entry)
    (replace : Bool) :
    (trie.insert entry.key entry.value replace).outcome =
      match Moment.refusal replace ⟨line, entry, trie⟩ with
      | some cause => .error cause
      | none => .ok (!holds trie entry.key) := by
  have answer := (mirrors.insert entry.key entry.value replace).1.trans
    (Dictionary.perform_insert config bindings ⟨entry.key, entry.value, replace⟩)
  rw [Answer.inserted.injEq] at answer
  simp only [answer, Insert.outcome, Moment.refusal, mirrors.config]
  cases named : Dictionary.name config entry.key with
  | error cause => rfl
  | ok name =>
      simp only [holds_eq mirrors named]
      cases bindings.lookup name with
      | none => simp
      | some old => cases replace <;> rfl

theorem find_insert (mirrors : Mirrors config trie bindings) (entry : Entry) (replace : Bool)
    (key : Key) :
    (trie.insert entry.key entry.value replace).trie.find key =
      (trie.find key).map fun old =>
        if Dictionary.name config entry.key = Dictionary.name config key then
          Insert.offer ⟨entry.key, entry.value, replace⟩ old
        else old := by
  have after := (mirrors.insert entry.key entry.value replace).2
  have lookup := Dictionary.lookup_perform_insert config bindings ⟨entry.key, entry.value, replace⟩
  simp only [Insert.operation] at lookup
  rw [after.find, mirrors.find]
  cases named : Dictionary.name config key with
  | error cause => rfl
  | ok name => exact congrArg Except.ok (lookup name)

theorem size_insert (mirrors : Mirrors config trie bindings) (entry : Entry) (replace : Bool) :
    (trie.insert entry.key entry.value replace).trie.size =
      trie.size +
        if (trie.insert entry.key entry.value replace).outcome = .ok true then 1 else 0 := by
  have answer := (mirrors.insert entry.key entry.value replace).1.trans
    (Dictionary.perform_insert config bindings ⟨entry.key, entry.value, replace⟩)
  have length := Dictionary.length_perform_insert config bindings ⟨entry.key, entry.value, replace⟩
  rw [Answer.inserted.injEq] at answer
  rw [(mirrors.insert entry.key entry.value replace).2.size, mirrors.size, answer]
  exact length

end Step

section Run

variable {config : Config} {trie : Trie String} {bindings : Bindings String}

theorem mirrors_of_mem_moments (replace : Bool) (mirrors : Mirrors config trie bindings)
    (entries : List (Nat × Entry)) :
    ∀ moment ∈ moments replace trie entries, ∃ bindings, Mirrors config moment.trie bindings := by
  induction entries generalizing trie bindings with
  | nil => simp [moments]
  | cons numbered rest ih =>
      obtain ⟨line, entry⟩ := numbered
      intro moment member
      rcases List.mem_cons.mp member with rfl | later
      · exact ⟨bindings, mirrors⟩
      · exact ih (mirrors.insert entry.key entry.value replace).2 moment later

theorem enter_trie (replace : Bool) (report : Report) (trie : Trie String)
    (entries : List (Nat × Entry)) :
    (enter replace report trie entries).trie =
      (trie.run ((insertions replace entries).map (·.operation))).2 := by
  induction entries generalizing report trie with
  | nil => rfl
  | cons numbered rest ih =>
      obtain ⟨line, entry⟩ := numbered
      exact ih _ _

theorem settled_cons (replace : Bool) (key : Key) (value : String) (rest : List String)
    (old : Option String) :
    settled replace (value :: rest) old =
      settled replace rest (Insert.offer ⟨key, value, replace⟩ old) := by
  cases replace with
  | true => cases last : rest.getLast? <;> simp [settled, Insert.offer, List.getLast?_cons, last]
  | false => cases old <;> simp [settled, Insert.offer]

theorem offers_cons (config : Config) (key : Key) (line : Nat) (entry : Entry)
    (rest : List (Nat × Entry)) :
    offers config key ((line, entry) :: rest) =
      if Dictionary.name config entry.key = Dictionary.name config key then
        entry.value :: offers config key rest
      else offers config key rest := by
  simp only [offers, List.filter_cons, decide_eq_true_eq]
  split <;> rfl

theorem enter_find (replace : Bool) (report : Report) (mirrors : Mirrors config trie bindings)
    (entries : List (Nat × Entry)) (key : Key) :
    (enter replace report trie entries).trie.find key =
      (trie.find key).map (settled replace (offers config key entries)) := by
  induction entries generalizing report trie bindings with
  | nil =>
      have unchanged : settled replace [] = id := by
        funext old
        cases replace <;> simp [settled]
      rw [enter, offers, List.filter_nil, List.map_nil, unchanged, Except.map_id, id]
  | cons numbered rest ih =>
      obtain ⟨line, entry⟩ := numbered
      have later := ih (report.count (trie.insert entry.key entry.value replace).outcome)
        (mirrors.insert entry.key entry.value replace).2
      rw [find_insert mirrors] at later
      refine later.trans ?_
      rw [offers_cons]
      cases trie.find key with
      | error cause => rfl
      | ok old =>
          refine congrArg Except.ok ?_
          by_cases same : Dictionary.name config entry.key = Dictionary.name config key
          · simp only [if_pos same, settled_cons replace entry.key]
          · simp only [if_neg same]

theorem enter_report (replace : Bool) (report : Report) (trie : Trie String)
    (entries : List (Nat × Entry)) :
    (enter replace report trie entries).report =
      ((moments replace trie entries).map fun moment =>
        (moment.insertion replace).outcome).foldl Report.count report := by
  induction entries generalizing report trie with
  | nil => rfl
  | cons numbered rest ih =>
      obtain ⟨line, entry⟩ := numbered
      exact ih _ _

theorem enter_size (replace : Bool) (report : Report) (mirrors : Mirrors config trie bindings)
    (entries : List (Nat × Entry)) :
    (enter replace report trie entries).trie.size =
      trie.size + ((moments replace trie entries).map fun moment =>
        (moment.insertion replace).outcome).count (.ok true) := by
  induction entries generalizing report trie bindings with
  | nil => rfl
  | cons numbered rest ih =>
      obtain ⟨line, entry⟩ := numbered
      have later := ih (report.count (trie.insert entry.key entry.value replace).outcome)
        (mirrors.insert entry.key entry.value replace).2
      rw [size_insert mirrors] at later
      refine later.trans ?_
      simp only [moments, List.map_cons, List.count_cons, Moment.insertion, beq_iff_eq]
      omega

theorem toBool_error (cause : KeyError) :
    (Except.error cause : Except KeyError Bool).toBool = false :=
  rfl

theorem toBool_ok (fresh : Bool) : (Except.ok fresh : Except KeyError Bool).toBool = true := rfl

theorem foldl_count (outcomes : List (Except KeyError Bool)) (report : Report) :
    outcomes.foldl Report.count report =
      { inserted := report.inserted + outcomes.count (.ok true)
        replaced := report.replaced + outcomes.count (.ok false)
        rejected := report.rejected + outcomes.countP (!·.toBool) } := by
  induction outcomes generalizing report with
  | nil => rfl
  | cons outcome rest ih =>
      rw [List.foldl_cons, ih, List.countP_cons]
      rcases outcome with cause | (_ | _)
      · simp [Report.count, toBool_error, Nat.add_right_comm _ 1, Nat.add_assoc]
      · simp [Report.count, toBool_ok, Nat.add_right_comm _ 1, Nat.add_assoc]
      · simp [Report.count, toBool_ok, Nat.add_right_comm _ 1, Nat.add_assoc]

theorem length_eq_counts (outcomes : List (Except KeyError Bool)) :
    outcomes.count (.ok true) + outcomes.count (.ok false) + outcomes.countP (!·.toBool) =
      outcomes.length := by
  induction outcomes with
  | nil => rfl
  | cons outcome rest ih =>
      rw [List.countP_cons, List.length_cons, ← ih]
      rcases outcome with cause | (_ | _)
      · simp [toBool_error]
        omega
      · simp [toBool_ok]
        omega
      · simp [toBool_ok]
        omega

theorem length_moments (replace : Bool) (trie : Trie String) (entries : List (Nat × Entry)) :
    (moments replace trie entries).length = entries.length := by
  induction entries generalizing trie with
  | nil => rfl
  | cons numbered rest ih =>
      obtain ⟨line, entry⟩ := numbered
      exact congrArg (· + 1) (ih _)

theorem countP_refusals {config : Config} {trie : Trie String} {bindings : Bindings String}
    (mirrors : Mirrors config trie bindings) (entries : List (Nat × Entry)) :
    ((moments true trie entries).countP fun moment => (moment.refusal true).isSome) =
      entries.countP fun entry => !(Dictionary.name config entry.2.key).toBool := by
  induction entries generalizing trie bindings with
  | nil => rfl
  | cons numbered rest ih =>
      obtain ⟨line, entry⟩ := numbered
      have judged : (Moment.refusal true ⟨line, entry, trie⟩).isSome =
          !(Dictionary.name config entry.key).toBool := by
        rw [Moment.refusal, mirrors.config]
        cases Dictionary.name config entry.key <;> rfl
      rw [moments, List.countP_cons, List.countP_cons, judged]
      exact congrArg (· + _) (ih (mirrors.insert entry.key entry.value true).2)

theorem enter_events (replace : Bool) (report : Report) (trie : Trie String)
    (entries : List (Nat × Entry)) :
    (enter replace report trie entries).events =
      (moments replace trie entries).flatMap fun moment =>
        told moment.line (moment.insertion replace).outcome (moment.insertion replace).events := by
  induction entries generalizing report trie with
  | nil => rfl
  | cons numbered rest ih =>
      obtain ⟨line, entry⟩ := numbered
      rw [enter]
      simp only [ih]
      rfl

theorem told_eq (mirrors : Mirrors config trie bindings) (replace : Bool) (line : Nat)
    (entry : Entry) (events : List Trie.Event) :
    told line (trie.insert entry.key entry.value replace).outcome events =
      events.map .inTrie ++
        ((Moment.refusal replace ⟨line, entry, trie⟩).map (.skipped line)).toList := by
  rw [outcome_eq mirrors line]
  cases Moment.refusal replace ⟨line, entry, trie⟩ <;> rfl

theorem level_ne_warn (event : Trie.Event) : event.record.level ≠ .warn := by
  cases event <;> simp [Trie.Event.record]

theorem warnings_inTrie (events : List Trie.Event) :
    ((events.map Event.inTrie).map (·.record)).filter (·.level == .warn) = [] := by
  simp [Event.record, level_ne_warn]

end Run

theorem accounted_enter {trie : Trie String} {bindings : Bindings String}
    (mirrors : Mirrors trie.config trie bindings) (replace : Bool) (path : String)
    (entries : List (Nat × Entry)) {load : Load} (loaded : enter replace {} trie entries = load) :
    Accounted trie replace path entries
      { load with events := load.events ++ [.loaded path load.report] } := by
  -- Every count and every event is read off the moments, in each of which the outcome of the
  -- insertion is the refusal, or whether the key was held.
  have along := mirrors_of_mem_moments replace mirrors entries
  have report := (enter_report replace {} trie entries).trans (foldl_count _ {})
  have events := enter_events replace {} trie entries
  have size := enter_size replace {} mirrors entries
  simp only [loaded, List.countP_map, Nat.zero_add] at report events size
  have told : load.events = (moments replace trie entries).flatMap fun moment =>
      (moment.insertion replace).events.map .inTrie ++
        ((moment.refusal replace).map (.skipped moment.line)).toList := by
    refine events.trans (List.flatMap_congr fun moment member => ?_)
    obtain ⟨_, current⟩ := along moment member
    exact told_eq current replace moment.line moment.entry _
  exact
    { total := by
        have all := length_eq_counts ((moments replace trie entries).map fun moment =>
          (moment.insertion replace).outcome)
        rw [List.length_map, length_moments, List.countP_map] at all
        rw [report, ← all]
      trie := by
        rw [← loaded]
        exact enter_trie replace {} trie entries
      size := by
        rw [report]
        exact size
      replaced := by
        intro kept
        rw [report]
        refine List.count_eq_zero.mpr fun member => ?_
        obtain ⟨moment, reached, outcome⟩ := List.mem_map.mp member
        obtain ⟨_, current⟩ := along moment reached
        rw [Moment.insertion, outcome_eq current moment.line, kept] at outcome
        cases judged : moment.refusal false with
        | some cause => simp [judged] at outcome
        | none => simp [judged, holds_eq_false judged] at outcome
      rejected := by
        rw [report]
        refine List.countP_congr fun moment member => ?_
        obtain ⟨_, current⟩ := along moment member
        rw [Function.comp, Moment.insertion, outcome_eq current moment.line]
        cases Moment.refusal replace moment <;> simp [toBool_error, toBool_ok]
      find := by
        intro key
        rw [← loaded]
        exact enter_find replace {} mirrors entries key
      events := by
        rw [told]
      warnings := by
        rw [told, List.map_append, List.filter_append, List.map_flatMap, List.filter_flatMap,
          List.filterMap_eq_flatMap_toList]
        refine (List.append_nil _).trans (List.flatMap_congr fun moment _ => ?_)
        rw [List.map_append, List.filter_append, warnings_inTrie, List.nil_append]
        cases moment.refusal replace <;> rfl }

theorem accounted_loadText {trie : Trie String} {bindings : Bindings String}
    (mirrors : Mirrors trie.config trie bindings) (path : String) (text : List Char)
    (replace : Bool) :
    Accounted trie replace path (numbered text) (loadText path text trie replace) := by
  rw [loadText, entries_eq_numbered]
  exact accounted_enter mirrors replace path _ rfl

/-- A file that cannot be read loads nothing. Of one that can, every entry is inserted in its turn,
counted, and told of if it is refused. -/
theorem load_accounted (config : Config) (operations : List (Operation String)) (files : Files)
    (path : String) (replace : Bool) :
    (∀ cause, files.readText path = .error cause →
      load files path ((Trie.empty config).run operations).2 replace = .error cause) ∧
    ∀ text, files.readText path = .ok text →
      ∃ loaded, load files path ((Trie.empty config).run operations).2 replace = .ok loaded ∧
        Accounted ((Trie.empty config).run operations).2 replace path (numbered text.toList)
          loaded := by
  constructor
  · intro cause unreadable
    rw [load, unreadable]
    rfl
  · intro text readable
    have mirrors := (run_mirrors config operations).2
    generalize ((Trie.empty config).run operations).2 = trie at mirrors
    refine ⟨loadText path text.toList trie replace, ?_, ?_⟩
    · rw [load, readable]
      rfl
    · rw [loadText, entries_eq_numbered]
      exact accounted_enter (mirrors.config ▸ mirrors) replace path _ rfl

theorem load_accounted_of_refusals :
    ((⟨[]⟩ : Files).readText "keys" = .error .notFound ∧
      load ⟨[]⟩ "keys" ((Trie.empty { caseSensitive := false }).run []).2 false =
        .error .notFound) ∧
    (⟨[(["keys"], .file "Ox\n\nox\n\tx\n".toUTF8)]⟩ : Files).readText "keys" =
        .ok "Ox\n\nox\n\tx\n" ∧
      ∃ loaded,
        load ⟨[(["keys"], .file "Ox\n\nox\n\tx\n".toUTF8)]⟩ "keys"
            ((Trie.empty { caseSensitive := false }).run []).2 false = .ok loaded ∧
          Accounted ((Trie.empty { caseSensitive := false }).run []).2 false "keys"
            (numbered "Ox\n\nox\n\tx\n".toList) loaded := by
  have missing : (⟨[]⟩ : Files).readText "keys" = .error .notFound := by decide +kernel
  have readable : (⟨[(["keys"], .file "Ox\n\nox\n\tx\n".toUTF8)]⟩ : Files).readText "keys" =
      .ok "Ox\n\nox\n\tx\n" := by
    decide +kernel
  exact
    ⟨⟨missing, (load_accounted { caseSensitive := false } [] _ "keys" false).1 _ missing⟩,
      readable, (load_accounted { caseSensitive := false } [] _ "keys" false).2 _ readable⟩

end RadixForest.KeyFile
