import RadixForest.Cli.Run
import RadixForest.Proofs.KeyFile.Loading
import RadixForest.Proofs.Log.Filters
import RadixForest.Proofs.Settings.Layers
import RadixForest.Proofs.Trie.Dispatch
import RadixForest.Proofs.Trie.Rendering

/-!
What the load command prints. The report and the statistics of one run agree, and every look-up is
answered from the lines of the key file.
-/

namespace RadixForest

theorem KeyFile.twins_enter {one other : Trie String} {forest : Trie.Forest String}
    (twins : Trie.Twins one other forest) (replace : Bool) (report : Report)
    (entries : List (Nat × Entry)) :
    (enter replace report one entries).report = (enter replace report other entries).report ∧
      ∃ grown, Trie.Twins (enter replace report one entries).trie
        (enter replace report other entries).trie grown := by
  induction entries generalizing report one other forest with
  | nil => exact ⟨rfl, forest, twins⟩
  | cons numbered rest ih =>
      obtain ⟨line, entry⟩ := numbered
      obtain ⟨outcome, _, grown, after⟩ := twins.insert entry.key entry.value replace
      simp only [enter, outcome]
      exact ih after _

namespace Cli

open KeyFile Trie

structure Job where
  keys : String
  lookup : List String
  replace : Bool
  dump : Bool

def Asks (words : List String) (world : World) (job : Job) (settings : Settings) : Prop :=
  ∃ config, request words =
      .run { config, command := .load job.keys job.lookup job.replace job.dump } ∧
    Settings.Loader.load { path := config, order := world.order } world.files world.environment =
      .ok (.ok settings)

/-- No rule of the filter that the environment gives has a part that starts or ends within a
character. -/
def Loggable (world : World) : Prop :=
  ∀ given, world.environment.find? (·.1 == "RUST_LOG") = some given →
    Log.Filter.ofText world.isPattern given.2 ≠ .error .splitsCharacter

def answerLine (config : Config) (replace : Bool) (entries : List (Nat × Entry)) (key : String) :
    String :=
  let values := offers config key.toList entries
  let answer :=
    match Dictionary.name config key.toList with
    | .error cause => "(error: " ++ cause.message ++ ")"
    | .ok _ => (if replace then values.getLast? else values.head?).getD "(not found)"
  key ++ "\t" ++ answer ++ "\n"

theorem ofText_level (isPattern : List Char → Bool) {level : String}
    (known : level ∈ LogSettings.levels) : (Log.Filter.ofText isPattern level).toOption.isSome := by
  simp only [LogSettings.levels, List.mem_cons, List.not_mem_nil, or_false] at known
  rcases known with rfl | rfl | rfl | rfl | rfl <;> rfl

theorem filterFor?_isSome {world : World} (loggable : Loggable world) {settings : Settings}
    (valid : settings.validate = .ok ()) : (filterFor? world settings.log).isSome := by
  have level : (Log.Filter.ofText world.isPattern settings.log.level).toOption.isSome := by
    rw [Settings.validate_eq] at valid
    split at valid
    · cases valid
    · split at valid
      · rename_i known
        exact ofText_level world.isPattern known
      · cases valid
  unfold filterFor?
  cases given : world.environment.find? (·.1 == "RUST_LOG") with
  | none => exact level
  | some found =>
      have whole := loggable found given
      simp only [Option.map_some]
      cases filter : Log.Filter.ofText world.isPattern found.2 with
      | ok filter => rfl
      | error fault =>
          cases fault with
          | malformed => exact level
          | splitsCharacter => exact absurd filter whole

theorem run_of_asks {words : List String} {world : World} {job : Job} {settings : Settings}
    (asks : Asks words world job settings) (loggable : Loggable world) :
    let effect := runLoad world.files settings job.keys job.lookup job.replace job.dump
    (run words world).code = effect.ending.code ∧ (run words world).output = effect.output := by
  obtain ⟨config, asked, loads⟩ := asks
  obtain ⟨filter, found⟩ := Option.isSome_iff_exists.mp
    (filterFor?_isSome loggable (Settings.validate_of_load loads))
  simp only [run, asked, runWithSettings, loads, underLog, found]
  exact ⟨trivial, trivial⟩

theorem run_unreadable {words : List String} {world : World} {job : Job} {settings : Settings}
    (asks : Asks words world job settings) (loggable : Loggable world) {cause : ReadError}
    (unreadable : world.files.readText job.keys = .error cause) :
    (run words world).code = 1 ∧ (run words world).output = "" := by
  obtain ⟨code, output⟩ := run_of_asks asks loggable
  rw [code, output, runLoad, KeyFile.load, unreadable]
  exact ⟨rfl, rfl⟩

theorem run_readable {words : List String} {world : World} {job : Job} {settings : Settings}
    (asks : Asks words world job settings) (loggable : Loggable world) {text : String}
    (readable : world.files.readText job.keys = .ok text) :
    let load := loadText job.keys text.toList (Trie.empty settings.trie.toConfig) job.replace
    let dumped := if job.dump then load.trie.render Text.quoted else .ok ""
    (∀ dump, dumped = .ok dump → (run words world).code = 0 ∧
      (run words world).output = summary load job.lookup ++ dump) ∧
    (∀ panic, dumped = .error panic → (run words world).code = 101 ∧
      (run words world).output = summary load job.lookup) := by
  intro load dumped
  obtain ⟨code, output⟩ := run_of_asks asks loggable
  have loads : KeyFile.load world.files job.keys (Trie.empty settings.trie.toConfig) job.replace =
      .ok load := by
    rw [KeyFile.load, readable]
    rfl
  rw [code, output, runLoad, loads]
  constructor
  · intro dump made
    simp only [dumped] at made
    simp only [made]
    exact ⟨rfl, trivial⟩
  · intro panic broken
    simp only [dumped] at broken
    simp only [broken]
    exact ⟨rfl, trivial⟩

theorem settled_none (replace : Bool) (values : List String) :
    settled replace values none = if replace then values.getLast? else values.head? := by
  cases replace <;> simp [settled]

theorem lookupLine_eq {config : Config} {replace : Bool} {path : String}
    {entries : List (Nat × Entry)} {load : Load}
    (accounted : Accounted (Trie.empty config) replace path entries load) (key : String) :
    lookupLine load.trie key = answerLine config replace entries key := by
  have found : load.trie.find key.toList =
      ((Dictionary.name config key.toList).map fun _ => none).map
        (settled replace (offers config key.toList entries)) := by
    rw [accounted.find, (Mirrors.empty config).find]
    rfl
  unfold lookupLine answerLine
  rw [found]
  cases Dictionary.name config key.toList with
  | error cause => rfl
  | ok name =>
      simp only [Except.map, ← settled_none]
      cases settled replace (offers config key.toList entries) none <;> rfl

theorem summary_eq {config : Config} {replace : Bool} {path : String}
    {entries : List (Nat × Entry)} {load : Load}
    (accounted : Accounted (Trie.empty config) replace path entries load) (lookup : List String) :
    let trie := ((Trie.empty config).run ((insertions replace entries).map (·.operation))).2
    summary load lookup = reportLine load.report ++ trie.stats.text ++ "\n" ++
      String.join (lookup.map (answerLine config replace entries)) := by
  intro trie
  rw [summary, funext (lookupLine_eq accounted), accounted.trie]

theorem keys_stats_eq {config : Config} {replace : Bool} {path : String}
    {entries : List (Nat × Entry)} {load : Load}
    (accounted : Accounted (Trie.empty config) replace path entries load) :
    load.trie.stats.keys = load.report.inserted := by
  have mirrors := (run_mirrors config ((insertions replace entries).map (·.operation))).2
  rw [← accounted.trie] at mirrors
  obtain ⟨_, forest, stands, _⟩ := mirrors
  rw [stands.keys_stats, accounted.size]
  exact Nat.zero_add _

theorem summary_twins {one other : Load} {forest : Forest String}
    (twins : Twins one.trie other.trie forest) (report : one.report = other.report)
    (lookup : List String) : summary one lookup = summary other lookup := by
  have lines : lookupLine one.trie = lookupLine other.trie := by
    funext key
    simp only [lookupLine, twins.find]
  simp only [summary, lines, report, stats, twins.walk]

theorem run_twins {words words' : List String} {world world' : World} {job : Job}
    {settings settings' : Settings} (asks : Asks words world job settings)
    (asks' : Asks words' world' job settings') (loggable : Loggable world)
    (loggable' : Loggable world') {text : String}
    (readable : world.files.readText job.keys = .ok text)
    (readable' : world'.files.readText job.keys = .ok text)
    (same : settings'.trie = { settings.trie with dispatch := settings'.trie.dispatch }) :
    (run words' world').code = (run words world).code ∧
      (run words' world').output = (run words world).output := by
  have normalize : settings'.trie.toConfig.normalize = settings.trie.toConfig.normalize := by
    rw [same]
    rfl
  let one := loadText job.keys text.toList (Trie.empty settings.trie.toConfig) job.replace
  let other := loadText job.keys text.toList (Trie.empty settings'.trie.toConfig) job.replace
  obtain ⟨report, _, twins⟩ :=
    twins_enter (Twins.empty normalize) job.replace {} (KeyFile.entries text.toList)
  have start : summary other job.lookup = summary one job.lookup :=
    summary_twins twins report job.lookup
  have dumps : other.trie.render Text.quoted = one.trie.render Text.quoted :=
    twins.walk List.reverse 0 (Sight.extend Text.quoted) (.ok "")
  obtain ⟨prints, breaks⟩ := run_readable asks loggable readable
  obtain ⟨prints', breaks'⟩ := run_readable asks' loggable' readable'
  simp only [one, other] at start dumps
  rw [dumps, start] at prints' breaks'
  cases dumped : (if job.dump then _ else .ok "" : Except Panic String) with
  | ok dump =>
      obtain ⟨code, output⟩ := prints dump dumped
      obtain ⟨code', output'⟩ := prints' dump dumped
      exact ⟨code'.trans code.symm, output'.trans output.symm⟩
  | error panic =>
      obtain ⟨code, output⟩ := breaks panic dumped
      obtain ⟨code', output'⟩ := breaks' panic dumped
      exact ⟨code'.trans code.symm, output'.trans output.symm⟩

/-- A load prints its report, the statistics and an answer to each look-up; then the trie if it is
to be dumped, unless that is too deep to be shown. -/
theorem load_consistent {words : List String} {world : World} {job : Job} {settings : Settings}
    (asks : Asks words world job settings) (loggable : Loggable world) :
    (∀ cause, world.files.readText job.keys = .error cause →
      (run words world).code = 1 ∧ (run words world).output = "") ∧
    ∀ text, world.files.readText job.keys = .ok text →
      let config := settings.trie.toConfig
      let entries := numbered text.toList
      let trie :=
        ((Trie.empty config).run ((insertions job.replace entries).map (·.operation))).2
      (∃ report,
        let start := reportLine report ++ trie.stats.text ++ "\n" ++
          String.join (job.lookup.map (answerLine config job.replace entries))
        (job.dump = false → (run words world).code = 0 ∧ (run words world).output = start) ∧
        (job.dump = true → trie.stats.maxDepth ≤ 32768 →
          ∃ dump, trie.render Text.quoted = .ok dump ∧
            (run words world).code = 0 ∧ (run words world).output = start ++ dump) ∧
        (job.dump = true → 32768 < trie.stats.maxDepth →
          (run words world).code = 101 ∧ (run words world).output = start) ∧
        trie.stats.keys = report.inserted ∧
        report.inserted + report.replaced + report.rejected = entries.length ∧
        (job.replace = false → report.replaced = 0) ∧
        report.rejected = (moments job.replace (Trie.empty config) entries).countP fun moment =>
          (moment.refusal job.replace).isSome) ∧
      ∀ words' world' settings', Asks words' world' job settings' → Loggable world' →
        world'.files.readText job.keys = .ok text →
        settings'.trie = { settings.trie with dispatch := settings'.trie.dispatch } →
        (run words' world').code = (run words world).code ∧
          (run words' world').output = (run words world).output := by
  refine ⟨fun cause => run_unreadable asks loggable, fun text readable => ?_⟩
  have accounted : Accounted (Trie.empty settings.trie.toConfig) job.replace job.keys
      (numbered text.toList)
      (loadText job.keys text.toList (Trie.empty settings.trie.toConfig) job.replace) := by
    have mirrors : Mirrors settings.trie.toConfig
        (Trie.empty settings.trie.toConfig : Trie String) [] := .empty _
    rw [loadText, entries_eq_numbered]
    exact accounted_enter mirrors job.replace job.keys _ rfl
  obtain ⟨prints, breaks⟩ := run_readable asks loggable readable
  simp only [summary_eq accounted, accounted.trie] at prints breaks
  intro config entries trie
  obtain ⟨_, forest, stands, _⟩ :=
    (run_mirrors config ((insertions job.replace entries).map (·.operation))).2
  have rendered : trie.render Text.quoted =
      if trie.stats.maxDepth ≤ 32768 then .ok (String.ofList (forest.shape.text Text.quoted 0))
      else .error .paddingTooWide :=
    stands.render Text.quoted
  refine ⟨⟨_, fun plain => ?_, fun dump shallow => ?_, fun dump deep => ?_, ?_, accounted.total,
    accounted.replaced, accounted.rejected⟩, ?_⟩
  · obtain ⟨code, output⟩ := prints "" (by simp [plain])
    exact ⟨code, output.trans (String.append_empty ..)⟩
  · rw [if_pos shallow] at rendered
    exact ⟨_, rendered, prints _ (by rw [if_pos dump, rendered])⟩
  · rw [if_neg (Nat.not_le.mpr deep)] at rendered
    exact breaks _ (by rw [if_pos dump, rendered])
  · rw [← keys_stats_eq accounted, accounted.trie]
  · intro words' world' settings' asks' loggable' readable'
    exact run_twins asks asks' loggable loggable' readable readable'

theorem load_consistent_over_cased_keys :
    let words := ["load", "-k", "k", "-l", "OX", "-l", "", "-l", "emu", "--no-replace", "--dump"]
    let files : Files := ⟨[(["k"], .file "Ox\tbig\nox\n\nelk\n".toUTF8)]⟩
    let world : World :=
      { environment := [("RUST_LOG", "é=warn, off"), ("LANAI__TRIE__CASE_SENSITIVE", "false")]
        files }
    let walked : World :=
      { environment := [("LANAI__TRIE__DISPATCH", "linear"),
          ("LANAI__TRIE__CASE_SENSITIVE", "false")]
        files }
    ((run ["load", "-k", "x"] world).code = 1 ∧ (run ["load", "-k", "x"] world).output = "") ∧
      (run words world).code = 0 ∧ (run words walked).output = (run words world).output := by
  intro words files world walked
  have loggable : Loggable world := by
    intro given found
    cases Option.some.inj found
    exact Log.Filter.ofText_whole (by decide +kernel)
  have quiet : Loggable walked := by
    intro given found
    cases found
  have absent : Asks ["load", "-k", "x"] world ⟨"x", [], true, false⟩
      { trie := { caseSensitive := false } } :=
    ⟨none, by decide +kernel, by decide +kernel⟩
  have indexed : Asks words world ⟨"k", ["OX", "", "emu"], false, true⟩
      { trie := { caseSensitive := false } } :=
    ⟨none, by decide +kernel, by decide +kernel⟩
  have linear : Asks words walked ⟨"k", ["OX", "", "emu"], false, true⟩
      { trie := { caseSensitive := false, dispatch := .linear } } :=
    ⟨none, by decide +kernel, by decide +kernel⟩
  have readable : files.readText "k" = .ok "Ox\tbig\nox\n\nelk\n" := by decide +kernel
  have missing : files.readText "x" = .error .notFound := by decide +kernel
  obtain ⟨⟨report, _, shown, _⟩, same⟩ := (load_consistent indexed loggable).2 _ readable
  have short := maxDepth_le { caseSensitive := false } ((insertions false
    (numbered "Ox\tbig\nox\n\nelk\n".toList)).map (·.operation)) 3 (by decide +kernel)
  obtain ⟨_, _, code, _⟩ := shown rfl (Nat.le_trans short (by decide))
  exact ⟨(load_consistent absent loggable).1 _ missing, code,
    (same words walked _ linear quiet readable rfl).2⟩

/-- The parts of a rule are looked for without the blanks around it and taken out with them, which
here ends a part in the middle of a character. -/
theorem load_stopped_by_log_filter :
    let world : World :=
      { environment := [("RUST_LOG", " aé=info")], files := ⟨[(["k"], .file "cat\n".toUTF8)]⟩ }
    Asks ["load", "-k", "k"] world ⟨"k", [], true, false⟩ {} ∧
      world.files.readText "k" = .ok "cat\n" ∧
      (run ["load", "-k", "k"] world).code = 101 ∧
      (run ["load", "-k", "k"] world).output = "" := by
  intro world
  have asks : Asks ["load", "-k", "k"] world ⟨"k", [], true, false⟩ {} :=
    ⟨none, by decide +kernel, by decide +kernel⟩
  exact ⟨asks, by decide +kernel, by decide +kernel, by decide +kernel⟩

end Cli

end RadixForest
