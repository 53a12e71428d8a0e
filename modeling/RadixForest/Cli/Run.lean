import RadixForest.Cli.Arguments
import RadixForest.Failure
import RadixForest.Log.Events
import RadixForest.Log.Filter
import RadixForest.Settings.Written
import RadixForest.Trie.Walk

/-!
The program: a run takes the words of the command line, the environment and the files, and answers
with what is printed, what is logged, and the files after it. A run that is broken off keeps what it
has printed until then.
-/

namespace RadixForest.Cli

structure World where
  environment : List (String × String)
  files : Files
  order : Settings.Order := {}
  -- What the matcher of the log takes for a regular expression.
  isPattern : List Char → Bool := Log.isPattern

structure Aside where
  json : Bool := false
  records : List Log.Record := []
  text : String := ""

structure Outcome where
  code : Nat
  output : String := ""
  aside : Aside := {}
  files : Files

def versionText : String := "lanai 0.1.0\n"

def helpText : String :=
  "\n".intercalate [
    "Usage: lanai [OPTIONS] <COMMAND>",
    "",
    "Commands:",
    "  load        Build a trie from a key file and query it",
    "  validate    Validate the configuration file",
    "  gen-config  Generate a default configuration file",
    "  help        Print this message or the help of the given command",
    "",
    "Options:",
    "  -c, --config <CONFIG>  Path to configuration file",
    "  -h, --help             Print help",
    "  -V, --version          Print version",
    ""]

def say (message : String) (details : List (String × Log.Detail)) : Log.Record :=
  { level := .info, source := .program, message, details }

/-- The filter in force: the environment's if it has one, and where that is malformed or absent the
configured level. There is none if a rule splits a character. -/
def filterFor? (world : World) (log : LogSettings) : Option Log.Filter :=
  let read := Log.Filter.ofText world.isPattern
  match (world.environment.find? (·.1 == "RUST_LOG")).map (read ·.2) with
  | some (.ok filter) => some filter
  | some (.error .splitsCharacter) => none
  | some (.error .malformed) | none => (read log.level).toOption

inductive Ending
  | done
  | failed (failure : Failure)
  | panicked (panic : Panic)

def Ending.code : Ending → Nat
  | .done => 0
  | .failed _ => 1
  | .panicked _ => 101

structure Effect where
  output : String := ""
  records : List Log.Record := []
  ending : Ending := .done
  files : Files

/-- Runs a command under a log. A failure is the last thing logged. Without a filter for the log
nothing is run. -/
def underLog (world : World) (log : LogSettings) (effect : Effect) : Outcome :=
  match filterFor? world log with
  | none =>
    { code := 101, aside := { text := "a rule of the log filter splits a character\n" }
      files := world.files }
  | some filter =>
    let (reported, text) := match effect.ending with
      | .done => ([], "")
      | .failed failure =>
        ((Report.deliver { failure, component := "lanai" } (some .log)).records, "")
      | .panicked panic => ([], panic.message ++ "\n")
    { code := effect.ending.code
      output := effect.output
      aside :=
        { json := log.json, records := (effect.records ++ reported).filter filter.keeps, text }
      files := effect.files }

def reportLine (report : KeyFile.Report) : String :=
  toString report.inserted ++ " inserted, " ++ toString report.replaced ++ " replaced, " ++
    toString report.rejected ++ " rejected\n"

def lookupLine (trie : Trie String) (key : String) : String :=
  key ++ "\t" ++
    (match trie.find key.toList with
      | .ok (some value) => value
      | .ok none => "(not found)"
      | .error cause => "(error: " ++ cause.message ++ ")") ++ "\n"

def summary (load : KeyFile.Load) (lookup : List String) : String :=
  reportLine load.report ++ load.trie.stats.text ++ "\n" ++
    String.join (lookup.map (lookupLine load.trie))

def runLoad (files : Files) (settings : Settings) (keys : String) (lookup : List String)
    (replace dump : Bool) : Effect :=
  let opening := say "Loading key file" [("keys", .text keys)]
  match KeyFile.load files keys (Trie.empty settings.trie.toConfig) replace with
  | .error cause => { records := [opening], ending := .failed (.ofRead cause), files }
  | .ok load =>
    let output := summary load lookup
    let records := opening :: load.events.map (·.record)
    match if dump then load.trie.render Text.quoted else .ok "" with
    | .error panic => { output, records, ending := .panicked panic, files }
    | .ok dumped =>
      let (nodes, events) := load.trie.destroy
      { output := output ++ dumped
        records := records ++ events.map (·.record) ++
          [say "trie released" [("nodes", .number nodes)]]
        files }

def runValidate (files : Files) : Effect :=
  { output := "configuration is valid\n"
    records := [say "Configuration validated successfully" []]
    files }

def runGenConfig (files : Files) (output : String) : Effect :=
  let opening := say "Generating default configuration" []
  match files.makeDirectories? (Files.start output) (Path.parts output).dropLast with
  | none =>
    { records := [opening], ending := .failed (.io "a directory cannot be made"), files }
  | some files =>
    match files.write? output (Settings.written {}) with
    | none => { records := [opening], ending := .failed (.io "the file cannot be written"), files }
    | some files =>
      { records := [opening,
          say ("Default configuration written to " ++ Text.quoted output) []]
        files }

def runWithSettings (world : World) (config : Option String)
    (command : Settings → Effect) : Outcome :=
  let loader : Settings.Loader := { path := config, order := world.order }
  match loader.load world.files world.environment with
  | .error panic =>
    { code := 101, aside := { text := panic.message ++ "\n" }, files := world.files }
  | .ok (.error cause) =>
    { code := 1
      aside := { text := Report.text { failure := .settings cause, component := "lanai" } ++ "\n" }
      files := world.files }
  | .ok (.ok settings) => underLog world settings.log (command settings)

def run (words : List String) (world : World) : Outcome :=
  let files := world.files
  match request words with
  | .help => { code := 0, output := helpText, files }
  | .version => { code := 0, output := versionText, files }
  | .misuse text =>
    { code := 2, aside := { text := "error: " ++ text ++ "\n\n" ++ helpText }, files }
  | .run { config, command } =>
    match command with
    | .load keys lookup replace dump =>
      runWithSettings world config fun settings =>
        runLoad files settings keys lookup replace dump
    | .validate => runWithSettings world config fun _ => runValidate files
    | .genConfig output => underLog world {} (runGenConfig files output)

end RadixForest.Cli
