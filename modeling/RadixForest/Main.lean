import RadixForest.Cli.Run

/-!
The command line program. It gathers what a run needs from the system, and carries out what the
run answers.
-/

namespace RadixForest.Cli

def waysTo (path : String) : List (List String) :=
  let parts := Path.parts path
  (List.range parts.length).map fun n => parts.take (n + 1)

def pathsOf : Request → List String
  | .run { config, command } =>
    config.toList.flatMap (fun path =>
      [Settings.Format.toml, .json, .yaml].flatMap (Settings.candidates path)) ++
      match command with
      | .load keys .. => [keys]
      | .genConfig output => [output]
      | .validate => []
  | _ => []

def entryAt (names : List String) : IO (Option Files.Entry) := do
  try
    return some (.file (← IO.FS.readBinFile (Path.join names)))
  catch
    | .noFileOrDirectory .. => return none
    | .inappropriateType .. => return none
    | _ => return some .directory

def gather (request : Request) : IO Files := do
  let mut entries := []
  for names in (pathsOf request).flatMap waysTo do
    if let some entry ← entryAt names then
      entries := (names, entry) :: entries
  return ⟨entries⟩

def environment : IO (List (String × String)) := do
  let bytes ← IO.FS.readBinFile "/proc/self/environ"
  let text := (String.fromUTF8? bytes).getD ""
  return (text.toList.splitOn '\x00').filterMap fun entry =>
    match entry.span (· != '=') with
    | (name, _ :: value) => some (String.ofList name, String.ofList value)
    | _ => none

def detailText : Log.Detail → String
  | .text s => s
  | .number n => toString n

def recordLine (record : Log.Record) : String :=
  let details := record.details.map fun detail => " " ++ detail.1 ++ "=" ++ detailText detail.2
  record.level.name ++ " " ++ record.source.name ++ ": " ++ record.message ++ String.join details

def jsonText (s : String) : String :=
  let escape (c : Char) : String :=
    if c = '"' then "\\\"" else if c = '\\' then "\\\\"
    else if c.toNat < 0x20 then
      "\\u" ++ String.ofList (Document.Toml.fourHexDigits c.toNat)
    else c.toString
  "\"" ++ String.join (s.toList.map escape) ++ "\""

def recordJson (record : Log.Record) : String :=
  let detail : String × Log.Detail → String
    | (name, .text s) => "," ++ jsonText name ++ ":" ++ jsonText s
    | (name, .number n) => "," ++ jsonText name ++ ":" ++ toString n
  "\x7b\"level\":" ++ jsonText record.level.name ++
    ",\"fields\":\x7b\"message\":" ++ jsonText record.message ++
    String.join (record.details.map detail) ++ "\x7d,\"target\":" ++ jsonText record.source.name ++
    "\x7d"

/-- Writes the files that a run has changed. -/
def store (request : Request) (before after : Files) : IO Unit := do
  match request with
  | .run { command := .genConfig output, .. } =>
    if after.entries.length != before.entries.length || !before.isFile output then
      let directories := (Path.parts output).dropLast
      if !directories.isEmpty then IO.FS.createDirAll (Path.join directories)
    if let .ok text := after.readText output then IO.FS.writeFile output text
  | _ => pure ()

end RadixForest.Cli

def main (words : List String) : IO UInt32 := do
  let asked := RadixForest.Cli.request words
  let files ← RadixForest.Cli.gather asked
  let outcome := RadixForest.Cli.run words { environment := ← RadixForest.Cli.environment, files }
  RadixForest.Cli.store asked files outcome.files
  IO.print outcome.output
  for record in outcome.aside.records do
    IO.eprintln (if outcome.aside.json then RadixForest.Cli.recordJson record
      else RadixForest.Cli.recordLine record)
  IO.eprint outcome.aside.text
  return outcome.code.toUInt32
