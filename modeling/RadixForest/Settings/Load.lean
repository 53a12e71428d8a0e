import RadixForest.Document.Json.Reader
import RadixForest.Document.Toml.Tables
import RadixForest.Document.Yaml.Node
import RadixForest.Files
import RadixForest.Settings.Decode
import RadixForest.Settings.Environment

/-!
Loading settings. They come in layers: the defaults, a file if one is named, and the environment.
A higher layer wins setting by setting.
-/

namespace RadixForest.Settings

open Document

inductive Format
  | toml
  | json
  | yaml
deriving DecidableEq, Repr

namespace Format

def extensions : Format → List String
  | .toml => ["toml"]
  | .json => ["json"]
  | .yaml => ["yaml", "yml"]

def ofExtension? (extension : String) : Option Format :=
  [toml, json, yaml].find? fun format => format.extensions.contains extension

def read? (format : Format) (text : String) : Option Table :=
  match format with
  | .toml => Toml.read? text.toList
  | .json => (Json.read? text.toList).map Value.entries
  | .yaml => (Yaml.read? text.toList).map Value.entries

end Format

/-- The files that a path may stand for: the one it names, or else one with an ending of the format
behind the last name of the path. -/
def candidates (path : String) (format : Format) : List String :=
  path :: format.extensions.map fun extension => Path.plain path ++ "." ++ extension

def fileFor? (files : Files) (path : String) (format : Format) : Option String :=
  (candidates path format).find? files.isFile

def fileLayer (files : Files) (path : String) : Except SettingsError Table :=
  if !files.exists? path then .error (.fileNotFound path)
  else match (Path.extension? path).bind Format.ofExtension? with
    | none => .error (.unsupportedExtension path)
    | some format =>
      match fileFor? files path format with
      | none => .error (.malformed ("configuration file \"" ++ path ++ "\" not found"))
      | some name =>
        match files.readText name with
        | .error cause => .error (.malformed cause.message)
        | .ok text =>
          match format.read? text with
          | none => .error (.malformed ("not a valid document in " ++ name))
          | some entries => .ok entries

def stack (layers : List Table) : Except Panic Value :=
  layers.foldlM (fun document entries => document.layer entries) (.table [])

def ofDocument (document : Value) : Except SettingsError Settings :=
  match decode? .converting document with
  | none => .error (.malformed "a setting is missing or has a value of the wrong kind")
  | some settings => settings.validate.map fun _ => settings

inductive Event
  | loaded (path : Option String) (leading : String)
deriving DecidableEq, Repr

inductive Source
  | defaults
  | file
  | environment
deriving DecidableEq, Repr

/-- The order in which the entries of each source are laid over the document. They lie in a hash
table, so it may be any. -/
structure Order where
  arrange : Source → Table → Table := fun _ entries => entries
  perm (source : Source) (entries : Table) : (arrange source entries).Perm entries := by
    exact fun _ _ => List.Perm.refl _

structure Loader where
  path : Option String := none
  leading : String := "LANAI"
  order : Order := {}

def Loader.entries (loader : Loader) (files : Files) : Except SettingsError Table :=
  match loader.path with
  | some path => fileLayer files path
  | none => .ok []

/-- Loads the settings, with the environment as the highest layer. -/
def Loader.load (loader : Loader) (files : Files) (environment : List (String × String)) :
    Except Panic (Except SettingsError Settings) :=
  match loader.entries files with
  | .error cause => .ok (.error cause)
  | .ok entries => do
    let document ← stack [
      loader.order.arrange .defaults (toDocument {}),
      loader.order.arrange .file entries,
      loader.order.arrange .environment (environmentLayer loader.leading environment)]
    return ofDocument document

def Loader.event (loader : Loader) : Event := .loaded loader.path loader.leading

end RadixForest.Settings
