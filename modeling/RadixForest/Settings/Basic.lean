import RadixForest.Text.Quoted
import RadixForest.Trie.Config

/-!
The settings of the program: a section for the trie and one for the log. Settings may hold values
that make no sense; validation names the first of them, the trie's before the log's.
-/

namespace RadixForest

structure TrieSettings where
  caseSensitive : Bool := true
  -- In characters; unlimited if absent.
  maxKeyLen : Option Nat := none
  dispatch : Dispatch := .indexed
deriving DecidableEq, Repr

structure LogSettings where
  level : String := "info"
  json : Bool := false
  sourceLocation : Bool := true
deriving DecidableEq, Repr

structure Settings where
  trie : TrieSettings := {}
  log : LogSettings := {}
deriving DecidableEq, Repr

inductive SettingsError
  | fileNotFound (path : String)
  | unsupportedExtension (path : String)
  | malformed (detail : String)
  | invalid (detail : String)
  | outOfRange (key detail : String)
deriving DecidableEq, Repr

def SettingsError.message : SettingsError → String
  | .fileNotFound path => "Configuration file not found: " ++ path
  | .unsupportedExtension path =>
    "Failed to parse configuration: Unsupported file extension for: " ++ Text.quoted path
  | .malformed detail => "Failed to parse configuration: " ++ detail
  | .invalid detail => "Configuration validation error: " ++ detail
  | .outOfRange key detail =>
    "Configuration value " ++ key ++ " is out of valid range: " ++ detail

def TrieSettings.validate (settings : TrieSettings) : Except SettingsError Unit :=
  if settings.maxKeyLen = some 0 then
    .error (.outOfRange "trie.max_key_len" "must be greater than 0")
  else .ok ()

def LogSettings.levels : List String := ["trace", "debug", "info", "warn", "error"]

def LogSettings.validate (settings : LogSettings) : Except SettingsError Unit :=
  if settings.level ∈ levels then .ok ()
  else .error (.invalid ("Invalid log level: " ++ settings.level))

def Settings.validate (settings : Settings) : Except SettingsError Unit := do
  settings.trie.validate
  settings.log.validate

/-- The configuration of a trie with these settings. A limit of zero counts as none. -/
def TrieSettings.toConfig (settings : TrieSettings) : Trie.Config :=
  { caseSensitive := settings.caseSensitive
    maxKeyLen := settings.maxKeyLen.filter (0 < ·)
    dispatch := settings.dispatch
    maxKeyLen_ne_zero := by simp [Option.filter_eq_some_iff] }

end RadixForest
