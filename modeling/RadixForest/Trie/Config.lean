import RadixForest.Text.Lowercase

/-!
Options of a trie, and the form in which it keeps its keys. A key is a list of characters; it is
lower-cased first if the trie ignores case, and only then measured against the limit.
-/

namespace RadixForest

abbrev Key := List Char

inductive Dispatch
  | linear
  | indexed
deriving DecidableEq, Repr

def Dispatch.name : Dispatch → String
  | .linear => "linear"
  | .indexed => "indexed"

def Dispatch.ofName? (name : String) : Option Dispatch :=
  if name = "linear" then some .linear
  else if name = "indexed" then some .indexed
  else none

namespace Trie

/-- `maxKeyLen` counts characters; a limit of zero would shut out every key. -/
structure Config where
  caseSensitive : Bool := true
  maxKeyLen : Option Nat := none
  dispatch : Dispatch := .indexed
  maxKeyLen_ne_zero : maxKeyLen ≠ some 0 := by simp
deriving DecidableEq

inductive ConfigError
  | zeroMaxKeyLen
deriving DecidableEq, Repr

def ConfigError.message : ConfigError → String
  | .zeroMaxKeyLen => "Maximum key length must be greater than 0"

def Config.limit (config : Config) (maxKeyLen : Nat) : Except ConfigError Config :=
  if positive : maxKeyLen = 0 then .error .zeroMaxKeyLen
  else .ok { config with
    maxKeyLen := some maxKeyLen
    maxKeyLen_ne_zero := by simpa using positive }

inductive KeyError
  | emptyKey
  | duplicateKey (key : Key)
  | keyTooLong (key : Key) (maxKeyLen : Nat)
deriving DecidableEq, Repr

def KeyError.message : KeyError → String
  | .emptyKey => "Empty key not allowed"
  | .duplicateKey key => "Key '" ++ String.ofList key ++ "' already holds a value"
  | .keyTooLong key maxKeyLen =>
    "Key '" ++ String.ofList key ++ "' exceeds maximum key length of " ++ toString maxKeyLen

def Config.foldCase (config : Config) (key : Key) : Key :=
  if config.caseSensitive then key else Text.lowercase key

/-- The form in which a key is stored and looked up. -/
def Config.normalize (config : Config) (key : Key) : Except KeyError Key :=
  if key.isEmpty then .error .emptyKey
  else
    let folded := config.foldCase key
    match config.maxKeyLen with
    | none => .ok folded
    | some maxKeyLen =>
      if maxKeyLen < folded.length then .error (.keyTooLong folded maxKeyLen) else .ok folded

theorem Config.foldCase_ne_nil (config : Config) {key : Key} (filled : key ≠ []) :
    config.foldCase key ≠ [] := by
  unfold foldCase
  split
  · exact filled
  · exact Text.lowercase_ne_nil filled

theorem Config.ne_nil_of_normalize {config : Config} {key normal : Key}
    (admitted : config.normalize key = .ok normal) : normal ≠ [] := by
  have folded (filled : ¬key.isEmpty) : config.foldCase key ≠ [] :=
    config.foldCase_ne_nil (mt List.isEmpty_iff.mpr filled)
  cases limit : config.maxKeyLen with
  | none =>
      simp only [normalize, limit] at admitted
      split at admitted
      · simp at admitted
      · rename_i filled
        exact Except.ok.inj admitted ▸ folded filled
  | some maxKeyLen =>
      simp only [normalize, limit] at admitted
      split at admitted
      · simp at admitted
      · rename_i filled
        split at admitted
        · simp at admitted
        · exact Except.ok.inj admitted ▸ folded filled

end Trie

end RadixForest
