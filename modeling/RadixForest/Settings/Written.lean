import RadixForest.Document.Toml.Quoted
import RadixForest.Document.Toml.Tables
import RadixForest.Settings.Decode

/-!
Settings as a TOML document: a table for each section, with an absent limit left out.
-/

namespace RadixForest.Settings

open Document

def boolText (b : Bool) : List Char := if b then "true".toList else "false".toList

def writtenLine (name : String) (value : List Char) : List Char :=
  name.toList ++ " = ".toList ++ value ++ ['\n']

def writtenTrie (settings : TrieSettings) : List Char :=
  "[trie]\n".toList ++ writtenLine "case_sensitive" (boolText settings.caseSensitive) ++
    (match settings.maxKeyLen with
      | some n => writtenLine "max_key_len" (Nat.toDigits 10 n)
      | none => []) ++
    writtenLine "dispatch" (Toml.quoted settings.dispatch.name.toList)

def writtenLog (settings : LogSettings) : List Char :=
  "[log]\n".toList ++ writtenLine "level" (Toml.quoted settings.level.toList) ++
    writtenLine "json" (boolText settings.json) ++
    writtenLine "source_location" (boolText settings.sourceLocation)

def written (settings : Settings) : String :=
  String.ofList (writtenTrie settings.trie ++ '\n' :: writtenLog settings.log)

/-- Reads settings that are written in full, without any conversion. -/
def ofWritten? (text : String) : Option Settings :=
  (Toml.read? text.toList).bind fun entries => decode? .strict (.table entries)

end RadixForest.Settings
