import RadixForest.KeyFile
import RadixForest.Log.Record
import RadixForest.Registry
import RadixForest.Settings.Load

/-!
The events of the parts of the program as records of the log.
-/

namespace RadixForest

open Log

def Trie.NodeId.text (id : Trie.NodeId) : String := "NodeId(" ++ toString id ++ ")"

def optionText {α : Type} (text : α → String) : Option α → String
  | some value => "Some(" ++ text value ++ ")"
  | none => "None"

def keyText (key : Key) : Detail := .text (String.ofList key)

def Trie.Event.record : Trie.Event → Record
  | .createdRoot key root =>
    { level := .trace
      source := .trie
      message := "created root"
      details := [("key", keyText key), ("root", .text root.text)] }
  | .appendedNode key fragment parent id =>
    { level := .trace
      source := .trie
      message := "appended node"
      details := [("key", keyText key), ("fragment", keyText fragment),
        ("parent", .text (optionText Trie.NodeId.text parent)), ("id", .text id.text)] }
  | .splitNode key node cut =>
    { level := .trace
      source := .trie
      message := "split node"
      details := [("key", keyText key), ("node", .text node.text), ("at", .number cut)] }
  | .rejectedDuplicate key =>
    { level := .debug
      source := .trie
      message := "rejected duplicate key"
      details := [("key", keyText key)] }
  | .destroying nodes keys =>
    { level := .debug
      source := .trie
      message := "destroying trie"
      details := [("nodes", .number nodes), ("keys", .number keys)] }

def Registry.Event.record : Registry.Event → Record
  | .inTrie event => event.record
  | .released handle =>
    { level := .debug
      source := .registry
      message := "released trie handle"
      details := [("handle", .text handle.text)] }

def KeyFile.Event.record : KeyFile.Event → Record
  | .inTrie event => event.record
  | .skipped line cause =>
    { level := .warn
      source := .keyFile
      message := match cause with
        | .duplicateKey _ => "skipping duplicate key"
        | _ => "skipping invalid key"
      details := [("line", .number line), ("err", .text cause.message)] }
  | .loaded path report =>
    { level := .info
      source := .keyFile
      message := "loaded key file"
      details := [("path", .text path), ("inserted", .number report.inserted),
        ("replaced", .number report.replaced), ("rejected", .number report.rejected)] }

def Settings.Event.record : Settings.Event → Record
  | .loaded path leading =>
    { level := .debug
      source := .settings
      message := "configuration loaded"
      details := [("path", .text (optionText Text.quoted path)), ("prefix", .text leading)] }

end RadixForest
