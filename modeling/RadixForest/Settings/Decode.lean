import RadixForest.Document.Place
import RadixForest.Settings.Basic

/-!
Settings read out of a document. Scalars of one kind may be converted to another, or have to be of
the kind that is asked for. A section is a table or the list of all its fields in order.
-/

namespace RadixForest

namespace Document.Value

def lowerText (s : String) : String := Text.lowercaseString s

def toBool? : Value → Option Bool
  | .bool b => some b
  | .int n => some (n != 0)
  | .float x => some (!x.isZero)
  | .text s =>
    if lowerText s ∈ ["1", "true", "on", "yes"] then some true
    else if lowerText s ∈ ["0", "false", "off", "no"] then some false
    else none
  | _ => none

/-- A natural number below 2^64. Fractions are rounded and brought into that range. -/
def toNat? : Value → Option Nat
  | .bool b => some b.toNat
  | .int n => if 0 ≤ n then some n.toNat else none
  | .float x => some (x.clampedRound (Number.wordValues - 1))
  | .text s =>
    if lowerText s ∈ ["true", "on", "yes"] then some 1
    else if lowerText s ∈ ["false", "off", "no"] then some 0
    else Number.uint64? s.toList
  | _ => none

def toText? : Value → Option String
  | .text s => some s
  | .bool b => some (if b then "true" else "false")
  | .int n => some (toString n)
  | .float x => some x.text
  | _ => none

def toDispatch? : Value → Option Dispatch
  | .text s => Dispatch.ofName? s
  | .table [(name, _)] => Dispatch.ofName? name
  | _ => none

def asBool? : Value → Option Bool
  | .bool b => some b
  | _ => none

def asNat? : Value → Option Nat
  | .int n => if 0 ≤ n then some n.toNat else none
  | _ => none

def asText? : Value → Option String
  | .text s => some s
  | _ => none

def asDispatch? : Value → Option Dispatch
  | .text s => Dispatch.ofName? s
  | .table [(name, .table [])] | .table [(name, .list [])] => Dispatch.ofName? name
  | _ => none

def optional? {α : Type} (read : Value → Option α) : Value → Option (Option α)
  | .null => some none
  | value => (read value).map some

end Document.Value

namespace Settings

open Document

def fields? (names : List String) : Value → Option (List (Option Value))
  | .table entries => some (names.map (Table.get? entries))
  | .list items =>
    if names.length ≤ items.length then some ((items.take names.length).map some) else none
  | _ => none

structure Reading where
  bool? : Value → Option Bool
  nat? : Value → Option Nat
  text? : Value → Option String
  dispatch? : Value → Option Dispatch

/-- Switches may be numbers or words, and numbers may be words or fractions. -/
def Reading.converting : Reading :=
  ⟨Value.toBool?, Value.toNat?, Value.toText?, Value.toDispatch?⟩

def Reading.strict : Reading := ⟨Value.asBool?, Value.asNat?, Value.asText?, Value.asDispatch?⟩

def decodeTrie? (reading : Reading) (document : Value) : Option TrieSettings := do
  match ← fields? ["case_sensitive", "max_key_len", "dispatch"] document with
  | [some caseSensitive, maxKeyLen, some dispatch] =>
    return {
      caseSensitive := ← reading.bool? caseSensitive
      maxKeyLen := ← (maxKeyLen.getD .null).optional? reading.nat?
      dispatch := ← reading.dispatch? dispatch }
  | _ => none

def decodeLog? (reading : Reading) (document : Value) : Option LogSettings := do
  match ← fields? ["level", "json", "source_location"] document with
  | [some level, some json, some sourceLocation] =>
    return {
      level := ← reading.text? level
      json := ← reading.bool? json
      sourceLocation := ← reading.bool? sourceLocation }
  | _ => none

def decode? (reading : Reading) (document : Value) : Option Settings := do
  let entries := document.entries
  return {
    trie := ← decodeTrie? reading (← Table.get? entries "trie")
    log := ← decodeLog? reading (← Table.get? entries "log") }

def toDocument (settings : Settings) : Table :=
  [("trie", .table [
      ("case_sensitive", .bool settings.trie.caseSensitive),
      ("max_key_len", match settings.trie.maxKeyLen with
        | some n => .int n
        | none => .null),
      ("dispatch", .text settings.trie.dispatch.name)]),
    ("log", .table [
      ("level", .text settings.log.level),
      ("json", .bool settings.log.json),
      ("source_location", .bool settings.log.sourceLocation)])]

end Settings

end RadixForest
