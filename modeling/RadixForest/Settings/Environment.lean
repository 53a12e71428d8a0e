import RadixForest.Document.Place

/-!
The layer that environment variables make. A variable takes part if its name, in lower case,
starts with the prefix and two underscores; in what follows, two underscores stand for a step.
-/

namespace RadixForest.Settings

open Document

def dotted : List Char → List Char
  | '_' :: '_' :: rest => '.' :: dotted rest
  | c :: rest => c :: dotted rest
  | [] => []

def stripStart? : List Char → List Char → Option (List Char)
  | [], text => some text
  | c :: start, d :: text => if c = d then stripStart? start text else none
  | _ :: _, [] => none

def entryName? (leading name : String) : Option String :=
  (stripStart? (Text.lowercase (leading ++ "__").toList) (Text.lowercase name.toList)).map
    fun rest => String.ofList (dotted rest)

/-- A variable's value: a switch, an integer, a fraction, or else a text. -/
def entryValue (written : String) : Value :=
  if Text.lowercaseString written = "true" then .bool true
  else if Text.lowercaseString written = "false" then .bool false
  else match Number.int64? written.toList with
    | some n => .int n
    | none =>
      match Number.binary64? written.toList with
      | some x => .float x
      | none => .text written

/-- The entries that the variables make. Of two with the same name the later one counts. -/
def environmentLayer (leading : String) (environment : List (String × String)) : Table :=
  environment.foldl (fun entries (name, written) =>
    match entryName? leading name with
    | some name => Table.set entries name (entryValue written)
    | none => entries) []

end RadixForest.Settings
