import RadixForest.Document.Toml.Dates
import RadixForest.Document.Toml.Strings
import RadixForest.Document.Value

/-!
The lines of a TOML document: headers that open tables, and pairs of a key and a value. A key may
be dotted. Lists may spread over several lines, so a line of the document may be several lines of
its text.
-/

namespace RadixForest.Document.Toml

def isSpace (c : Char) : Bool := c == ' ' || c == '\t'

def skipSpace (text : List Char) : List Char := text.dropWhile isSpace

def isCommentChar (c : Char) : Bool := c == '\t' || 0x20 ≤ c.toNat

def lineEnd? (text : List Char) : Option (List Char) :=
  let text := match skipSpace text with
    | '#' :: rest => rest.dropWhile isCommentChar
    | text => text
  match text with
  | [] => some []
  | '\n' :: rest => some rest
  | _ => none

def skipLines? : Nat → List Char → Option (List Char)
  | 0, text => some text
  | fuel + 1, text =>
    match skipSpace text with
    | '\n' :: rest => skipLines? fuel rest
    | '#' :: rest =>
      match lineEnd? ('#' :: rest) with
      | some rest => skipLines? fuel rest
      | none => none
    | text => some text

def keyPart? (text : List Char) : Read String :=
  match spanOf isWordChar text with
  | ([], _) => (lineString? text).map fun (part, rest) => (String.ofList part, rest)
  | (part, rest) => some (String.ofList part, rest)

def key? : Nat → List Char → Option (List String × List Char)
  | 0, _ => none
  | fuel + 1, text => do
    let (part, rest) ← keyPart? text
    match skipSpace rest with
    | '.' :: rest =>
      let (parts, rest) ← key? fuel (skipSpace rest)
      some (part :: parts, rest)
    | rest => some ([part], rest)

/-- What a document says of a value. Dates are not read yet, and names may stand twice in a table.
Dotted keys may add to the tables that they made; all others are closed. -/
inductive Tree
  | plain (value : Value)
  | date (written : List Char)
  | list (items : List Tree)
  | table (dotted : Bool) (entries : List (String × Tree))

namespace Tree

abbrev Entries := List (String × Tree)

def find? (entries : Entries) (name : String) : Option Tree :=
  (entries.find? (·.1 == name)).map (·.2)

def set (name : String) (tree : Tree) : Entries → Entries
  | [] => []
  | entry :: rest => if entry.1 == name then (name, tree) :: rest else entry :: set name tree rest

def add? : List String → Tree → Entries → Option Entries
  | [], _, _ => none
  | [name], tree, entries => some (entries ++ [(name, tree)])
  | name :: rest, tree, entries =>
    match find? entries name with
    | none => (add? rest tree []).map fun below => entries ++ [(name, .table true below)]
    | some (.table true below) =>
      (add? rest tree below).map fun below => set name (.table true below) entries
    | some _ => none

def dateValue? (written : List Char) : Option Value :=
  (dateTime? written).map fun text => .text (String.ofList text)

def dateName : String := "$__toml_private_datetime"

/-- A table that starts with an entry of that name is the date that the entry holds as a text, and
refused if it holds none. What follows in the table does not count. -/
def asDate? : Entries → Option (Option Value)
  | (name, tree) :: _ =>
    if name = dateName then
      match tree with
      | .plain (.text s) => some (dateValue? s.toList)
      | _ => some none
    else none
  | [] => none

mutual

def value? : Tree → Option Value
  | .plain value => some value
  | .date written => dateValue? written
  | .list items => (items? items).map .list
  | .table _ entries =>
    match asDate? entries with
    | some held => held
    | none => (entries? entries).map .table

def items? : List Tree → Option (List Value)
  | [] => some []
  | item :: rest =>
    match value? item, items? rest with
    | some item, some items => some (item :: items)
    | _, _ => none

def entries? : List (String × Tree) → Option Table
  | [] => some []
  | (name, tree) :: rest =>
    if (find? rest name).isSome then none
    else match value? tree, entries? rest with
      | some value, some entries => some ((name, value) :: entries)
      | _, _ => none

end

end Tree

def numberTree : Number → Tree
  | .int n => .plain (.int n)
  | .float x => .plain (.float x)

def wordValue? (word rest : List Char) : Read Tree :=
  if word = "true".toList then some (.plain (.bool true), rest)
  else if word = "false".toList then some (.plain (.bool false), rest)
  else
    let number := (number? word rest).map fun (number, rest) => (numberTree number, rest)
    let date := (dateText? word rest).map fun (text, rest) => (.date text, rest)
    let startsNumber := word.head?.any fun c => c.isDigit || c == '-'
    if word = "inf".toList || word = "nan".toList || startsNumber then
      if looksLikeDate word || rest.head? == some ':' then date else number
    else none

mutual

def value? : Nat → List Char → Option (Tree × List Char)
  | 0, _ => none
  | _, [] => none
  | fuel + 1, c :: rest =>
    if c = '"' || c = '\x27' then
      (string? (c :: rest)).map fun (text, rest) => (.plain (.text (String.ofList text)), rest)
    else if c = '[' then do
      let (items, rest) ← items? fuel (← skipLines? rest.length rest)
      some (.list items, rest)
    else if c = '\x7b' then
      match skipSpace rest with
      | '\x7d' :: rest => some (.table false [], rest)
      | rest => do
        let (entries, rest) ← pairs? fuel [] rest
        some (.table false entries, rest)
    else if c = '+' then
      match spanOf isWordChar rest with
      | ([], _) => none
      | (word, rest) =>
        (number? word rest).map fun (number, rest) => (numberTree number, rest)
    else
      match spanOf isWordChar (c :: rest) with
      | ([], _) => none
      | (word, rest) => wordValue? word rest

def items? : Nat → List Char → Option (List Tree × List Char)
  | 0, _ => none
  | _, ']' :: rest => some ([], rest)
  | fuel + 1, text => do
    let (item, rest) ← value? fuel text
    match ← skipLines? rest.length rest with
    | ',' :: rest =>
      let (items, rest) ← items? fuel (← skipLines? rest.length rest)
      some (item :: items, rest)
    | ']' :: rest => some ([item], rest)
    | _ => none

def pairs? : Nat → Tree.Entries → List Char → Option (Tree.Entries × List Char)
  | 0, _, _ => none
  | fuel + 1, entries, text => do
    let (key, rest) ← key? text.length text
    match rest with
    | '=' :: rest =>
      let (value, rest) ← value? fuel (skipSpace rest)
      let entries ← Tree.add? key value entries
      match skipSpace rest with
      | ',' :: rest => pairs? fuel entries (skipSpace rest)
      | '\x7d' :: rest => some (entries, rest)
      | _ => none
    | _ => none

end

inductive Line
  | header (path : List String) (isItem : Bool)
  | pair (key : List String) (value : Tree)

def header? (isItem : Bool) (text : List Char) : Option (Line × List Char) := do
  let (path, rest) ← key? text.length (skipSpace text)
  let rest ← match isItem, rest with
    | true, ']' :: ']' :: rest => some rest
    | false, ']' :: rest => some rest
    | _, _ => none
  some (.header path isItem, ← lineEnd? rest)

def pair? (text : List Char) : Option (Line × List Char) := do
  let (key, rest) ← key? text.length text
  match rest with
  | '=' :: rest =>
    let (value, rest) ← value? (rest.length + 1) (skipSpace rest)
    some (.pair key value, ← lineEnd? rest)
  | _ => none

def line? : List Char → Read Line
  | '[' :: '[' :: rest => header? true rest
  | '[' :: rest => header? false rest
  | text => pair? text

def lines? : Nat → List Char → Option (List Line)
  | 0, _ => none
  | fuel + 1, text =>
    match skipLines? text.length text with
    | none => none
    | some [] => some []
    | some text =>
      match line? text with
      | some (line, rest) => (lines? fuel rest).map (line :: ·)
      | none => none

end RadixForest.Document.Toml
