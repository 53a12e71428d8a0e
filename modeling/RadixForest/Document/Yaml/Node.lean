import RadixForest.Document.Value
import RadixForest.Document.Yaml.Token
import RadixForest.Number.Reading

/-!
Nodes of YAML documents, read from tokens. A plain scalar is a switch, a number or null if it
looks like one. References stand for copies of the nodes they name.
-/

namespace RadixForest.Document.Yaml

inductive Node
  | null
  | unfit
  | bool (b : Bool)
  | int (n : Int)
  | real (written : List Char)
  | text (s : List Char)
  | list (items : List Node)
  -- The entries in order; a later one wins over an earlier one with the same key.
  | table (entries : List (Node × Node))
deriving Inhabited

/-- The entries of a table from its nodes, which are keys and values in turn. An unfit node is no
key, so the next node is, and a key without a value is left out. -/
def Node.pairUp : List Node → List (Node × Node)
  | [] | [_] => []
  | .unfit :: rest => pairUp rest
  | key :: value :: rest => (key, value) :: pairUp rest

def infinities : List String :=
  [".inf", ".Inf", ".INF", "+.inf", "+.Inf", "+.INF", "-.inf", "-.Inf", "-.INF"]

def notNumbers : List String := [".nan", "NaN", ".NAN"]

def isReal (text : List Char) : Bool :=
  (infinities ++ notNumbers).contains (String.ofList text) || (Number.binary64? text).isSome

def integerIn? (base : Nat) (text : List Char) : Option Int :=
  let (negative, digits) := Number.splitSign text
  let value? := digits.foldlM (fun value c =>
    match hexValue? c with
    | some digit => if digit < base then some (base * value + digit) else none
    | none => none) 0
  match value? with
  | some value =>
    let n := Number.signed negative value
    if !digits.isEmpty && Number.inInt64 n then some n else none
  | none => none

def markedInteger? : List Char → Option Int
  | '0' :: 'x' :: rest => integerIn? 16 rest
  | '0' :: 'o' :: rest => integerIn? 8 rest
  | '+' :: rest => Number.int64? rest
  | _ => none

def Node.ofPlain (text : List Char) : Node :=
  match markedInteger? text with
  | some n => .int n
  | none =>
    if text = "~".toList || text = "null".toList then .null
    else if text = "true".toList then .bool true
    else if text = "false".toList then .bool false
    else match Number.int64? text with
      | some n => .int n
      | none => if isReal text then .real text else .text text

def Node.ofTagged (suffix text : List Char) : Node :=
  if suffix = "bool".toList then
    if text = "true".toList then .bool true
    else if text = "false".toList then .bool false
    else .unfit
  else if suffix = "int".toList then
    match Number.int64? text with
    | some n => .int n
    | none => .unfit
  else if suffix = "float".toList then if isReal text then .real text else .unfit
  else if suffix = "null".toList then
    if text = "~".toList || text = "null".toList then .null else .unfit
  else .text text

abbrev Tag := List Char × List Char

def Node.ofScalar (tag : Option Tag) (plain : Bool) (text : List Char) : Node :=
  match plain, tag with
  | false, _ => .text text
  | true, none => .ofPlain text
  | true, some (handle, suffix) => if handle = ['!', '!'] then .ofTagged suffix text else .text text

structure Reader where
  tokens : List Token
  -- The latest anchor of each name.
  anchors : List (List Char × Nat) := []
  nodes : List (Nat × Node) := []
  anchorCount : Nat := 0

namespace Reader

def peek (reader : Reader) : Token := reader.tokens.head?.getD .streamEnd

def skip (reader : Reader) : Reader := { reader with tokens := reader.tokens.drop 1 }

def resolve? (reader : Reader) (name : List Char) : Option Node :=
  (reader.anchors.find? (·.1 == name)).map fun anchor =>
    ((reader.nodes.find? (·.1 == anchor.2)).map (·.2)).getD .unfit

def enter (reader : Reader) (name : List Char) : Nat × Reader :=
  (reader.anchorCount, { reader with
    anchors := (name, reader.anchorCount) :: reader.anchors
    anchorCount := reader.anchorCount + 1 })

def complete (reader : Reader) (anchor : Option Nat) (node : Node) : Node × Reader :=
  match anchor with
  | some anchor => (node, { reader with nodes := (anchor, node) :: reader.nodes })
  | none => (node, reader)

def properties (reader : Reader) : Option Nat × Option Tag × Reader :=
  match reader.peek with
  | .anchor name =>
    let (anchor, reader) := reader.skip.enter name
    match reader.peek with
    | .tag handle suffix => (some anchor, some (handle, suffix), reader.skip)
    | _ => (some anchor, none, reader)
  | .tag handle suffix =>
    let reader := reader.skip
    match reader.peek with
    | .anchor name =>
      let (anchor, reader) := reader.skip.enter name
      (some anchor, some (handle, suffix), reader)
    | _ => (none, some (handle, suffix), reader)
  | _ => (none, none, reader)

def endsBlockNode : Token → Bool
  | .key | .value | .blockEnd => true
  | _ => false

mutual

/-- A node. Blocks may start only where `block` is on, and a list of entries without an
indentation of its own only where `unindented` is on. -/
def node? (block unindented : Bool) : Nat → Reader → Option (Node × Reader)
  | 0, _ => none
  | fuel + 1, reader =>
    match reader.peek with
    | .reference name => (reader.resolve? name).map (·, reader.skip)
    | _ =>
      let (anchor, tag, reader) := reader.properties
      let finish (node : Node) (reader : Reader) := some (reader.complete anchor node)
      let bare :=
        if anchor.isSome || tag.isSome then finish (.ofScalar tag true []) reader else none
      match reader.peek with
      | .blockEntry =>
        if unindented then
          (entries? true fuel reader).bind fun (items, reader) => finish (.list items) reader
        else bare
      | .scalar plain text => finish (.ofScalar tag plain text) reader.skip
      | .flowListStart =>
        (flowItems? true fuel reader.skip).bind fun (items, reader) => finish (.list items) reader
      | .flowTableStart =>
        (flowEntries? true fuel reader.skip).bind fun (entries, reader) =>
          finish (.table (Node.pairUp entries)) reader
      | .blockListStart =>
        if block then
          (entries? false fuel reader.skip).bind fun (items, reader) => finish (.list items) reader
        else bare
      | .blockTableStart =>
        if block then
          (pairs? fuel reader.skip).bind fun (entries, reader) =>
            finish (.table (Node.pairUp entries)) reader
        else bare
      | _ => bare

def blockNode? (fuel : Nat) (reader : Reader) : Option (Node × Reader) :=
  match fuel with
  | 0 => none
  | fuel + 1 =>
    if endsBlockNode reader.peek then some (.null, reader) else node? true true fuel reader

def entries? (unindented : Bool) : Nat → Reader → Option (List Node × Reader)
  | 0, _ => none
  | fuel + 1, reader =>
    match reader.peek with
    | .blockEntry => do
      let reader := reader.skip
      let missing := match reader.peek with
        | .blockEntry | .blockEnd => true
        | .key | .value => unindented
        | _ => false
      let (item, reader) ← if missing then some (.null, reader) else node? true false fuel reader
      let (items, reader) ← entries? unindented fuel reader
      some (item :: items, reader)
    | .blockEnd => some ([], if unindented then reader else reader.skip)
    | _ => if unindented then some ([], reader) else none

def pairs? : Nat → Reader → Option (List Node × Reader)
  | 0, _ => none
  | fuel + 1, reader =>
    let key? : Option (Node × Reader) := match reader.peek with
      | .key => blockNode? fuel reader.skip
      | .value => some (.null, reader)
      | _ => none
    match key? with
    | none => if reader.peek = .blockEnd then some ([], reader.skip) else none
    | some (key, reader) => do
      let (value, reader) ← match reader.peek with
        | .value => blockNode? fuel reader.skip
        | _ => some (.null, reader)
      let (later, reader) ← pairs? fuel reader
      some (key :: value :: later, reader)

def flowNode? (missing : List Token) (fuel : Nat) (reader : Reader) : Option (Node × Reader) :=
  match fuel with
  | 0 => none
  | fuel + 1 =>
    if missing.contains reader.peek then some (.null, reader) else node? false false fuel reader

def flowValue? (close : Token) (fuel : Nat) (reader : Reader) : Option (Node × Reader) :=
  match fuel with
  | 0 => none
  | fuel + 1 =>
    match reader.peek with
    | .value => flowNode? [.flowEntry, close] fuel reader.skip
    | _ => some (.null, reader)

def flowEntries? (first : Bool) : Nat → Reader → Option (List Node × Reader)
  | 0, _ => none
  | fuel + 1, reader =>
    if reader.peek = .flowTableEnd then some ([], reader.skip)
    else if !first && reader.peek != .flowEntry then none
    else
      let reader := if first then reader else reader.skip
      if reader.peek = .flowTableEnd then some ([], reader.skip)
      else do
        let (key, value, reader) ← match reader.peek with
          | .key => do
            let (key, reader) ←
              flowNode? [.value, .flowEntry, .flowTableEnd] fuel reader.skip
            let (value, reader) ← flowValue? .flowTableEnd fuel reader
            some (key, value, reader)
          | .value => (flowValue? .flowTableEnd fuel reader).map fun (value, reader) =>
              (.null, value, reader)
          | _ => (node? false false fuel reader).map fun (key, reader) => (key, .null, reader)
        let (later, reader) ← flowEntries? false fuel reader
        some (key :: value :: later, reader)

def flowItems? (first : Bool) : Nat → Reader → Option (List Node × Reader)
  | 0, _ => none
  | fuel + 1, reader =>
    if reader.peek = .flowListEnd then some ([], reader.skip)
    else if !first && reader.peek != .flowEntry then none
    else
      let reader := if first then reader else reader.skip
      if reader.peek = .flowListEnd then some ([], reader.skip)
      else do
        let (item, reader) ← match reader.peek with
          | .key => do
            let reader := reader.skip
            let (key, reader) ←
              if [.value, .flowEntry, .flowListEnd].contains reader.peek then
                some (.null, reader.skip)
              else node? false false fuel reader
            let (value, reader) ← flowValue? .flowListEnd fuel reader
            some (.table (Node.pairUp [key, value]), reader)
          | _ => node? false false fuel reader
        let (later, reader) ← flowItems? false fuel reader
        some (item :: later, reader)

end

def skipDirectives (reader : Reader) : Reader :=
  { reader with tokens := reader.tokens.dropWhile (· == .directive) }

def documents? (first : Bool) : Nat → Reader → Option (List Node)
  | 0, _ => none
  | fuel + 1, reader =>
    let reader : Reader := { reader with
      tokens := if first then reader.tokens else reader.tokens.dropWhile (· == .documentEnd)
      anchors := []
      nodes := [] }
    if reader.peek = .streamEnd then some []
    else
      let content? : Option (Node × Reader) :=
        match reader.peek, first with
        | .directive, _ | .documentStart, _ | _, false =>
          let reader := reader.skipDirectives
          if reader.peek = .documentStart then
            let reader := reader.skip
            match reader.peek with
            | .directive | .documentStart | .documentEnd | .streamEnd => some (.null, reader)
            | _ => node? true false fuel reader
          else none
        | _, true => node? true false fuel reader
      match content? with
      | none => none
      | some (node, reader) =>
        let reader := if reader.peek = .documentEnd then reader.skip else reader
        (documents? false fuel reader).map (node :: ·)

end Reader

def Node.isText (s : List Char) : Node → Bool
  | .text t => t == s
  | _ => false

mutual

def Node.value? : Node → Option Value
  | .null | .unfit => some .null
  | .bool b => some (.bool b)
  | .int n => some (.int n)
  | .real written => (Number.binary64? written).map .float
  | .text s => some (.text (String.ofList s))
  | .list items => (listValues? items).map .list
  | .table entries => (tableValues? entries).map .table

def listValues? : List Node → Option (List Value)
  | [] => some []
  | item :: rest =>
    match item.value?, listValues? rest with
    | some value, some values => some (value :: values)
    | _, _ => none

/-- Entries whose key is not a text are left out unread, and so are all that come again later. -/
def tableValues? : List (Node × Node) → Option Table
  | [] => some []
  | (key, node) :: rest =>
    match key with
    | .text s =>
      if rest.any fun later => later.1.isText s then tableValues? rest
      else match node.value?, tableValues? rest with
        | some value, some values => some ((String.ofList s, value) :: values)
        | _, _ => none
    | _ => tableValues? rest

end

def read? (text : List Char) : Option Value :=
  match tokens? text with
  | none => none
  | some tokens =>
    match Reader.documents? true (4 * tokens.length + 4) { tokens } with
    | some [] => some (.table [])
    | some [node] => node.value?
    | _ => none

end RadixForest.Document.Yaml
