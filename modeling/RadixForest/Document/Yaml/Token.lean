import RadixForest.Document.Yaml.Scalar

/-!
Tokens of YAML. The indentation of lines becomes tokens of its own, that open and close blocks.
A text turns out to be a key only at the colon behind it, so its key token, and with the first key
the start of its mapping, are put in front of it afterwards.
-/

namespace RadixForest.Document.Yaml

inductive Token
  | streamEnd
  | directive
  | documentStart
  | documentEnd
  | blockListStart
  | blockTableStart
  | blockEnd
  | flowListStart
  | flowListEnd
  | flowTableStart
  | flowTableEnd
  | blockEntry
  | flowEntry
  | key
  | value
  | reference (name : List Char)
  | anchor (name : List Char)
  | tag (handle suffix : List Char)
  | scalar (plain : Bool) (text : List Char)
deriving DecidableEq, Repr

def isUriChar (c : Char) : Bool := isNameChar c || ";/?:@&=+$,.!~*\x27()[]".toList.contains c

def octet? : List Char → Option (Nat × List Char)
  | '%' :: high :: low :: rest =>
    match hexValue? high, hexValue? low with
    | some high, some low => some (16 * high + low, rest)
    | _, _ => none
  | _ => none

def escapedOctets? (text : List Char) : Option (Char × List Char) :=
  match octet? text with
  | none => none
  | some (lead, rest) =>
    if lead < 0x80 then some (Char.ofNat lead, rest)
    else if lead < 0xC0 || 0xE0 ≤ lead then none
    else match octet? rest with
      | none => none
      | some (trail, rest) =>
        if trail < 0x80 || 0xC0 ≤ trail then none
        else (charOf? (256 * lead + trail)).map (·, rest)

def uriChars? : Nat → List Char → Option (List Char × List Char)
  | 0, text => some ([], text)
  | fuel + 1, text =>
    match text with
    | [] => some ([], [])
    | c :: rest =>
      if c = '%' then
        match escapedOctets? text with
        | none => none
        | some (c, rest) => (uriChars? fuel rest).map fun (run, rest) => (c :: run, rest)
      else if isUriChar c then
        (uriChars? fuel rest).map fun (run, rest) => (c :: run, rest)
      else some ([], text)

def tagUri? (head : List Char) (cursor : Cursor) : Option (List Char × Cursor) :=
  match uriChars? cursor.rest.length cursor.rest with
  | none => none
  | some (run, rest) =>
    if head.isEmpty && run.isEmpty then none
    else some (head.drop 1 ++ run, cursor.skip (cursor.rest.length - rest.length))

def tagHandle (cursor : Cursor) : List Char × Cursor :=
  let (name, behind) := cursor.next.span isNameChar
  if behind.here == '!' then ('!' :: name ++ ['!'], behind.next) else ('!' :: name, behind)

def tag? (cursor : Cursor) : Option (Token × Cursor) := do
  let (token, behind) ←
    if cursor.peek 1 == '<' then
      match tagUri? [] (cursor.skip 2) with
      | some (suffix, behind) =>
        if behind.here == '>' then some (Token.tag [] suffix, behind.next) else none
      | none => none
    else
      let (handle, behind) := tagHandle cursor
      if 2 ≤ handle.length && handle.getLast? == some '!' then
        (tagUri? [] behind).map fun (suffix, behind) => (Token.tag handle suffix, behind)
      else
        (tagUri? handle behind).map fun (suffix, behind) =>
          (if suffix.isEmpty then Token.tag [] ['!'] else Token.tag ['!'] suffix, behind)
  if endsWord behind.here then some (token, behind) else none

def anchorName? (cursor : Cursor) : Option (List Char × Cursor) :=
  let (name, behind) := cursor.span isNameChar
  let mayFollow := endsWord behind.here || "?:,]\x7d%@\x60".toList.contains behind.here
  if name.isEmpty || !mayFollow then none else some (name, behind)

structure Candidate where
  position : Nat
  required : Bool
  line : Nat
  column : Nat
  index : Nat

structure Lexer where
  cursor : Cursor
  tokens : Array Token := #[]
  keyAllowed : Bool := true
  candidates : List (Option Candidate) := [none]
  indent : Int := -1
  indents : List Int := []
  adjacentAt : Nat := 0

namespace Lexer

def inFlow (lexer : Lexer) : Bool := lexer.candidates.length != 1

def push (lexer : Lexer) (token : Token) : Lexer :=
  { lexer with tokens := lexer.tokens.push token }

def insertAt (lexer : Lexer) (position : Nat) (token : Token) : Lexer :=
  { lexer with tokens :=
      lexer.tokens.extract 0 position ++ #[token] ++
        lexer.tokens.extract position lexer.tokens.size }

/-- A key and its colon stand on one line and close together. -/
def Candidate.isStale (candidate : Candidate) (cursor : Cursor) : Bool :=
  candidate.line < cursor.line || candidate.index + 1024 < cursor.index

def dropStale? (lexer : Lexer) : Option Lexer :=
  let stale (candidate : Option Candidate) :=
    candidate.any fun candidate => Candidate.isStale candidate lexer.cursor
  if lexer.candidates.any fun c => stale c && c.any (·.required) then none
  else some { lexer with candidates := lexer.candidates.map fun c => if stale c then none else c }

def dropCandidate? (lexer : Lexer) : Option Lexer :=
  match lexer.candidates with
  | some candidate :: rest =>
    if candidate.required then none else some { lexer with candidates := none :: rest }
  | _ => some lexer

def saveCandidate? (lexer : Lexer) : Option Lexer :=
  if lexer.keyAllowed then
    lexer.dropCandidate?.map fun lexer =>
      let ⟨_, line, column, index⟩ := lexer.cursor
      let required := lexer.inFlow && lexer.indent == column
      let candidate := ⟨lexer.tokens.size, required, line, column, index⟩
      { lexer with candidates := some candidate :: lexer.candidates.drop 1 }
  else some lexer

def openBlock (lexer : Lexer) (column : Nat) (position : Nat) (token : Token) : Lexer :=
  if !lexer.inFlow && lexer.indent < column then
    { lexer.insertAt position token with
      indents := lexer.indent :: lexer.indents
      indent := column }
  else lexer

def closeBlocksFrom (lexer : Lexer) (column : Int) : List Int → Lexer
  | [] => lexer
  | outer :: rest =>
    if column < lexer.indent then
      closeBlocksFrom { lexer.push .blockEnd with indent := outer, indents := rest } column rest
    else lexer

def closeBlocks (lexer : Lexer) (column : Int) : Lexer :=
  if lexer.inFlow then lexer else lexer.closeBlocksFrom column lexer.indents

def skipGap (lexer : Lexer) : Nat → Lexer
  | 0 => lexer
  | fuel + 1 =>
    let cursor := lexer.cursor
    if cursor.here == ' ' || (cursor.here == '\t' && (lexer.inFlow || !lexer.keyAllowed)) then
      { lexer with cursor := cursor.next }.skipGap fuel
    else if isBreak cursor.here then
      { lexer with
        cursor := cursor.next
        keyAllowed := lexer.keyAllowed || !lexer.inFlow }.skipGap fuel
    else if cursor.here == '#' then { lexer with cursor := cursor.skipComment }.skipGap fuel
    else lexer

def mark (lexer : Lexer) (length : Nat) (token : Token) (keyAllowed : Bool) : Lexer :=
  { lexer.push token with cursor := lexer.cursor.skip length, keyAllowed }

def content? (lexer : Lexer) (token : Token) (behind : Cursor) (keyAllowed : Bool) :
    Option Lexer :=
  lexer.saveCandidate?.map fun lexer => { lexer.push token with cursor := behind, keyAllowed }

def documentMark? (lexer : Lexer) (token : Token) : Option Lexer :=
  (lexer.closeBlocks (-1)).dropCandidate?.map (·.mark 3 token false)

def openFlow? (lexer : Lexer) (token : Token) : Option Lexer :=
  lexer.saveCandidate?.bind fun lexer =>
    if lexer.candidates.length ≤ 255 then
      some ({ lexer with candidates := none :: lexer.candidates }.mark 1 token true)
    else none

def closeFlow? (lexer : Lexer) (token : Token) : Option Lexer :=
  lexer.dropCandidate?.map fun lexer =>
    let candidates := if lexer.inFlow then lexer.candidates.drop 1 else lexer.candidates
    { lexer with candidates }.mark 1 token false

def entry? (lexer : Lexer) : Option Lexer :=
  if lexer.inFlow || !lexer.keyAllowed then none
  else
    let lexer := lexer.openBlock lexer.cursor.column lexer.tokens.size .blockListStart
    lexer.dropCandidate?.map (·.mark 1 .blockEntry true)

def key? (lexer : Lexer) : Option Lexer :=
  if !lexer.inFlow && !lexer.keyAllowed then none
  else
    let lexer := lexer.openBlock lexer.cursor.column lexer.tokens.size .blockTableStart
    lexer.dropCandidate?.map fun lexer => lexer.mark 1 .key (!lexer.inFlow)

/-- The colon before a value. It makes the last candidate a key. -/
def value? (lexer : Lexer) : Option Lexer :=
  match lexer.candidates with
  | some candidate :: rest =>
    let lexer := lexer.insertAt candidate.position .key
    let lexer := lexer.openBlock candidate.column candidate.position .blockTableStart
    some ({ lexer with candidates := none :: rest }.mark 1 .value false)
  | _ =>
    if !lexer.inFlow && !lexer.keyAllowed then none
    else
      let lexer := lexer.openBlock lexer.cursor.column lexer.tokens.size .blockTableStart
      some (lexer.mark 1 .value (!lexer.inFlow))

def version? (cursor : Cursor) : Option Cursor :=
  let (major, behind) := (cursor.skipWhile isBlank).span Char.isDigit
  let (minor, after) := behind.next.span Char.isDigit
  if 1 ≤ major.length && major.length ≤ 9 && behind.here == '.' && 1 ≤ minor.length &&
      minor.length ≤ 9 then some after
  else none

def tagShort? (cursor : Cursor) : Option Cursor :=
  let cursor := cursor.skipWhile isBlank
  if cursor.here != '!' then none
  else
    let (handle, behind) := tagHandle cursor
    if handle != ['!'] && handle.getLast? != some '!' then none
    else match tagUri? [] (behind.skipWhile isBlank) with
      | some (_, after) => if endsWord after.here then some after else none
      | none => none

def directive? (lexer : Lexer) : Option Lexer := do
  let lexer ← (lexer.closeBlocks (-1)).dropCandidate?
  let (name, behind) := lexer.cursor.next.span isNameChar
  if name.isEmpty || !endsWord behind.here then none
  else
    let behind ←
      if name = "YAML".toList then version? behind
      else if name = "TAG".toList then tagShort? behind
      else some (behind.skipWhile (!isBreakOrEnd ·))
    let behind := (behind.skipWhile isBlank).skipComment
    if !isBreakOrEnd behind.here then none
    else
      let cursor := if isBreak behind.here then behind.next else behind
      some { lexer.push .directive with cursor, keyAllowed := false }

def quoted? (lexer : Lexer) (quote : Char) : Option Lexer :=
  match quotedFrom? quote [] (lexer.cursor.rest.length + 1) lexer.cursor.next with
  | none => none
  | some (text, behind) =>
    (lexer.content? (.scalar false text) behind false).map ({ · with adjacentAt := behind.index })

def plain? (lexer : Lexer) : Option Lexer :=
  match plainFrom? lexer.inFlow (lexer.indent + 1) [] {} (lexer.cursor.rest.length + 1)
      lexer.cursor with
  | none => none
  | some (text, broken, behind) => lexer.content? (.scalar true text) behind broken

def token? (lexer : Lexer) : Option Lexer :=
  let cursor := lexer.cursor
  let c := cursor.here
  let alone := endsWord (cursor.peek 1)
  if cursor.column == 0 && c == '%' then lexer.directive?
  else if cursor.atMarker '-' then lexer.documentMark? .documentStart
  else if cursor.atMarker '.' then lexer.documentMark? .documentEnd
  else if c = '[' then lexer.openFlow? .flowListStart
  else if c = '\x7b' then lexer.openFlow? .flowTableStart
  else if c = ']' then lexer.closeFlow? .flowListEnd
  else if c = '\x7d' then lexer.closeFlow? .flowTableEnd
  else if c = ',' then lexer.dropCandidate?.map (·.mark 1 .flowEntry true)
  else if c = '-' && alone then lexer.entry?
  else if c = '?' && alone then lexer.key?
  else if c = ':' && (alone || (lexer.inFlow &&
      (isFlowMark (cursor.peek 1) || cursor.index == lexer.adjacentAt))) then lexer.value?
  else if c = '*' then
    (anchorName? cursor.next).bind fun (name, behind) =>
      lexer.content? (.reference name) behind false
  else if c = '&' then
    (anchorName? cursor.next).bind fun (name, behind) => lexer.content? (.anchor name) behind false
  else if c = '!' then
    (tag? cursor).bind fun (token, behind) => lexer.content? token behind false
  else if (c = '|' || c = '>') && !lexer.inFlow then
    (blockScalar? (c = '>') lexer.indent cursor.next).bind fun (text, behind) =>
      lexer.content? (.scalar false text) behind true
  else if c = '\x27' || c = '"' then lexer.quoted? c
  else if c = '%' || c = '@' || c = '\x60' then none
  else lexer.plain?

def run? : Nat → Lexer → Option (Array Token)
  | 0, _ => none
  | fuel + 1, lexer =>
    match (lexer.skipGap (lexer.cursor.rest.length + 1)).dropStale? with
    | none => none
    | some lexer =>
      let lexer := lexer.closeBlocks lexer.cursor.column
      if isEnd lexer.cursor.here then
        (lexer.closeBlocks (-1)).dropCandidate?.map fun lexer => lexer.tokens.push .streamEnd
      else lexer.token?.bind (run? fuel)

end Lexer

def tokens? (text : List Char) : Option (List Token) :=
  let text := foldLineEnds text
  (Lexer.run? (text.length + 1) { cursor := { rest := text } }).map Array.toList

end RadixForest.Document.Yaml
