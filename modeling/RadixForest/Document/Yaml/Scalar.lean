import RadixForest.Document.Yaml.Cursor

/-!
Scalars of YAML as they are written: plain, quoted, and in blocks. All of them may run over
several lines, and each has rules of its own for what becomes of the line ends.
-/

namespace RadixForest.Document.Yaml

structure Gap where
  blanks : List Char := []
  breaks : Nat := 0

/-- What a gap adds to the text: a single line end is a space, and of several the first is left
out. Behind an escaped line end no blanks count, and all line ends do. -/
def Gap.text (gap : Gap) (escaped : Bool) : List Char :=
  if escaped then List.replicate gap.breaks '\n'
  else match gap.breaks with
    | 0 => gap.blanks
    | 1 => [' ']
    | breaks + 1 => List.replicate breaks '\n'

def gapFrom? (margin : Int) (gap : Gap) : Nat → Cursor → Option (Gap × Cursor)
  | 0, cursor => some (gap, cursor)
  | fuel + 1, cursor =>
    if isBreak cursor.here then
      gapFrom? margin { gap with breaks := gap.breaks + 1 } fuel cursor.next
    else if isBlank cursor.here then
      if gap.breaks = 0 then
        gapFrom? margin { gap with blanks := gap.blanks ++ [cursor.here] } fuel cursor.next
      else if cursor.here == '\t' && (cursor.column : Int) < margin then none
      else gapFrom? margin gap fuel cursor.next
    else some (gap, cursor)

def Cursor.gap? (cursor : Cursor) (margin : Int) : Option (Gap × Cursor) :=
  gapFrom? margin {} cursor.rest.length cursor

def plainWord (inFlow : Bool) : List Char → List Char
  | [] => []
  | c :: rest =>
    if endsWord c then []
    else if c = ':' && (endsWord (rest.head?.getD '\x00') ||
        (inFlow && isFlowMark (rest.head?.getD '\x00'))) then []
    else if inFlow && isFlowMark c then []
    else c :: plainWord inFlow rest

def plainFrom? (inFlow : Bool) (margin : Int) (text : List Char) (gap : Gap) :
    Nat → Cursor → Option (List Char × Bool × Cursor)
  | 0, _ => none
  | fuel + 1, cursor =>
    if cursor.atDocumentMarker || cursor.here == '#' then some (text, gap.breaks != 0, cursor)
    else
      let word := plainWord inFlow cursor.rest
      let behind := cursor.skip word.length
      let (text, gap) := if word.isEmpty then (text, gap) else (text ++ gap.text false ++ word, {})
      if !(isBlank behind.here || isBreak behind.here) then some (text, gap.breaks != 0, behind)
      else match behind.gap? margin with
        | none => none
        | some (gap, behind) =>
          if !inFlow && (behind.column : Int) < margin then some (text, gap.breaks != 0, behind)
          else plainFrom? inFlow margin text gap fuel behind

def escaped? : Char → Option Char
  | '0' => some '\x00'
  | 'a' => some '\x07'
  | 'b' => some '\x08'
  | 't' | '\t' => some '\t'
  | 'n' => some '\n'
  | 'v' => some '\x0b'
  | 'f' => some '\x0c'
  | 'r' => some '\r'
  | 'e' => some '\x1b'
  | ' ' => some ' '
  | '"' => some '"'
  | '\x27' => some '\x27'
  | '\\' => some '\\'
  | 'N' => some '\u0085'
  | '_' => some '\u00A0'
  | 'L' => some '\u2028'
  | 'P' => some '\u2029'
  | _ => none

def quotedWord? (quote : Char) (word : List Char) :
    Nat → Cursor → Option (List Char × Bool × Cursor)
  | 0, _ => none
  | fuel + 1, cursor =>
    let c := cursor.here
    if endsWord c then some (word, false, cursor)
    else if c = quote then
      if quote = '\x27' && cursor.peek 1 == quote then
        quotedWord? quote (word ++ [quote]) fuel (cursor.skip 2)
      else some (word, false, cursor)
    else if c = '\\' && quote = '"' then
      if isBreak (cursor.peek 1) then some (word, true, cursor.skip 2)
      else match codeLength? (cursor.peek 1) with
        | some length =>
          let digits := (cursor.skip 2).rest.take length
          if digits.length = length then
            match (ofHex? digits).bind charOf? with
            | some c => quotedWord? quote (word ++ [c]) fuel (cursor.skip (2 + length))
            | none => none
          else none
        | none =>
          match escaped? (cursor.peek 1) with
          | some c => quotedWord? quote (word ++ [c]) fuel (cursor.skip 2)
          | none => none
    else quotedWord? quote (word ++ [c]) fuel cursor.next

def quotedFrom? (quote : Char) (text : List Char) : Nat → Cursor → Option (List Char × Cursor)
  | 0, _ => none
  | fuel + 1, cursor =>
    if cursor.atDocumentMarker || isEnd cursor.here then none
    else match quotedWord? quote [] (cursor.rest.length + 1) cursor with
      | none => none
      | some (word, escaped, behind) =>
        if behind.here = quote then some (text ++ word, behind.next)
        else match behind.gap? 0 with
          | none => none
          | some (gap, behind) => quotedFrom? quote (text ++ word ++ gap.text escaped) fuel behind

inductive Chomping
  | strip
  | clip
  | keep
deriving DecidableEq

def chomping? : Char → Option Chomping
  | '+' => some .keep
  | '-' => some .strip
  | _ => none

def blockIndicators? (cursor : Cursor) : Option (Chomping × Nat × Cursor) :=
  let digit? (cursor : Cursor) : Option (Nat × Cursor) :=
    if cursor.here == '0' then none
    else if cursor.here.isDigit then some (cursor.here.toNat - '0'.toNat, cursor.next)
    else some (0, cursor)
  match chomping? cursor.here with
  | some chomping => (digit? cursor.next).map fun (indent, cursor) => (chomping, indent, cursor)
  | none =>
    (digit? cursor).map fun (indent, cursor) =>
      match if indent = 0 then none else chomping? cursor.here with
      | some chomping => (chomping, indent, cursor.next)
      | none => (.clip, indent, cursor)

/-- Leaves out indentation and empty lines. Answers with their number and the widest indentation
met. An indentation of zero is not known yet. -/
def blockBreaks? (indent : Nat) (breaks widest : Nat) :
    Nat → Cursor → Option (Nat × Nat × Cursor)
  | 0, cursor => some (breaks, widest, cursor)
  | fuel + 1, cursor =>
    if (indent = 0 || cursor.column < indent) && cursor.here == ' ' then
      blockBreaks? indent breaks widest fuel cursor.next
    else if (indent = 0 || cursor.column < indent) && cursor.here == '\t' then none
    else if isBreak cursor.here then
      blockBreaks? indent (breaks + 1) (max widest cursor.column) fuel cursor.next
    else some (breaks, max widest cursor.column, cursor)

/-- The lines of a block scalar. `broken` tells whether a line end came before this line, `breaks`
how many empty lines followed it, and `indented` whether the line before began with a blank. In
a folded scalar a line end between two lines that do not is a space. -/
def blockLines? (folded : Bool) (indent : Nat) (text : List Char) (broken indented : Bool)
    (breaks : Nat) : Nat → Cursor → Option (List Char × Bool × Nat × Cursor)
  | 0, cursor => some (text, broken, breaks, cursor)
  | fuel + 1, cursor =>
    if cursor.column != indent || isEnd cursor.here then some (text, broken, breaks, cursor)
    else
      let joint :=
        if folded && broken && !indented && !isBlank cursor.here then
          if breaks = 0 then [' '] else []
        else if broken then ['\n'] else []
      let (line, behind) := cursor.span (!isBreakOrEnd ·)
      let text := text ++ joint ++ List.replicate breaks '\n' ++ line
      if isEnd behind.here then some (text, false, 0, behind)
      else match blockBreaks? indent 0 0 behind.rest.length behind.next with
        | none => none
        | some (breaks, _, next) =>
          blockLines? folded indent text true (isBlank cursor.here) breaks fuel next

def blockScalar? (folded : Bool) (outer : Int) (cursor : Cursor) : Option (List Char × Cursor) := do
  let (chomping, given, cursor) ← blockIndicators? cursor
  let cursor := (cursor.skipWhile isBlank).skipComment
  if !isBreakOrEnd cursor.here then none
  else
    let cursor := if isBreak cursor.here then cursor.next else cursor
    let indent := if given = 0 then 0 else if 0 ≤ outer then outer.toNat + given else given
    let (breaks, widest, cursor) ← blockBreaks? indent 0 0 (cursor.rest.length + 1) cursor
    let indent := if indent = 0 then max (max widest (outer + 1).toNat) 1 else indent
    let (text, broken, breaks, cursor) ←
      blockLines? folded indent [] false false breaks (cursor.rest.length + 1) cursor
    let last := if broken && chomping != .strip then ['\n'] else []
    let more := if chomping = .keep then List.replicate breaks '\n' else []
    some (text ++ last ++ more, cursor)

end RadixForest.Document.Yaml
