import RadixForest.Document.Scanning

/-!
Places in a YAML text, with their lines and columns, and the kinds of characters.
-/

namespace RadixForest.Document.Yaml

structure Cursor where
  rest : List Char
  line : Nat := 0
  column : Nat := 0
  index : Nat := 0

namespace Cursor

/-- The character `n` places ahead. The text ends like one with a null character. -/
def peek (cursor : Cursor) (n : Nat) : Char := cursor.rest[n]?.getD '\x00'

def here (cursor : Cursor) : Char := cursor.peek 0

def next (cursor : Cursor) : Cursor :=
  match cursor.rest with
  | [] => cursor
  | '\n' :: rest => ⟨rest, cursor.line + 1, 0, cursor.index + 1⟩
  | _ :: rest => ⟨rest, cursor.line, cursor.column + 1, cursor.index + 1⟩

def skip (cursor : Cursor) : Nat → Cursor
  | 0 => cursor
  | n + 1 => cursor.next.skip n

def span (cursor : Cursor) (kind : Char → Bool) : List Char × Cursor :=
  let run := cursor.rest.takeWhile kind
  (run, cursor.skip run.length)

def skipWhile (cursor : Cursor) (kind : Char → Bool) : Cursor := (cursor.span kind).2

end Cursor

def isBreak (c : Char) : Bool := c == '\n' || c == '\r'

def isEnd (c : Char) : Bool := c == '\x00'

def isBlank (c : Char) : Bool := c == ' ' || c == '\t'

def isBreakOrEnd (c : Char) : Bool := isBreak c || isEnd c

def endsWord (c : Char) : Bool := isBlank c || isBreakOrEnd c

def isNameChar (c : Char) : Bool := c.isAlphanum || c == '_' || c == '-'

def isFlowMark (c : Char) : Bool :=
  c == ',' || c == '[' || c == ']' || c == '\x7b' || c == '\x7d'

def Cursor.atMarker (cursor : Cursor) (c : Char) : Bool :=
  cursor.column == 0 && cursor.peek 0 == c && cursor.peek 1 == c && cursor.peek 2 == c &&
    endsWord (cursor.peek 3)

def Cursor.atDocumentMarker (cursor : Cursor) : Bool := cursor.atMarker '-' || cursor.atMarker '.'

def Cursor.skipComment (cursor : Cursor) : Cursor :=
  if cursor.here == '#' then cursor.skipWhile (!isBreakOrEnd ·) else cursor

end RadixForest.Document.Yaml
