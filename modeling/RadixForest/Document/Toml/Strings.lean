import RadixForest.Document.Scanning

/-!
Strings in TOML: basic strings with escapes between double quotes, literal strings without them
between single quotes, and the blocks between three quotes that may run over several lines.
-/

namespace RadixForest.Document.Toml

def isPlain (c : Char) : Bool := c == '\t' || (0x20 ≤ c.toNat && c.toNat != 0x7F)

def escaped? : Char → Option Char
  | 'b' => some '\x08'
  | 't' => some '\t'
  | 'n' => some '\n'
  | 'f' => some '\x0c'
  | 'r' => some '\r'
  | '"' => some '"'
  | '\\' => some '\\'
  | _ => none

def pointOf? (digits : List Char) : Option Char := (ofHex? digits).bind charOf?

def basic : List Char → Read (List Char)
  | '"' :: rest => some ([], rest)
  | '\\' :: 'u' :: a :: b :: c :: d :: rest => consEscaped (pointOf? [a, b, c, d]) (basic rest)
  | '\\' :: 'U' :: a :: b :: c :: d :: e :: f :: g :: h :: rest =>
    consEscaped (pointOf? [a, b, c, d, e, f, g, h]) (basic rest)
  | '\\' :: c :: rest => consEscaped (escaped? c) (basic rest)
  | c :: rest => if isPlain c then consRead c (basic rest) else none
  | [] => none

def literal : List Char → Read (List Char)
  | '\x27' :: rest => some ([], rest)
  | c :: rest => if isPlain c then consRead c (literal rest) else none
  | [] => none

/-- The end of a block, from behind the three quotes that close it. Up to two more quotes belong
to its text. -/
def closeBlock (quote : Char) : List Char → List Char × List Char
  | c :: d :: rest =>
    if c = quote then
      if d = quote then ([quote, quote], rest) else ([quote], d :: rest)
    else ([], c :: d :: rest)
  | [c] => if c = quote then ([quote], []) else ([], [c])
  | [] => ([], [])

inductive BlockPlace
  | text
  -- Behind a backslash and blanks, before the line ends.
  | lineRest
  -- Behind that line end, where blanks and further line ends are left out.
  | margin
deriving DecidableEq

/-- The text of a basic block. A backslash at the end of a line takes with it everything blank
that follows. -/
def basicBlock : BlockPlace → List Char → Read (List Char)
  | .lineRest, ' ' :: rest => basicBlock .lineRest rest
  | .lineRest, '\t' :: rest => basicBlock .lineRest rest
  | .lineRest, '\n' :: rest => basicBlock .margin rest
  | .lineRest, _ => none
  | .margin, ' ' :: rest => basicBlock .margin rest
  | .margin, '\t' :: rest => basicBlock .margin rest
  | .margin, '\n' :: rest => basicBlock .margin rest
  | _, '"' :: '"' :: '"' :: rest => some (closeBlock '"' rest)
  | _, '\\' :: ' ' :: rest => basicBlock .lineRest rest
  | _, '\\' :: '\t' :: rest => basicBlock .lineRest rest
  | _, '\\' :: '\n' :: rest => basicBlock .margin rest
  | _, '\\' :: 'u' :: a :: b :: c :: d :: rest =>
    consEscaped (pointOf? [a, b, c, d]) (basicBlock .text rest)
  | _, '\\' :: 'U' :: a :: b :: c :: d :: e :: f :: g :: h :: rest =>
    consEscaped (pointOf? [a, b, c, d, e, f, g, h]) (basicBlock .text rest)
  | _, '\\' :: c :: rest => consEscaped (escaped? c) (basicBlock .text rest)
  | _, c :: rest =>
    if isPlain c || c == '\n' then consRead c (basicBlock .text rest) else none
  | _, [] => none

def literalBlock : List Char → Read (List Char)
  | '\x27' :: '\x27' :: '\x27' :: rest => some (closeBlock '\x27' rest)
  | c :: rest =>
    if isPlain c || c == '\n' then consRead c (literalBlock rest) else none
  | [] => none

def skipFirstLineEnd : List Char → List Char
  | '\n' :: rest => rest
  | text => text

def string? : List Char → Read (List Char)
  | '"' :: '"' :: '"' :: rest => basicBlock .text (skipFirstLineEnd rest)
  | '"' :: rest => basic rest
  | '\x27' :: '\x27' :: '\x27' :: rest => literalBlock (skipFirstLineEnd rest)
  | '\x27' :: rest => literal rest
  | _ => none

def lineString? : List Char → Read (List Char)
  | '"' :: '"' :: '"' :: _ => none
  | '"' :: rest => basic rest
  | '\x27' :: '\x27' :: '\x27' :: _ => none
  | '\x27' :: rest => literal rest
  | _ => none

end RadixForest.Document.Toml
