import RadixForest.Document.Toml.Strings

/-!
How a string is written in TOML. There are four forms, and a text takes the first one that holds
it without an escape. A text that needs escapes is basic, and a block if it has line ends.
-/

namespace RadixForest.Document.Toml

inductive StringForm
  | basic
  | literal
  | basicBlock
  | literalBlock
  deriving DecidableEq

def isControl (c : Char) : Bool := c.toNat ≤ 0x1F || c.toNat == 0x7F

def needsEscape (c : Char) : Bool := isControl c && c != '\t' && c != '\n'

def longestRun (mark : Char) (current : Nat) : List Char → Nat
  | [] => current
  | c :: rest =>
    if c = mark then longestRun mark (current + 1) rest
    else max current (longestRun mark 0 rest)

/-- One quote ends a string on one line, so none may stand in it, and three end a block. -/
def formOf (text : List Char) : StringForm :=
  let plain := !text.any needsEscape
  let straight := plain && !text.contains '\\'
  let onLine := !text.contains '\n'
  if straight && onLine && longestRun '"' 0 text = 0 then .basic
  else if plain && onLine && longestRun '\x27' 0 text = 0 then .literal
  else if straight && longestRun '"' 0 text ≤ 2 then .basicBlock
  else if plain && longestRun '\x27' 0 text ≤ 2 then .literalBlock
  else if onLine then .basic
  else .basicBlock

def upperHexDigit (n : Nat) : Char :=
  if n < 10 then Char.ofNat ('0'.toNat + n) else Char.ofNat ('A'.toNat + (n - 10))

def fourHexDigits (n : Nat) : List Char :=
  [upperHexDigit (n / 4096 % 16), upperHexDigit (n / 256 % 16), upperHexDigit (n / 16 % 16),
    upperHexDigit (n % 16)]

def escape (inBlock : Bool) (c : Char) : List Char :=
  if c = '\x08' then ['\\', 'b']
  else if c = '\t' then ['\\', 't']
  else if c = '\n' then if inBlock then ['\n'] else ['\\', 'n']
  else if c = '\x0c' then ['\\', 'f']
  else if c = '\r' then ['\\', 'r']
  else if c = '\\' then ['\\', '\\']
  else if isControl c then '\\' :: 'u' :: fourHexDigits c.toNat
  else [c]

/-- The characters of a basic string, of which `quotes` quotes have just passed unescaped. In a
block every third quote of a run is escaped, and on one line every quote is. -/
def escaped (inBlock : Bool) (quotes : Nat) : List Char → List Char
  | [] => []
  | c :: rest =>
    if c = '"' then
      if inBlock && quotes < 2 then c :: escaped inBlock (quotes + 1) rest
      else '\\' :: c :: escaped inBlock 0 rest
    else escape inBlock c ++ escaped inBlock 0 rest

/-- Puts a text between the marks of a block. A line end after the opening marks is not part of
the text, and stands there if the text has line ends of its own. -/
def blocked (mark : Char) (hasLineEnd : Bool) (body : List Char) : List Char :=
  let marks := [mark, mark, mark]
  marks ++ (if hasLineEnd then ['\n'] else []) ++ body ++ marks

def StringForm.write (form : StringForm) (text : List Char) : List Char :=
  match form with
  | .basic => '"' :: escaped false 0 text ++ ['"']
  | .literal => '\x27' :: text ++ ['\x27']
  | .basicBlock => blocked '"' (text.contains '\n') (escaped true 0 text)
  | .literalBlock => blocked '\x27' (text.contains '\n') text

def quoted (text : List Char) : List Char := (formOf text).write text

end RadixForest.Document.Toml
