import RadixForest.Document.Scanning
import RadixForest.Text.Alphanumeric
import RadixForest.Text.Blank

/-!
Regular expressions, as far as a filter asks: whether a text is one. There are no tables of
characters for them, so a class such as `\d`, a word boundary or a character whose case does not
count is an error, unless it is asked for in single bytes as in `(?-u)\d`. There in turn everything
is an error that could match a part of a character: `\D`, a dot, or a set of all but some bytes.
-/

namespace RadixForest.Log.Pattern

open Document

structure Flags where
  unicode : Bool := true
  -- Case does not count.
  folding : Bool := false
  -- Blanks and comments are left out.
  spaced : Bool := false

def skipFrom : Bool → List Char → List Char
  | _, [] => []
  | true, c :: rest => skipFrom (c != '\n') rest
  | false, c :: rest =>
    if c = '#' then skipFrom true rest
    else if Text.isBlank c then skipFrom false rest
    else c :: rest

def Flags.skip (flags : Flags) (text : List Char) : List Char :=
  if flags.spaced then skipFrom false text else text

-- Looking ahead takes the number sign of a comment out as well, but not the comment.
def Flags.peek? (flags : Flags) (text : List Char) : Option Char :=
  if flags.spaced then
    match text.dropWhile Text.isBlank with
    | '#' :: rest => (rest.dropWhile Text.isBlank).head?
    | rest => rest.head?
  else text.head?

inductive Atom
  | char (c : Char)
  | byte (c : Char)
  | place
  | boundary
  | kind (negated : Bool)

/-- The atoms that can be matched without tables, and by whole characters only. -/
def Flags.admit (flags : Flags) : Atom → Bool
  | .char _ => !flags.unicode || !flags.folding
  | .byte c => if flags.unicode then !flags.folding else c.toNat < 0x80
  | .place => true
  | .boundary => !flags.unicode
  | .kind negated => !flags.unicode && !negated

def Flags.admitInSet (flags : Flags) : Atom → Bool
  | .char c | .byte c => if flags.unicode then !flags.folding else c.toNat < 0x80
  | .kind negated => !flags.unicode && !negated
  | .place | .boundary => false

def isMark (c : Char) : Bool := c.toNat < 0x80 && !c.isAlphanum && c != '<' && c != '>'

def control? : Char → Option Char
  | 'a' => some '\x07'
  | 'f' => some '\x0c'
  | 'n' => some '\n'
  | 'r' => some '\r'
  | 't' => some '\t'
  | 'v' => some '\x0b'
  | _ => none

def digits? (flags : Flags) : Nat → List Char → Read (List Char)
  | 0, text => some ([], text)
  | n + 1, text =>
    match flags.skip text with
    | [] => none
    | c :: rest => consRead c (digits? flags n rest)

def escape? (flags : Flags) : List Char → Read Atom
  | [] => none
  | c :: rest =>
    if isMark c then some (.char c, rest)
    else if c = 'A' || c = 'z' then some (.place, rest)
    else if c = 'b' || c = 'B' || c = '<' || c = '>' then some (.boundary, rest)
    else if c = 'd' || c = 's' || c = 'w' then some (.kind false, rest)
    else if c = 'D' || c = 'S' || c = 'W' then some (.kind true, rest)
    else match codeLength? c with
      | none => (control? c).map fun c => (.char c, rest)
      | some length =>
        match digits? flags length rest with
        | none => none
        | some (digits, rest) => ((ofHex? digits).bind charOf?).map fun point =>
          (if c = 'x' then .byte point else .char point, rest)

def setAtom? (flags : Flags) : List Char → Read Atom
  | [] => none
  | '\\' :: rest => escape? flags rest
  | c :: rest => some (.char c, rest)

def Atom.char? : Atom → Option Char
  | .char c | .byte c => some c
  | _ => none

def setNames : List String :=
  ["alnum", "alpha", "ascii", "blank", "cntrl", "digit", "graph", "lower", "print", "punct",
    "space", "upper", "word", "xdigit"]

def namedSet? : List Char → Read Bool
  | ':' :: rest =>
    let (negated, rest) := match rest with
      | '^' :: rest => (true, rest)
      | rest => (false, rest)
    match spanOf (· != ':') rest with
    | (name, ':' :: ']' :: rest) =>
      if setNames.contains (String.ofList name) then some (negated, rest) else none
    | _ => none
  | _ => none

inductive Opening
  | new
  | dashes
  | done

def complement? (admitted : Bool) (flags : Flags) (text : List Char) : Option (List Char) :=
  match flags.skip text with
  | '^' :: rest => if admitted then some rest else none
  | rest => some rest

def setItem? (flags : Flags) (text : List Char) : Option (List Char) := do
  let (low, rest) ← setAtom? flags text
  let alone := if flags.admitInSet low then some (flags.skip rest) else none
  match flags.skip rest with
  | '-' :: behind =>
    if flags.peek? behind == some ']' || flags.peek? behind == some '-' then alone
    else
      let (high, rest) ← setAtom? flags (flags.skip behind)
      if flags.admitInSet low && flags.admitInSet high && (← low.char?) ≤ (← high.char?) then
        some rest
      else none
  | _ => alone

/-- The text behind a set, from inside it. Sets may stand in sets, here `depth` of them around the
text. -/
def setEnd? (flags : Flags) : Nat → Nat → Opening → List Char → Option (List Char)
  | 0, _, _, _ => none
  | fuel + 1, depth, opening, text =>
    let literal (c : Char) (opening : Opening) (rest : List Char) :=
      if flags.admitInSet (.char c) then setEnd? flags fuel depth opening rest else none
    match opening, flags.skip text with
    | _, [] => none
    | .new, '-' :: rest | .dashes, '-' :: rest => literal '-' .dashes rest
    | .new, ']' :: rest => literal ']' .done rest
    | _, '[' :: rest =>
      match namedSet? rest with
      | some (negated, rest) =>
        if flags.admitInSet (.char 'a') && (flags.unicode || !negated) then
          setEnd? flags fuel depth .done rest
        else none
      | none =>
        (complement? (flags.unicode && !flags.folding) flags rest).bind
          (setEnd? flags fuel (depth + 1) .new)
    | _, ']' :: rest => if depth = 0 then some rest else setEnd? flags fuel (depth - 1) .done rest
    | _, '&' :: '&' :: rest | _, '-' :: '-' :: rest | _, '~' :: '~' :: rest =>
      setEnd? flags fuel depth .done rest
    | _, text => (setItem? flags text).bind (setEnd? flags fuel depth .done)

def isName : List Char → Bool
  | [] => false
  | c :: rest =>
    (c == '_' || (Text.isAlphanumeric c && !c.isDigit)) &&
      rest.all fun c => c == '_' || c == '.' || c == '[' || c == ']' || Text.isAlphanumeric c

def areFlags (written : List Char) : Bool :=
  written.all (fun c => "imsUuRx-".toList.contains c && written.count c = 1) &&
    written.getLast? != some '-'

def Flags.set (flags : Flags) (written : List Char) : Flags :=
  let state (c : Char) (old : Bool) : Bool :=
    if written.contains c then !(written.takeWhile (· != c)).contains '-' else old
  { unicode := state 'u' flags.unicode
    folding := state 'i' flags.folding
    spaced := state 'x' flags.spaced }

inductive Group
  | standing (flags : Flags)
  | opened (flags : Flags)
  | named (name : List Char)

def group? (flags : Flags) : List Char → Read Group
  | '?' :: 'P' :: '<' :: rest | '?' :: '<' :: rest =>
    match spanOf (· != '>') rest with
    | (name, _ :: rest) => if isName name then some (.named name, rest) else none
    | _ => none
  | '?' :: rest =>
    match spanOf (fun c => c != ':' && c != ')') rest with
    | (written, ':' :: rest) =>
      if areFlags written then some (.opened (flags.set written), rest) else none
    | (written, ')' :: rest) =>
      if !written.isEmpty && areFlags written then some (.standing (flags.set written), rest)
      else none
    | _ => none
  | rest => some (.opened flags, rest)

structure State where
  flags : Flags := {}
  -- The flags of the groups around the place, the innermost first.
  outer : List Flags := []
  names : List (List Char) := []
  -- There is something to repeat.
  operand : Bool := false

def isRest : Nat → State → List Char → Bool
  | 0, _, _ => false
  | fuel + 1, state, text =>
    let onward (rest : List Char) := isRest fuel { state with operand := true } rest
    match state.flags.skip text with
    | [] => state.outer.isEmpty
    | '\\' :: rest =>
      (escape? state.flags rest).any fun (atom, rest) => state.flags.admit atom && onward rest
    | '[' :: rest =>
      ((complement? state.flags.unicode state.flags rest).bind
        (setEnd? state.flags (rest.length + 1) 0 .new)).any onward
    | '(' :: rest =>
      match group? state.flags (state.flags.skip rest) with
      | none => false
      | some (.standing flags, rest) => isRest fuel { state with flags, operand := false } rest
      | some (.opened flags, rest) =>
        isRest fuel { state with flags, outer := state.flags :: state.outer, operand := false } rest
      | some (.named name, rest) =>
        !state.names.contains name && isRest fuel { state with
          outer := state.flags :: state.outer
          names := name :: state.names
          operand := false } rest
    | ')' :: rest =>
      match state.outer with
      | [] => false
      | flags :: outer => isRest fuel { state with flags, outer, operand := true } rest
    | '|' :: rest => isRest fuel { state with operand := false } rest
    | '*' :: rest | '+' :: rest | '?' :: rest => state.operand && onward rest
    | '\x7b' :: _ => false
    | '.' :: rest => state.flags.unicode && onward rest
    | '^' :: rest | '$' :: rest => onward rest
    | c :: rest => state.flags.admit (.char c) && onward rest

end RadixForest.Log.Pattern

namespace RadixForest.Log

/-- The text is a regular expression. A counted repetition cannot stand in a filter, where its
closing brace would end the detail. -/
def isPattern (text : List Char) : Bool := Pattern.isRest (text.length + 1) {} text

end RadixForest.Log
