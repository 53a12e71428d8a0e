import RadixForest.Log.Pattern
import RadixForest.Log.Record
import RadixForest.Number.Reading
import RadixForest.Text.Blank
import RadixForest.Text.CommonStart

/-!
Filters of the log: a list of rules with commas between them. A rule names the least level to
keep, for everything, for the sources whose names start in a given way, or for the records that
have a given detail. Of the rules that apply to a record the most specific one counts.
-/

namespace RadixForest.Log

structure Rule where
  -- Applies to all sources if absent.
  source : Option String := none
  -- Applies with and without details if absent.
  detail : Option String := none
  -- Nothing is kept if absent.
  least : Option Level
deriving DecidableEq, Repr

structure Filter where
  rules : List Rule
deriving Repr

namespace Filter

inductive Fault
  | malformed
  | splitsCharacter
deriving DecidableEq, Repr

def levelNames : List (String × Option Level) :=
  [("off", none), ("error", some .error), ("warn", some .warn), ("info", some .info),
    ("debug", some .debug), ("trace", some .trace)]

def level? (name : List Char) : Option (Option Level) :=
  match Number.uint64? name with
  | some n => (levelNames[n]?).map (·.2)
  | none => (levelNames.find? (·.1.toList == Number.asciiLower name)).map (·.2)

def trimmed (text : List Char) : List Char :=
  ((text.dropWhile Text.isBlank).reverse.dropWhile Text.isBlank).reverse

def mayStartRule (c : Char) : Bool :=
  c == '-' || c == ':' || c == '_' || Text.isAlphanumeric c

def part (text : List Char) (start stop : Nat) : Except Fault (List Char) :=
  match Text.splitAtByte? stop text with
  | none => .error .splitsCharacter
  | some (before, _) =>
    match Text.splitAtByte? start before with
    | none => .error .splitsCharacter
    | some (_, part) => .ok part

def levelFrom (text : List Char) (start : Nat) : Except Fault (Option Level) := do
  match ← part text start (Text.utf8Length text) with
  | [] => .ok (some .trace)
  | name =>
    match level? name with
    | some least => .ok least
    | none => .error .malformed

def ruleEnd (text : List Char) (start : Nat) (rule : Option Rule) :
    List Char → Except Fault (Option Rule)
  | [] => .ok rule
  | '=' :: _ => do
    let least ← levelFrom text (start + 1)
    return rule.map ({ · with least })
  | _ => .error .malformed

variable (isPattern : List Char → Bool)

def ruleOfDetail (source : Option String) (detail : List Char) : Except Fault (Option Rule) :=
  match detail.splitOn '=' with
  | [] | [[]] => .error .malformed
  | [name] => .ok (some { source, detail := some (String.ofList name), least := some .trace })
  | _ :: value :: _ =>
    if (Number.binary64? value).isSome || isPattern value then .ok none else .error .malformed

/-- A rule from behind its opening bracket: the name of a work, or a detail between braces. No
record is part of a work, so a rule with such a name is read and applies to nothing. -/
def bracketRule (text : List Char) (source : Option String) (start : Nat) (rest : List Char) :
    Except Fault (Option Rule) := do
  let (work, behind) := rest.span fun c => c != ']' && c != '\x7b'
  let place := start + Text.utf8Length work
  match behind with
  | [] => .error .malformed
  | ']' :: rest =>
    let _ ← part text start place
    ruleEnd text (place + 1) none rest
  | _ :: rest =>
    let work ← part text start place
    let (detail, behind) := rest.span (· != '\x7d')
    let stop := place + 1 + Text.utf8Length detail
    match behind with
    | [] => .error .malformed
    | _ :: behind =>
      let rule ← ruleOfDetail isPattern source (← part text (place + 1) stop)
      match behind with
      | ']' :: rest => ruleEnd text (stop + 2) (if work.isEmpty then rule else none) rest
      | _ => .error .malformed

/-- A source, a level, or both with `=` between them; brackets may follow the source. Blanks around
a rule do not count where its parts are looked for, but they are not taken out: every part stands
so many bytes behind the start of the whole text. -/
def rule (text : List Char) : Except Fault (Option Rule) := do
  match trimmed text with
  | [] => .error .malformed
  | '[' :: rest => bracketRule isPattern text none 1 rest
  | c :: rest =>
    if !mayStartRule c then .error .malformed
    else
      let (source, behind) := (c :: rest).span fun c => c != '=' && c != '['
      let place := Text.utf8Length source
      match behind with
      | [] =>
        match level? text with
        | some least => .ok (some { least })
        | none => .ok (some { source := some (String.ofList text), least := some .trace })
      | mark :: rest =>
        let source := String.ofList (← part text 0 place)
        if mark = '=' then
          let least ← levelFrom text (place + 1)
          return some { source := some source, least }
        else bracketRule isPattern text (some source) (place + 1) rest

def ofText (text : String) : Except Fault Filter := do
  let rules ← ((text.toList.splitOn ',').filter (!·.isEmpty)).mapM (rule isPattern)
  return ⟨rules.filterMap id⟩

def applies (record : Record) (rule : Rule) : Bool :=
  rule.source.all (fun start => record.source.name.startsWith start) &&
    rule.detail.all fun name => name == "message" || record.details.any (·.1 == name)

/-- A longer source is more specific, then any detail, then the greater name of it. Of two equal
rules the later one counts. -/
def isStronger (rule best : Rule) : Bool :=
  let size (rule : Rule) := (rule.source.map fun source => source.utf8ByteSize + 1).getD 0
  if size rule = size best then
    match best.detail, rule.detail with
    | none, _ => true
    | some _, none => false
    | some best, some name => !(name < best)
  else size best < size rule

def stronger (best : Option Rule) (rule : Rule) : Option Rule :=
  if best.all (isStronger rule) then some rule else best

def keeps (filter : Filter) (record : Record) : Bool :=
  match (filter.rules.filter (applies record)).foldl stronger none with
  | some { least := some least, .. } => least.rank ≤ record.level.rank
  | _ => false

end Filter

end RadixForest.Log
