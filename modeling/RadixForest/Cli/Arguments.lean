/-!
The command line: options of the program, then a command with options of its own.
-/

namespace RadixForest.Cli

inductive Command
  | load (keys : String) (lookup : List String) (replace dump : Bool)
  | validate
  | genConfig (output : String)
deriving DecidableEq, Repr

structure Arguments where
  config : Option String
  command : Command
deriving DecidableEq, Repr

inductive Request
  | run (arguments : Arguments)
  | help
  | version
  | misuse (text : String)
deriving DecidableEq, Repr

structure Declared where
  short : Option Char := none
  long : String
  takesValue : Bool := false
  -- May be given several times.
  repeats : Bool := false
  -- An empty value is as good as any.
  allowsEmpty : Bool := false

structure Given where
  long : String
  value : String
deriving DecidableEq, Repr

inductive Options
  | given (options : List Given) (rest : List String)
  | help
  | version
  | misuse (text : String)

def looksLikeOption (word : String) : Bool := word.startsWith "-" && word != "-"

def valueFrom (text : List Char) : String :=
  match text with
  | '=' :: value => String.ofList value
  | value => String.ofList value

inductive Found
  | option (declared : Declared) (value : Option String)
  | help
  | version
  | unknown

def findShort (declared : List Declared) (hasVersion : Bool) (c : Char) (rest : List Char) :
    Found :=
  if c = 'h' then .help
  else if c = 'V' && hasVersion then .version
  else match declared.find? (·.short == some c) with
    | none => .unknown
    | some option => .option option (if rest.isEmpty then none else some (valueFrom rest))

def findLong (declared : List Declared) (hasVersion : Bool) (word : List Char) : Found :=
  let (name, behind) := word.span (· != '=')
  let name := String.ofList name
  let value := if behind.isEmpty then none else some (valueFrom behind)
  if name = "help" && value.isNone then .help
  else if name = "version" && hasVersion && value.isNone then .version
  else match declared.find? (·.long == name) with
    | none => .unknown
    | some option => .option option value

def findOption (declared : List Declared) (hasVersion : Bool) (word : String) : Found :=
  match word.toList with
  | '-' :: '-' :: name => findLong declared hasVersion name
  | '-' :: c :: rest => findShort declared hasVersion c rest
  | _ => .unknown

def missingValue (option : Declared) : String :=
  "a value is required for '--" ++ option.long ++ "' but none was supplied"

def accept (given : List Given) (option : Declared) (value : String) : Except String (List Given) :=
  if !option.repeats && given.any (·.long == option.long) then
    .error ("the argument '--" ++ option.long ++ "' cannot be used multiple times")
  else if option.takesValue && !option.allowsEmpty && value.isEmpty then
    .error (missingValue option)
  else .ok (given ++ [⟨option.long, value⟩])

/-- Reads options up to the first word that is none. -/
def readOptions (declared : List Declared) (hasVersion : Bool) (given : List Given) :
    List String → Options
  | [] => .given given []
  | word :: rest =>
    if !looksLikeOption word then .given given (word :: rest)
    else if word = "--" then
      match rest with
      | [] => .given given []
      | extra :: _ => .misuse ("unexpected argument '" ++ extra ++ "' found")
    else match findOption declared hasVersion word with
      | .help => .help
      | .version => .version
      | .unknown => .misuse ("unexpected argument '" ++ word ++ "' found")
      | .option option (some value) =>
        if option.takesValue then
          match accept given option value with
          | .ok given => readOptions declared hasVersion given rest
          | .error text => .misuse text
        else .misuse ("unexpected value '" ++ value ++ "' for '--" ++ option.long ++ "' found")
      | .option option none =>
        if option.takesValue then
          match rest with
          | [] => .misuse (missingValue option)
          | value :: rest =>
            if looksLikeOption value then .misuse (missingValue option)
            else match accept given option value with
              | .ok given => readOptions declared hasVersion given rest
              | .error text => .misuse text
        else match accept given option "" with
          | .ok given => readOptions declared hasVersion given rest
          | .error text => .misuse text

def ownOptions : List Declared := [{ short := some 'c', long := "config", takesValue := true }]

def loadOptions : List Declared :=
  [{ short := some 'k', long := "keys", takesValue := true },
    { short := some 'l', long := "lookup", takesValue := true, repeats := true
      allowsEmpty := true },
    { long := "no-replace" },
    { long := "dump" }]

def genConfigOptions : List Declared :=
  [{ short := some 'o', long := "output", takesValue := true }]

def commandNames : List String := ["load", "validate", "gen-config", "help"]

def valuesOf (given : List Given) (long : String) : List String :=
  (given.filter (·.long == long)).map (·.value)

def readCommand (declared : List Declared) (words : List String)
    (build : List Given → Request) : Request :=
  match readOptions declared false [] words with
  | .help => .help
  | .version => .version
  | .misuse text => .misuse text
  | .given given [] => build given
  | .given _ (extra :: _) => .misuse ("unexpected argument '" ++ extra ++ "' found")

def required (given : List Given) (long : String) (build : String → Request) : Request :=
  match valuesOf given long with
  | value :: _ => build value
  | [] => .misuse ("the required argument '--" ++ long ++ "' was not provided")

/-- What the words of a command line ask for. -/
def request (words : List String) : Request :=
  match readOptions ownOptions true [] words with
  | .help => .help
  | .version => .version
  | .misuse text => .misuse text
  | .given _ [] => .misuse "a command is required but none was provided"
  | .given given (name :: words) =>
    let run (command : Command) : Request :=
      .run { config := (valuesOf given "config").head?, command }
    if name = "load" then
      readCommand loadOptions words fun given =>
        required given "keys" fun keys =>
          run (.load keys (valuesOf given "lookup") (valuesOf given "no-replace").isEmpty
            !(valuesOf given "dump").isEmpty)
    else if name = "validate" then readCommand [] words fun _ => run .validate
    else if name = "gen-config" then
      readCommand genConfigOptions words fun given =>
        required given "output" fun output => run (.genConfig output)
    else if name = "help" then
      match words.drop (if words.head?.any commandNames.contains then 1 else 0) with
      | [] => .help
      | word :: _ => .misuse ("unrecognized subcommand '" ++ word ++ "'")
    else .misuse ("unrecognized subcommand '" ++ name ++ "'")

end RadixForest.Cli
