/-!
A tree of files, seen from its top directory, and the paths that lead through it.
-/

namespace RadixForest

inductive Files.Entry
  | directory
  | file (bytes : ByteArray)

/-- The entries by the names that lead to them. Directories on the way to an entry are there too. -/
structure Files where
  entries : List (List String × Files.Entry) := []

inductive ReadError
  | notFound
  | notDirectory
  | isDirectory
  | nameTooLong
  | notText
deriving DecidableEq, Repr

def ReadError.message : ReadError → String
  | .notFound => "No such file or directory (os error 2)"
  | .notDirectory => "Not a directory (os error 20)"
  | .isDirectory => "Is a directory (os error 21)"
  | .nameTooLong => "File name too long (os error 36)"
  | .notText => "stream did not contain valid UTF-8"

namespace Path

def pieces (path : String) : List String :=
  (path.toList.splitOn '/').map String.ofList

def parts (path : String) : List String :=
  match pieces path with
  | "." :: rest => "." :: rest.filter fun piece => piece != "" && piece != "."
  | all => all.filter fun piece => piece != "" && piece != "."

def extension? (path : String) : Option String :=
  match (parts path).getLast? with
  | none | some "." | some ".." => none
  | some name =>
    let (ending, before) := name.toList.reverse.span (· != '.')
    match before with
    | [] | [_] => none
    | _ => some (String.ofList ending.reverse)

def join (parts : List String) : String := "/".intercalate parts

def plain (path : String) : String :=
  (if path.startsWith "/" then "/" else "") ++ join (parts path)

end Path

namespace Files

inductive Place
  | inside (names : List String)
  | outside

def isBelow (names : List String) (entry : List String × Entry) : Bool :=
  names.isPrefixOf entry.1 && entry.1.length != names.length

def lookup? (files : Files) (names : List String) : Option Entry :=
  match files.entries.find? (·.1 == names) with
  | some (_, entry) => some entry
  | none =>
    if names.isEmpty || files.entries.any (isBelow names) then some .directory else none

def Place.entry? (files : Files) : Place → Option Entry
  | .outside => some .directory
  | .inside names => files.lookup? names.reverse

def nameLimit : Nat := 255

def pathLimit : Nat := 4095

/-- The place one piece further. Only a directory leads on. -/
def step (files : Files) (place : Place) (piece : String) : Except ReadError Place :=
  match place.entry? files with
  | none => .error .notFound
  | some (.file _) => .error .notDirectory
  | some .directory =>
    if piece = "" || piece = "." then .ok place
    else if nameLimit < piece.utf8ByteSize then .error .nameTooLong
    else match place with
      | .outside => if piece = ".." then .ok .outside else .error .notFound
      | .inside [] => if piece = ".." then .ok .outside else .ok (.inside [piece])
      | .inside (last :: names) =>
        if piece = ".." then .ok (.inside names) else .ok (.inside (piece :: last :: names))

def start (path : String) : Place :=
  if path.startsWith "/" then .outside else .inside []

def walk (files : Files) (path : String) : Except ReadError Place :=
  if path.isEmpty then .error .notFound
  else if pathLimit < path.utf8ByteSize then .error .nameTooLong
  else (Path.pieces path).foldlM files.step (start path)

def find (files : Files) (path : String) : Except ReadError Entry :=
  match files.walk path with
  | .error cause => .error cause
  | .ok place =>
    match place.entry? files with
    | some entry => .ok entry
    | none => .error .notFound

def exists? (files : Files) (path : String) : Bool := (files.find path).toBool

def isFile (files : Files) (path : String) : Bool :=
  match files.find path with
  | .ok (.file _) => true
  | _ => false

def readText (files : Files) (path : String) : Except ReadError String :=
  match files.find path with
  | .error cause => .error cause
  | .ok .directory => .error .isDirectory
  | .ok (.file bytes) =>
    match String.fromUTF8? bytes with
    | some text => .ok text
    | none => .error .notText

def set (files : Files) (names : List String) (entry : Entry) : Files :=
  ⟨(names, entry) :: files.entries.filter (·.1 != names)⟩

/-- Makes the directories on the way along some pieces, as far as they are missing. -/
def makeDirectories? (files : Files) (place : Place) : List String → Option Files
  | [] => some files
  | piece :: rest =>
    match files.step place piece with
    | .error _ => none
    | .ok next =>
      match next.entry? files, next with
      | some .directory, _ => files.makeDirectories? next rest
      | none, .inside names =>
        (files.set names.reverse .directory).makeDirectories? next rest
      | _, _ => none

def write? (files : Files) (path text : String) : Option Files :=
  match files.walk path with
  | .ok (.inside (name :: names)) =>
    match Place.entry? files (.inside (name :: names)) with
    | some .directory => none
    | _ => some (files.set (name :: names).reverse (.file text.toUTF8))
  | _ => none

end Files

end RadixForest
