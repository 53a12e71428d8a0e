import RadixForest.Document.Toml.Lines

/-!
The tables of a TOML document, built from its lines. A header opens a table once; tables that are
only named on the way to another may still be opened later. Headers reach into the last item of a
list of tables, and into nothing that a pair has made.
-/

namespace RadixForest.Document.Toml

inductive Outline
  -- Made by a pair, or a table that is a date.
  | closed (value : Value)
  | table (opened : Bool) (entries : List (String × Outline))
  -- A list of tables, the last one first.
  | tables (items : List Outline)

namespace Outline

abbrev Entries := List (String × Outline)

def find? (entries : Entries) (name : String) : Option Outline :=
  (entries.find? (·.1 == name)).map (·.2)

def set (entries : Entries) (name : String) (outline : Outline) : Entries :=
  match find? entries name with
  | none => entries ++ [(name, outline)]
  | some _ => entries.map fun entry => if entry.1 == name then (name, outline) else entry

def make? (entries : Entries) (name : String) (outline : Outline) : Option Entries :=
  if entries.isEmpty && name = Tree.dateName then none else some (entries ++ [(name, outline)])

def fill? (pairs : Tree.Entries) (entries : Entries) : Option Entries :=
  match Tree.entries? pairs with
  | none => none
  | some pairs =>
    if pairs.any fun pair => (find? entries pair.1).isSome then none
    else some (entries ++ pairs.map fun pair => (pair.1, closed pair.2))

def ofPairs? (pairs : Tree.Entries) : Option Outline :=
  match Tree.asDate? pairs with
  | some date => date.map closed
  | none => (fill? pairs []).map (table true)

def open? (isItem : Bool) (pairs : Tree.Entries) : List String → Entries → Option Entries
  | [], entries => fill? pairs entries
  | [name], entries =>
    match find? entries name, isItem with
    | none, false => (ofPairs? pairs).bind fun new => make? entries name new
    | some (.table false below), false =>
      (fill? pairs below).map fun below => set entries name (.table true below)
    | none, true => (ofPairs? pairs).bind fun new => make? entries name (.tables [new])
    | some (.tables items), true =>
      (ofPairs? pairs).map fun new => set entries name (.tables (new :: items))
    | _, _ => none
  | name :: rest, entries =>
    match find? entries name with
    | none =>
      (open? isItem pairs rest []).bind fun below => make? entries name (.table false below)
    | some (.table opened below) =>
      (open? isItem pairs rest below).map fun below => set entries name (.table opened below)
    | some (.tables (.table opened last :: items)) =>
      (open? isItem pairs rest last).map fun last =>
        set entries name (.tables (.table opened last :: items))
    | _ => none

mutual

def value : Outline → Value
  | .closed value => value
  | .table _ entries => .table (values entries)
  | .tables items => .list (tableItems items [])

def values : List (String × Outline) → Table
  | [] => []
  | (name, outline) :: rest => (name, value outline) :: values rest

def tableItems : List Outline → List Value → List Value
  | [], later => later
  | item :: rest, later => tableItems rest (value item :: later)

end

end Outline

structure Section where
  path : List String
  isItem : Bool
  pairs : Tree.Entries

def sections? (current : Section) : List Line → Option (List Section)
  | [] => some [current]
  | .pair key value :: rest =>
    (Tree.add? key value current.pairs).bind fun pairs => sections? { current with pairs } rest
  | .header path isItem :: rest => (sections? ⟨path, isItem, []⟩ rest).map (current :: ·)

def Section.isBelow (part : Section) (path : List String) : Bool :=
  path.isPrefixOf part.path && part.path != path

/-- A date takes no tables. Those that stand below one in a list go over to the next item of the
list, as long as no list around it has a new item first. -/
def handOver : Nat → List Section → List Section
  | 0, sections => sections
  | _, [] => []
  | fuel + 1, part :: rest =>
    if part.isItem && (Tree.asDate? part.pairs).isSome then
      match rest.span fun other => !(other.isItem && other.path.isPrefixOf part.path) with
      | (between, next :: later) =>
        if next.path = part.path then
          let (below, others) := between.partition (·.isBelow part.path)
          part :: handOver fuel (others ++ next :: below ++ later)
        else part :: handOver fuel rest
      | _ => part :: handOver fuel rest
    else part :: handOver fuel rest

/-- A document that is a date as a whole has no entries, and its headers do not count. -/
def assemble? (lines : List Line) : Option Table := do
  let sections ← sections? ⟨[], false, []⟩ lines
  match (sections.head?.map (·.pairs)).bind Tree.asDate? with
  | some date => date.map fun _ => []
  | none =>
    let entries ← (handOver sections.length sections).foldlM (fun entries part =>
      Outline.open? part.isItem part.pairs part.path entries) []
    some (Outline.values entries)

def skipMark : List Char → List Char
  | '\uFEFF' :: rest => rest
  | text => text

def read? (text : List Char) : Option Table :=
  let text := foldLineEnds (skipMark text)
  (lines? (text.length + 1) text).bind assemble?

end RadixForest.Document.Toml
