import RadixForest.Proofs.Document.Tables

/-!
Names that spell paths. A name whose parts between dots are identifiers is read as the path of
these parts, and nothing that is laid along such paths runs past the start of a list.
-/

namespace RadixForest.Document

def isIdentifier (name : String) : Bool := !name.toList.isEmpty && name.toList.all Step.isNameChar

def partsOf (name : String) : List String := (name.toList.splitOn '.').map String.ofList

theorem takeWhile_word {kind : Char → Bool} {word rest : List Char} (all : ∀ c ∈ word, kind c)
    (stops : ∀ c ∈ rest.head?, kind c = false) : (word ++ rest).takeWhile kind = word := by
  rw [List.takeWhile_append_of_pos all]
  cases rest with
  | nil => simp
  | cons c rest => simp [stops c rfl]

theorem dropWhile_word {kind : Char → Bool} {word rest : List Char} (all : ∀ c ∈ word, kind c)
    (stops : ∀ c ∈ rest.head?, kind c = false) : (word ++ rest).dropWhile kind = rest := by
  rw [List.dropWhile_append_of_pos all]
  cases rest with
  | nil => rfl
  | cons c rest => simp [stops c rfl]

namespace Step

def dottedWords (words : List (List Char)) : List Char := words.flatMap ('.' :: ·)

theorem head_dottedWords (words : List (List Char)) :
    ∀ c ∈ (dottedWords words).head?, isNameChar c = false := by
  cases words with
  | nil => simp [dottedWords]
  | cons word rest =>
      intro c member
      cases member
      decide

theorem length_le_dottedWords (words : List (List Char)) :
    words.length ≤ (dottedWords words).length := by
  induction words with
  | nil => exact Nat.le_refl 0
  | cons word rest ih =>
      simp only [dottedWords, List.flatMap_cons, List.length_append, List.length_cons] at ih ⊢
      omega

theorem laterSteps?_dotted {words : List (List Char)}
    (named : ∀ word ∈ words, word ≠ [] ∧ ∀ c ∈ word, isNameChar c) {fuel : Nat}
    (enough : words.length ≤ fuel) :
    laterSteps? fuel (dottedWords words) =
      some (words.map fun word => .name (String.ofList word)) := by
  induction words generalizing fuel with
  | nil => cases fuel <;> rfl
  | cons word rest ih =>
      obtain ⟨filled, nameChars⟩ := named word List.mem_cons_self
      obtain ⟨fuel, rfl⟩ : ∃ less, fuel = less + 1 := ⟨fuel - 1, by
        simp only [List.length_cons] at enough
        omega⟩
      have later := ih (fun word member => named word (List.mem_cons_of_mem _ member))
        (Nat.le_of_succ_le_succ enough)
      have stops := head_dottedWords rest
      change laterSteps? (fuel + 1) ('.' :: (word ++ dottedWords rest)) = _
      obtain ⟨first, others, rfl⟩ := List.exists_cons_of_ne_nil filled
      simp only [laterSteps?, takeWhile_word nameChars stops,
        dropWhile_word nameChars stops, later, Option.map_some, List.map_cons]

theorem ofName_dotted {first : List Char} {words : List (List Char)}
    (named : ∀ word ∈ first :: words, word ≠ [] ∧ ∀ c ∈ word, isNameChar c) :
    ofName (String.ofList (first ++ dottedWords words)) =
      (first :: words).map fun word => .name (String.ofList word) := by
  obtain ⟨filled, nameChars⟩ := named first List.mem_cons_self
  have stops := head_dottedWords words
  have enough : words.length ≤ (first ++ dottedWords words).length := by
    rw [List.length_append]
    exact Nat.le_add_left_of_le (length_le_dottedWords words)
  have later :=
    laterSteps?_dotted (fun word member => named word (List.mem_cons_of_mem _ member)) enough
  obtain ⟨c, rest, rfl⟩ := List.exists_cons_of_ne_nil filled
  simp only [ofName, String.toList_ofList, takeWhile_word nameChars stops,
    dropWhile_word nameChars stops, later, List.map_cons]

theorem intercalate_dot (first : List Char) (words : List (List Char)) :
    ['.'].intercalate (first :: words) = first ++ dottedWords words := by
  induction words generalizing first with
  | nil => simp [dottedWords]
  | cons next rest ih =>
      rw [List.intercalate_cons_cons, ih]
      simp [dottedWords]

theorem ofName_parts {name : String} (named : ∀ part ∈ partsOf name, isIdentifier part) :
    ofName name = (partsOf name).map .name := by
  have whole : ['.'].intercalate (name.toList.splitOn '.') = name.toList :=
    List.intercalate_splitOn _
  unfold partsOf at named ⊢
  cases parts : name.toList.splitOn '.' with
  | nil => exact absurd parts (List.splitOn_ne_nil _ _)
  | cons first words =>
      rw [parts, intercalate_dot] at whole
      rw [parts] at named
      have spelled : String.ofList (first ++ dottedWords words) = name := by
        rw [whole, String.ofList_toList]
      rw [← spelled, ofName_dotted]
      · rw [List.map_map]
        rfl
      · intro word member
        have identifier := named (String.ofList word) (List.mem_map_of_mem member)
        simpa [isIdentifier, List.isEmpty_iff] using identifier

end Step

theorem partsOf_ne_nil (name : String) : partsOf name ≠ [] := by
  simp [partsOf, List.splitOn_ne_nil]

theorem partsOf_identifier {name : String} (identifier : isIdentifier name) :
    partsOf name = [name] := by
  have noDot : '.' ∉ name.toList := by
    intro member
    simp only [isIdentifier, Bool.and_eq_true, List.all_eq_true] at identifier
    exact absurd (identifier.2 '.' member) (by decide)
  rw [partsOf, List.splitOn_eq_singleton noDot, List.map_singleton, String.ofList_toList]

/-- What stands at the start of a path after a value has been laid along it. -/
def Value.along (incoming : Value) : List String → Option Value → Value
  | [], old => overlay old incoming
  | name :: rest, old =>
    let under := (old.getD .null).entries
    .table (Table.set under name (along incoming rest (Table.get? under name)))

theorem Value.putAt_names (incoming : Value) {path : List String} (filled : path ≠ [])
    (target : Value) :
    putAt incoming (path.map .name) target = .ok (along incoming path (some target)) := by
  induction path generalizing target with
  | nil => exact absurd rfl filled
  | cons name rest ih =>
      cases rest with
      | nil => rfl
      | cons next rest =>
          have inner := ih (List.cons_ne_nil next rest)
            ((Table.get? target.entries name).getD .null)
          rw [List.map_cons, List.map_cons] at *
          rw [putAt, inner]
          · rfl
          · simp

def Value.lay (document : Value) (entries : Table) : Value :=
  entries.foldl (fun document entry => along entry.2 (partsOf entry.1) (some document)) document

theorem Value.layer_eq_lay {entries : Table}
    (named : ∀ entry ∈ entries, ∀ part ∈ partsOf entry.1, isIdentifier part) (document : Value) :
    document.layer entries = .ok (document.lay entries) := by
  induction entries generalizing document with
  | nil => rfl
  | cons entry rest ih =>
      rw [layer, List.foldlM_cons, Step.ofName_parts (named entry List.mem_cons_self),
        putAt_names _ (partsOf_ne_nil _)]
      exact ih (fun entry member => named entry (List.mem_cons_of_mem _ member)) _

/-- Entries whose names are no longer paths are laid over a document as a table is. -/
theorem Value.lay_identifiers {entries : Table}
    (identifiers : ∀ entry ∈ entries, isIdentifier entry.1) (document : Value) :
    document.lay entries = overlayEntries document entries := by
  induction entries generalizing document with
  | nil => rw [overlayEntries]; rfl
  | cons entry rest ih =>
      obtain ⟨name, value⟩ := entry
      have step : along value (partsOf name) (some document) = document.put name value := by
        rw [partsOf_identifier (identifiers (name, value) List.mem_cons_self)]
        rfl
      rw [overlayEntries, ← put,
        ← ih fun entry member => identifiers entry (List.mem_cons_of_mem _ member), ← step]
      rfl

end RadixForest.Document
