import RadixForest.Document.Toml.Quoted

/-!
Strings that are written and read back. Whatever form a text is written in, the reader finds the
text in it, as long as no further quote follows.
-/

namespace RadixForest.Document.Toml

theorem isPlain_of_not_control {c : Char} (free : isControl c = false) : isPlain c := by
  simp only [isControl, Bool.or_eq_false_iff, decide_eq_false_iff_not, beq_eq_false_iff_ne] at free
  simp only [isPlain, Bool.or_eq_true, beq_iff_eq, Bool.and_eq_true, decide_eq_true_eq, bne_iff_ne]
  exact .inr ⟨by omega, free.2⟩

theorem isPlain_or_lineFeed {text : List Char} (free : text.any needsEscape = false) :
    ∀ c ∈ text, isPlain c ∨ c = '\n' := by
  intro c member
  have free : needsEscape c = false := by simpa using List.any_eq_false.mp free c member
  by_cases feed : c = '\n'
  · exact .inr feed
  · refine .inl ?_
    by_cases tab : c = '\t'
    · subst tab
      rfl
    · exact isPlain_of_not_control (by simpa [needsEscape, feed, tab] using free)

theorem pointOf?_fourHexDigits {c : Char} (control : isControl c) :
    pointOf? (fourHexDigits c.toNat) = some c := by
  have all : ∀ n < 0x80, pointOf? (fourHexDigits n) = some (Char.ofNat n) := by decide
  have small : c.toNat < 0x80 := by
    simp only [isControl, Bool.or_eq_true, decide_eq_true_eq, beq_iff_eq] at control
    omega
  rw [all _ small, Char.ofNat_toNat]

theorem isControl_fourHexDigits {n : Nat} {digit : Char} (member : digit ∈ fourHexDigits n) :
    isControl digit = false := by
  have digits : ∀ m < 16, isControl (upperHexDigit m) = false := by decide
  have below (m : Nat) : m % 16 < 16 := Nat.mod_lt m (by decide)
  simp only [fourHexDigits, List.mem_cons, List.not_mem_nil, or_false] at member
  rcases member with rfl | rfl | rfl | rfl
  all_goals exact digits _ (below _)

theorem escape_cases (inBlock : Bool) (c : Char) :
    escape inBlock c = [c] ∧ c ≠ '\\' ∧ (isControl c = false ∨ inBlock ∧ c = '\n') ∨
      (∃ letter, escape inBlock c = ['\\', letter] ∧ escaped? letter = some c) ∨
      escape inBlock c = '\\' :: 'u' :: fourHexDigits c.toNat ∧ isControl c := by
  unfold escape
  split
  · exact .inr (.inl ⟨'b', rfl, by simp_all [escaped?]⟩)
  split
  · exact .inr (.inl ⟨'t', rfl, by simp_all [escaped?]⟩)
  split
  · split
    · refine .inl ⟨by simp_all, by simp_all, .inr ⟨by assumption, by assumption⟩⟩
    · exact .inr (.inl ⟨'n', rfl, by simp_all [escaped?]⟩)
  split
  · exact .inr (.inl ⟨'f', rfl, by simp_all [escaped?]⟩)
  split
  · exact .inr (.inl ⟨'r', rfl, by simp_all [escaped?]⟩)
  split
  · exact .inr (.inl ⟨'\\', rfl, by simp_all [escaped?]⟩)
  split
  · exact .inr (.inr ⟨rfl, by assumption⟩)
  · exact .inl ⟨rfl, by assumption, .inl (by simp_all)⟩

theorem eq_of_mem_escape {inBlock : Bool} {c other : Char} (member : other ∈ escape inBlock c)
    (control : isControl other) : other = '\n' ∧ c = '\n' := by
  have letters (letter c : Char) (stands : escaped? letter = some c) :
      isControl letter = false := by
    unfold escaped? at stands
    split at stands
    all_goals first | rfl | cases stands
  rcases escape_cases inBlock c with ⟨same, _, free⟩ | ⟨letter, same, stands⟩ | ⟨same, _⟩
  · rw [same, List.mem_singleton] at member
    subst member
    rcases free with free | ⟨_, feed⟩
    · rw [free] at control
      cases control
    · exact ⟨feed, feed⟩
  · rw [same] at member
    simp only [List.mem_cons, List.not_mem_nil, or_false] at member
    rcases member with rfl | rfl
    · cases control
    · rw [letters _ _ stands] at control
      cases control
  · rw [same, List.mem_cons, List.mem_cons] at member
    rcases member with rfl | rfl | digit
    · cases control
    · cases control
    · rw [isControl_fourHexDigits digit] at control
      cases control

theorem eq_of_mem_escaped {inBlock : Bool} {quotes : Nat} {text : List Char} {c : Char}
    (member : c ∈ escaped inBlock quotes text) (control : isControl c) :
    c = '\n' ∧ '\n' ∈ text := by
  induction text generalizing quotes with
  | nil => cases member
  | cons first text ih =>
      have later {quotes : Nat} (member : c ∈ escaped inBlock quotes text) :
          c = '\n' ∧ '\n' ∈ first :: text :=
        (ih member).imp_right (List.mem_cons_of_mem _)
      rw [escaped] at member
      split at member
      · rename_i quote
        subst quote
        split at member
        · rcases List.mem_cons.mp member with rfl | member
          · cases control
          · exact later member
        · simp only [List.mem_cons] at member
          rcases member with rfl | rfl | member
          · cases control
          · cases control
          · exact later member
      · rcases List.mem_append.mp member with here | member
        · obtain ⟨feed, same⟩ := eq_of_mem_escape here control
          exact ⟨feed, same ▸ List.mem_cons_self⟩
        · exact later member

theorem consEscaped_some (c : Char) (rest : Read (List Char)) :
    consEscaped (some c) rest = consRead c rest := by
  cases rest <;> rfl

theorem ne_of_escaped? {letter other c : Char} (stands : escaped? letter = some c)
    (nothing : escaped? other = none) : letter ≠ other := by
  rintro rfl
  rw [stands] at nothing
  cases nothing

theorem basic_escape {c : Char} (other : c ≠ '"') (rest : List Char) :
    basic (escape false c ++ rest) = consRead c (basic rest) := by
  rcases escape_cases false c with ⟨same, slash, free⟩ | ⟨letter, same, stands⟩ | ⟨same, control⟩
  · have plain : isPlain c := isPlain_of_not_control (by simpa using free)
    rw [same, List.singleton_append]
    simp [basic, slash, plain]
  · have noPoint : letter ≠ 'u' := ne_of_escaped? stands rfl
    have noLongPoint : letter ≠ 'U' := ne_of_escaped? stands rfl
    rw [same, ← consEscaped_some, ← stands]
    simp [basic, noPoint, noLongPoint]
  · rw [same, ← consEscaped_some, ← pointOf?_fourHexDigits control]
    simp [basic, fourHexDigits]

theorem basic_escaped (quotes : Nat) (text rest : List Char) :
    basic (escaped false quotes text ++ '"' :: rest) = some (text, rest) := by
  induction text generalizing quotes with
  | nil => rfl
  | cons c text ih =>
      by_cases quote : c = '"'
      · subst quote
        have later := ih 0
        simp only [escaped, Bool.false_and, Bool.false_eq_true, if_false, if_true,
          List.cons_append]
        simp [basic, escaped?, consEscaped_some, later, consRead]
      · simp only [escaped, quote, if_false, List.append_assoc]
        rw [basic_escape quote, ih 0]
        rfl

theorem literal_plain {text : List Char} (plain : ∀ c ∈ text, isPlain c ∧ c ≠ '\x27')
    (rest : List Char) : literal (text ++ '\x27' :: rest) = some (text, rest) := by
  induction text with
  | nil => rfl
  | cons c text ih =>
      obtain ⟨kind, other⟩ := plain c List.mem_cons_self
      have later := ih fun c member => plain c (List.mem_cons_of_mem _ member)
      simp [literal, kind, later, consRead]

/-! ### Blocks -/

theorem basicBlock_escape {c : Char} (other : c ≠ '"') (rest : List Char) :
    basicBlock .text (escape true c ++ rest) = consRead c (basicBlock .text rest) := by
  rcases escape_cases true c with ⟨same, slash, free⟩ | ⟨letter, same, stands⟩ | ⟨same, control⟩
  · have plain : isPlain c || c == '\n' := by
      rcases free with free | ⟨_, feed⟩
      · simp [isPlain_of_not_control free]
      · simp [feed]
    rw [same, List.singleton_append]
    simp [basicBlock, other, slash, plain]
  · have noPoint : letter ≠ 'u' := ne_of_escaped? stands rfl
    have noLongPoint : letter ≠ 'U' := ne_of_escaped? stands rfl
    have noBlank : letter ≠ ' ' ∧ letter ≠ '\t' ∧ letter ≠ '\n' :=
      ⟨ne_of_escaped? stands rfl, ne_of_escaped? stands rfl, ne_of_escaped? stands rfl⟩
    rw [same, ← consEscaped_some, ← stands]
    simp [basicBlock, noPoint, noLongPoint, noBlank]
  · rw [same, ← consEscaped_some, ← pointOf?_fourHexDigits control]
    simp [basicBlock, fourHexDigits]

theorem escape_starts (inBlock : Bool) {c : Char} (other : c ≠ '"') :
    ∃ first rest, escape inBlock c = first :: rest ∧ first ≠ '"' := by
  rcases escape_cases inBlock c with ⟨same, _⟩ | ⟨letter, same, _⟩ | ⟨same, _⟩
  · exact ⟨c, [], same, other⟩
  · exact ⟨'\\', _, same, by decide⟩
  · exact ⟨'\\', _, same, by decide⟩

theorem escaped_starts (inBlock : Bool) (quotes : Nat) (c : Char) (text : List Char)
    (apart : c = '"' → inBlock → 2 ≤ quotes) :
    ∃ first rest, escaped inBlock quotes (c :: text) = first :: rest ∧ first ≠ '"' := by
  by_cases quote : c = '"'
  · refine ⟨'\\', c :: escaped inBlock 0 text, ?_, by decide⟩
    have full : (inBlock && decide (quotes < 2)) = false := by
      cases inBlock with
      | false => rfl
      | true => exact decide_eq_false (Nat.not_lt.mpr (apart quote rfl))
    rw [escaped, quote, full]
    rfl
  · obtain ⟨first, rest, starts, other⟩ := escape_starts inBlock quote
    exact ⟨first, rest ++ escaped inBlock 0 text, by simp [escaped, quote, starts], other⟩

theorem closeBlock_stop {quote : Char} {rest : List Char} (stops : rest.head? ≠ some quote) :
    closeBlock quote rest = ([], rest) := by
  match rest with
  | [] => rfl
  | [c] =>
      have other : c ≠ quote := by simpa using stops
      simp [closeBlock, other]
  | c :: d :: rest =>
      have other : c ≠ quote := by simpa using stops
      simp [closeBlock, other]

theorem closeBlock_one {quote : Char} {rest : List Char} (stops : rest.head? ≠ some quote) :
    closeBlock quote (quote :: rest) = ([quote], rest) := by
  cases rest with
  | nil => simp [closeBlock]
  | cons c rest =>
      have other : c ≠ quote := by simpa using stops
      simp [closeBlock, other]

theorem basicBlock_quote {rest : List Char} (few : ∀ later, rest ≠ '"' :: '"' :: later) :
    basicBlock .text ('"' :: rest) = consRead '"' (basicBlock .text rest) := by
  have plain : isPlain '"' = true := by decide
  match rest with
  | [] => simp [basicBlock, plain]
  | [c] => simp [basicBlock, plain]
  | c :: d :: later =>
      by_cases quote : c = '"'
      · have other : d ≠ '"' := by
          rintro rfl
          exact few later (by rw [quote])
        simp [basicBlock, plain, other]
      · simp [basicBlock, plain, quote]

/-- Quotes in a block are read as they are, since no three of them follow each other before the
marks that close it. At the end of a text up to two quotes stand before these marks. -/
theorem basicBlock_escaped {quotes : Nat} (few : quotes ≤ 2) (text : List Char) {rest : List Char}
    (stops : rest.head? ≠ some '"') :
    basicBlock .text (escaped true quotes text ++ '"' :: '"' :: '"' :: rest) =
      some (text, rest) := by
  induction text generalizing quotes with
  | nil => simp [escaped, basicBlock, closeBlock_stop stops]
  | cons c text ih =>
      by_cases quote : c = '"'
      case neg =>
          simp only [escaped, quote, if_false, List.append_assoc]
          rw [basicBlock_escape quote, ih (Nat.zero_le 2)]
          rfl
      subst quote
      by_cases full : quotes < 2
      case neg =>
          have later := ih (Nat.zero_le 2)
          simp [escaped, full, basicBlock, escaped?, consEscaped_some, later, consRead]
      have later := ih full
      have written : escaped true quotes ('"' :: text) = '"' :: escaped true (quotes + 1) text := by
        simp [escaped, full]
      rw [written, List.cons_append]
      by_cases crowded : ∃ behind,
          escaped true (quotes + 1) text ++ '"' :: '"' :: '"' :: rest = '"' :: '"' :: behind
      case neg =>
          rw [basicBlock_quote fun behind same => crowded ⟨behind, same⟩, later]
          rfl
      -- With two more quotes behind it, the quote is one of the last two of the text.
      obtain ⟨behind, two⟩ := crowded
      cases text with
      | nil => simp [escaped, basicBlock, closeBlock_one stops]
      | cons d text =>
          by_cases apart : d = '"' → 2 ≤ quotes + 1
          case pos =>
              obtain ⟨first, others, starts, other⟩ :=
                escaped_starts true (quotes + 1) d text fun quote _ => apart quote
              rw [starts] at two
              exact absurd (List.cons.inj two).1 other
          obtain ⟨rfl, low⟩ := Classical.not_imp.mp apart
          rw [Nat.not_le] at low
          have written : escaped true (quotes + 1) ('"' :: text) =
              '"' :: escaped true (quotes + 2) text := by simp [escaped, low]
          rw [written, List.cons_append] at two ⊢
          cases text with
          | nil => simp [escaped, basicBlock, closeBlock]
          | cons e text =>
              obtain ⟨first, others, starts, other⟩ :=
                escaped_starts true (quotes + 2) e text fun _ _ => Nat.le_add_left 2 quotes
              rw [starts] at two
              exact absurd (List.cons.inj (List.cons.inj two).2).1 other

theorem literalBlock_quote {rest : List Char} (few : ∀ later, rest ≠ '\x27' :: '\x27' :: later) :
    literalBlock ('\x27' :: rest) = consRead '\x27' (literalBlock rest) := by
  have plain : isPlain '\x27' = true := by decide
  match rest with
  | [] => simp [literalBlock, plain]
  | [c] => simp [literalBlock, plain]
  | c :: d :: later =>
      by_cases quote : c = '\x27'
      · have other : d ≠ '\x27' := by
          rintro rfl
          exact few later (by rw [quote])
        simp [literalBlock, plain, other]
      · simp [literalBlock, plain, quote]

theorem longestRun_ge (mark : Char) (current : Nat) (text : List Char) :
    current ≤ longestRun mark current text := by
  induction text generalizing current with
  | nil => exact Nat.le_refl _
  | cons c text ih =>
      rw [longestRun]
      split
      · exact Nat.le_trans (Nat.le_succ current) (ih (current + 1))
      · exact Nat.le_max_left _ _

theorem literalBlock_plain {current : Nat} {text rest : List Char}
    (plain : ∀ c ∈ text, isPlain c ∨ c = '\n') (few : longestRun '\x27' current text ≤ 2)
    (stops : rest.head? ≠ some '\x27') :
    literalBlock (text ++ '\x27' :: '\x27' :: '\x27' :: rest) = some (text, rest) := by
  induction text generalizing current with
  | nil => simp [literalBlock, closeBlock_stop stops]
  | cons c text ih =>
      have below : ∀ c ∈ text, isPlain c ∨ c = '\n' :=
        fun c member => plain c (List.mem_cons_of_mem _ member)
      rw [longestRun] at few
      by_cases quote : c = '\x27'
      case neg =>
          rw [if_neg quote] at few
          have kind : isPlain c || c == '\n' := by simpa using plain c List.mem_cons_self
          have later := ih below (Nat.le_trans (Nat.le_max_right _ _) few)
          simp [literalBlock, quote, kind, later, consRead]
      subst quote
      rw [if_pos rfl] at few
      have later := ih below few
      by_cases crowded : ∃ behind,
          text ++ '\x27' :: '\x27' :: '\x27' :: rest = '\x27' :: '\x27' :: behind
      case neg =>
          rw [List.cons_append, literalBlock_quote fun behind same => crowded ⟨behind, same⟩, later]
          rfl
      obtain ⟨behind, two⟩ := crowded
      match text with
      | [] => simp [literalBlock, closeBlock_one stops]
      | [d] =>
          obtain ⟨rfl, _⟩ := List.cons.inj two
          simp [literalBlock, closeBlock]
      | d :: e :: text =>
          obtain ⟨rfl, next⟩ := List.cons.inj two
          obtain ⟨rfl, _⟩ := List.cons.inj next
          have run := longestRun_ge '\x27' (current + 1 + 1 + 1) text
          simp only [longestRun, if_true] at few
          omega

theorem not_mem_of_longestRun {mark : Char} {text : List Char}
    (none : longestRun mark 0 text = 0) : mark ∉ text := by
  induction text with
  | nil => exact List.not_mem_nil
  | cons c text ih =>
      rw [longestRun] at none
      split at none
      · have run := longestRun_ge mark (0 + 1) text
        omega
      · rename_i other
        rw [List.mem_cons, not_or]
        exact ⟨Ne.symm other, ih (by omega)⟩

theorem formOf_cases (text : List Char) :
    (formOf text = .basic ∨ formOf text = .basicBlock) ∨
      (formOf text = .literal ∧ ∀ c ∈ text, isPlain c ∧ c ≠ '\x27') ∨
      (formOf text = .literalBlock ∧ (∀ c ∈ text, isPlain c ∨ c = '\n') ∧
        longestRun '\x27' 0 text ≤ 2) := by
  simp only [formOf]
  split
  · exact .inl (.inl rfl)
  split
  · rename_i free
    simp only [Bool.and_eq_true, Bool.not_eq_true', List.contains_eq_mem, decide_eq_false_iff_not,
      decide_eq_true_eq] at free
    obtain ⟨⟨free, onLine⟩, none⟩ := free
    refine .inr (.inl ⟨rfl, fun c member => ⟨?_, ?_⟩⟩)
    · rcases isPlain_or_lineFeed free c member with plain | feed
      · exact plain
      · exact absurd (feed ▸ member) onLine
    · rintro rfl
      exact not_mem_of_longestRun none member
  split
  · exact .inl (.inr rfl)
  split
  · rename_i free
    simp only [Bool.and_eq_true, Bool.not_eq_true', decide_eq_true_eq] at free
    exact .inr (.inr ⟨rfl, isPlain_or_lineFeed free.1, free.2⟩)
  split
  · exact .inl (.inl rfl)
  · exact .inl (.inr rfl)

theorem string?_basic (text : List Char) {rest : List Char} (stops : rest.head? ≠ some '"') :
    string? ('"' :: (escaped false 0 text ++ '"' :: rest)) = some (text, rest) := by
  have read := basic_escaped 0 text rest
  cases text with
  | nil =>
      cases rest with
      | nil => rfl
      | cons c rest =>
          have other : c ≠ '"' := by simpa using stops
          simp [string?, escaped, basic, other]
  | cons c text =>
      obtain ⟨first, others, starts, other⟩ :=
        escaped_starts false 0 c text fun _ inBlock => Bool.noConfusion inBlock
      rw [starts] at read ⊢
      simp [string?, other, ← read]

theorem string?_literal {text : List Char} (plain : ∀ c ∈ text, isPlain c ∧ c ≠ '\x27')
    {rest : List Char} (stops : rest.head? ≠ some '\x27') :
    string? ('\x27' :: (text ++ '\x27' :: rest)) = some (text, rest) := by
  have read := literal_plain plain rest
  cases text with
  | nil =>
      cases rest with
      | nil => rfl
      | cons c rest =>
          have other : c ≠ '\x27' := by simpa using stops
          simp [string?, literal, other]
  | cons c text =>
      have other : c ≠ '\x27' := (plain c List.mem_cons_self).2
      rw [List.cons_append] at read ⊢
      simp [string?, other, ← read]

theorem skipFirstLineEnd_blocked {text body : List Char}
    (starts : '\n' ∉ text → body.head? ≠ some '\n') :
    skipFirstLineEnd ((if text.contains '\n' then ['\n'] else []) ++ body) = body := by
  by_cases feed : '\n' ∈ text
  · simp [feed, skipFirstLineEnd]
  · have other := starts feed
    simp only [List.contains_eq_mem, feed, decide_false, Bool.false_eq_true, if_false,
      List.nil_append]
    unfold skipFirstLineEnd
    split
    · exact absurd rfl other
    · rfl

theorem string?_basicBlock (text : List Char) {rest : List Char} (stops : rest.head? ≠ some '"') :
    string? (blocked '"' (text.contains '\n') (escaped true 0 text) ++ rest) =
      some (text, rest) := by
  have starts (noFeed : '\n' ∉ text) :
      (escaped true 0 text ++ '"' :: '"' :: '"' :: rest).head? ≠ some '\n' := by
    cases body : escaped true 0 text with
    | nil => simp
    | cons first others =>
        rw [List.cons_append, List.head?_cons, Ne, Option.some.injEq]
        intro feed
        have member : '\n' ∈ escaped true 0 text := by simp [body, feed]
        exact noFeed (eq_of_mem_escaped member rfl).2
  have read := basicBlock_escaped (Nat.zero_le 2) text stops
  rw [← skipFirstLineEnd_blocked starts] at read
  simpa [blocked, string?] using read

theorem string?_literalBlock {text : List Char} (plain : ∀ c ∈ text, isPlain c ∨ c = '\n')
    (few : longestRun '\x27' 0 text ≤ 2) {rest : List Char} (stops : rest.head? ≠ some '\x27') :
    string? (blocked '\x27' (text.contains '\n') text ++ rest) = some (text, rest) := by
  have starts (noFeed : '\n' ∉ text) :
      (text ++ '\x27' :: '\x27' :: '\x27' :: rest).head? ≠ some '\n' := by
    cases text with
    | nil => simp
    | cons c text =>
        rw [List.cons_append, List.head?_cons, Ne, Option.some.injEq]
        rintro rfl
        exact noFeed List.mem_cons_self
  have read := literalBlock_plain plain few stops
  rw [← skipFirstLineEnd_blocked starts] at read
  simpa [blocked, string?] using read

/-- The reader finds in what is written for a text the text itself. -/
theorem string?_quoted (text : List Char) {rest : List Char}
    (stops : ∀ c ∈ rest.head?, c ≠ '"' ∧ c ≠ '\x27') :
    string? (quoted text ++ rest) = some (text, rest) := by
  have noQuote : rest.head? ≠ some '"' := fun starts => (stops _ starts).1 rfl
  have noSingle : rest.head? ≠ some '\x27' := fun starts => (stops _ starts).2 rfl
  unfold quoted
  rcases formOf_cases text with (form | form) | ⟨form, plain⟩ | ⟨form, plain, few⟩
  · simpa [form, StringForm.write] using string?_basic text noQuote
  · rw [form]
    exact string?_basicBlock text noQuote
  · simpa [form, StringForm.write] using string?_literal plain noSingle
  · rw [form]
    exact string?_literalBlock plain few noSingle

theorem quoted_starts (text : List Char) :
    ∃ mark body, quoted text = mark :: body ∧ (mark = '"' ∨ mark = '\x27') := by
  unfold quoted
  cases formOf text with
  | basic => exact ⟨_, _, rfl, .inl rfl⟩
  | literal => exact ⟨_, _, rfl, .inr rfl⟩
  | basicBlock => exact ⟨_, _, rfl, .inl rfl⟩
  | literalBlock => exact ⟨_, _, rfl, .inr rfl⟩

theorem return_not_mem_quoted (text : List Char) : '\r' ∉ quoted text := by
  have inEscaped (inBlock : Bool) : '\r' ∉ escaped inBlock 0 text := by
    intro member
    exact absurd (eq_of_mem_escaped member rfl).1 (by decide)
  unfold quoted
  rcases formOf_cases text with (form | form) | ⟨form, plain⟩ | ⟨form, plain, _⟩
  · simp [form, StringForm.write, inEscaped]
  · simp [form, StringForm.write, blocked, inEscaped]
  · have absent : '\r' ∉ text := fun member => absurd (plain _ member).1 (by decide)
    simp [form, StringForm.write, absent]
  · have absent : '\r' ∉ text := fun member => absurd (plain _ member) (by decide)
    simp [form, StringForm.write, blocked, absent]

end RadixForest.Document.Toml
