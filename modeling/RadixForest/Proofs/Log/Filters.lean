import Mathlib.Data.List.TakeDrop
import RadixForest.Log.Filter
import RadixForest.Proofs.Text.Cuts

/-!
Where the parts of a rule lie. They are looked for behind the blanks in front of a rule and taken
out of the text with these blanks, which splits no character where there are none, or where every
character is a single byte.
-/

namespace RadixForest.Log.Filter

open Text

variable {isPattern : List Char → Bool}

def Between (text : List Char) (place : Nat) : Prop :=
  ∃ before behind, text = before ++ behind ∧ utf8Length before = place

theorem Between.le {text : List Char} {place : Nat} (between : Between text place) :
    place ≤ utf8Length text := by
  obtain ⟨before, behind, rfl, rfl⟩ := between
  rw [utf8Length_append]
  omega

theorem part_between {text : List Char} {start stop : Nat} (opened : Between text start)
    (closed : Between text stop) (order : start ≤ stop) :
    ∃ piece, part text start stop = .ok piece := by
  obtain ⟨before, behind, rfl, rfl⟩ := closed
  obtain ⟨front, back, same, rfl⟩ := opened
  have inside : front <+: before := by
    have starts : front <+: before ++ behind := ⟨back, same.symm⟩
    rcases List.prefix_or_prefix_of_prefix starts (List.prefix_append before behind) with
      inside | ⟨more, longer⟩
    · exact inside
    · rw [← longer, utf8Length_append] at order
      have none : more = [] := eq_nil_of_utf8Length (by omega)
      exact ⟨[], by rw [← longer, none, List.append_nil, List.append_nil]⟩
  obtain ⟨piece, rfl⟩ := inside
  refine ⟨piece, ?_⟩
  unfold part
  rw [splitAtByte?_append]
  simp only
  rw [splitAtByte?_append]

def Whole {α : Type} (outcome : Except Fault α) : Prop := outcome ≠ .error .splitsCharacter

theorem Whole.ok {α : Type} (value : α) : Whole (.ok value) := by
  intro split
  cases split

theorem Whole.malformed {α : Type} : Whole (.error .malformed : Except Fault α) := by
  intro split
  cases split

theorem Whole.bind {α β : Type} {first : Except Fault α} {next : α → Except Fault β}
    (whole : Whole first) (later : ∀ value, Whole (next value)) : Whole (first >>= next) := by
  cases first with
  | error fault =>
      intro split
      cases split
      exact whole rfl
  | ok value => exact later value

theorem Whole.mapM {α β : Type} {read : α → Except Fault β} {items : List α}
    (whole : ∀ item ∈ items, Whole (read item)) : Whole (items.mapM read) := by
  induction items with
  | nil => exact .ok []
  | cons item rest ih =>
      rw [List.mapM_cons]
      refine .bind (whole item List.mem_cons_self) fun value => ?_
      exact .bind (ih fun item member => whole item (List.mem_cons_of_mem _ member)) fun _ => .ok _

/-- Every place between the characters of what is left without the blanks is one of the text. -/
def Aligned (text : List Char) : Prop :=
  ∀ before behind, trimmed text = before ++ behind → Between text (utf8Length before)

theorem part_whole {text : List Char} {start stop : Nat} (opened : Between text start)
    (closed : Between text stop) (order : start ≤ stop) : Whole (part text start stop) := by
  obtain ⟨piece, found⟩ := part_between opened closed order
  rw [found]
  exact .ok piece

theorem levelFrom_whole {text : List Char} {start : Nat} (opened : Between text start) :
    Whole (levelFrom text start) := by
  have closed : Between text (utf8Length text) := ⟨text, [], (List.append_nil text).symm, rfl⟩
  refine .bind (part_whole opened closed opened.le) fun name => ?_
  split
  · exact .ok _
  · split
    · exact .ok _
    · exact .malformed

theorem span_cases (keeps : Char → Bool) (text : List Char) :
    ∃ piece behind, text.span keeps = (piece, behind) ∧ text = piece ++ behind ∧
      ∀ mark later, behind = mark :: later → keeps mark = false := by
  refine ⟨_, _, List.span_eq_takeWhile_dropWhile _ text, List.takeWhile_append_dropWhile.symm, ?_⟩
  intro mark later stopped
  have stops := List.head?_dropWhile_not keeps text
  simpa [stopped] using stops

theorem place_behind (opened : List Char) {mark : Char} (single : mark.utf8Size = 1) :
    utf8Length (opened ++ [mark]) = utf8Length opened + 1 := by
  rw [utf8Length_append, utf8Length, utf8Length, single]

theorem ruleOfDetail_whole (source : Option String) (detail : List Char) :
    Whole (ruleOfDetail isPattern source detail) := by
  unfold ruleOfDetail
  split
  · exact .malformed
  · exact .malformed
  · exact .ok _
  · split
    · exact .ok _
    · exact .malformed

section Rule

variable {text : List Char} (aligned : Aligned text)

include aligned

theorem piece_whole {opened piece behind : List Char}
    (here : trimmed text = opened ++ (piece ++ behind)) :
    Whole (part text (utf8Length opened) (utf8Length opened + utf8Length piece)) := by
  have later : trimmed text = (opened ++ piece) ++ behind := by rw [here, List.append_assoc]
  rw [← utf8Length_append]
  refine part_whole (aligned _ _ here) (aligned _ _ later) ?_
  rw [utf8Length_append]
  omega

theorem ruleEnd_whole {opened rest : List Char} (here : trimmed text = opened ++ rest)
    (rule : Option Rule) : Whole (ruleEnd text (utf8Length opened) rule rest) := by
  unfold ruleEnd
  split
  · exact .ok rule
  · rename_i rest
    have behind : trimmed text = (opened ++ ['=']) ++ rest := by simp [here]
    rw [← place_behind opened (rfl : '='.utf8Size = 1)]
    exact .bind (levelFrom_whole (aligned _ _ behind)) fun _ => .ok _
  · exact .malformed

theorem bracketRule_whole {opened rest : List Char} (here : trimmed text = opened ++ rest)
    (source : Option String) :
    Whole (bracketRule isPattern text source (utf8Length opened) rest) := by
  obtain ⟨work, behind, spans, rfl, stops⟩ := span_cases (fun c => c != ']' && c != '\x7b') rest
  have worked := piece_whole aligned here
  rw [← List.append_assoc] at here
  rw [← utf8Length_append] at worked
  unfold bracketRule
  rw [spans]
  dsimp only
  rw [← utf8Length_append]
  split
  · exact .malformed
  · rename_i rest
    refine .bind worked fun _ => ?_
    rw [← place_behind _ (rfl : ']'.utf8Size = 1)]
    exact ruleEnd_whole aligned (by simp [here]) none
  · rename_i brace rest other
    refine .bind worked fun work' => ?_
    obtain ⟨detail, behind, closes, rfl, stops'⟩ := span_cases (· != '\x7d') rest
    rw [closes]
    dsimp only
    split
    · exact .malformed
    · rename_i closing behind
      have opens : ¬brace = ']' → brace = '\x7b' := by simpa using stops brace _ rfl
      obtain rfl := opens other
      obtain rfl : closing = '\x7d' := by simpa using stops' closing _ rfl
      have inner : trimmed text =
          (opened ++ work ++ ['\x7b']) ++ (detail ++ '\x7d' :: behind) := by simp [here]
      have stop : utf8Length (opened ++ work ++ ['\x7b'] ++ detail ++ ['\x7d', ']']) =
          utf8Length (opened ++ work ++ ['\x7b']) + utf8Length detail + 2 := by
        rw [utf8Length_append, utf8Length_append _ detail]
        rfl
      rw [← place_behind _ (rfl : '\x7b'.utf8Size = 1)]
      refine .bind (piece_whole aligned inner) fun name => ?_
      refine .bind (ruleOfDetail_whole source name) fun rule => ?_
      split
      · rw [← stop]
        exact ruleEnd_whole aligned (by simp [here]) _
      · exact .malformed

theorem rule_whole : Whole (rule isPattern text) := by
  unfold rule
  split
  · exact .malformed
  · rename_i rest here
    have opened : trimmed text = ['['] ++ rest := here
    exact bracketRule_whole aligned opened none
  · rename_i c rest _ here
    split
    · exact .malformed
    · obtain ⟨source, behind, spans, parts, stops⟩ :=
        span_cases (fun c => c != '=' && c != '[') (c :: rest)
      rw [parts] at here
      have sourced := @piece_whole _ aligned [] source behind here
      rw [utf8Length, Nat.zero_add] at sourced
      rw [spans]
      dsimp only
      split
      · split
        · exact .ok _
        · exact .ok _
      · rename_i mark rest
        have single : mark.utf8Size = 1 := by
          have marks : mark = '=' ∨ mark = '[' := by
            simpa [Decidable.or_iff_not_imp_left] using stops mark rest rfl
          rcases marks with rfl | rfl <;> rfl
        have behind : trimmed text = (source ++ [mark]) ++ rest := by simp [here]
        rw [← place_behind source single]
        refine .bind sourced fun name => ?_
        split
        · exact .bind (levelFrom_whole (aligned _ _ behind)) fun _ => .ok _
        · exact bracketRule_whole aligned behind _

end Rule

theorem trimmed_infix (text : List Char) : trimmed text <:+: text := by
  have front : (text.dropWhile isBlank).reverse.dropWhile isBlank <:+
      (text.dropWhile isBlank).reverse := List.dropWhile_suffix _
  have back := List.reverse_prefix.mpr front
  rw [List.reverse_reverse] at back
  exact back.isInfix.trans (List.dropWhile_suffix _).isInfix

theorem aligned_of_unblanked {text : List Char} (starts : ∀ c ∈ text.head?, isBlank c = false) :
    Aligned text := by
  have kept : text.dropWhile isBlank = text := by
    cases text with
    | nil => rfl
    | cons c rest => rw [List.dropWhile_cons_of_neg (by simp [starts c rfl])]
  have front : text.reverse.dropWhile isBlank <:+ text.reverse := List.dropWhile_suffix _
  obtain ⟨tail, whole⟩ := List.reverse_prefix.mpr front
  intro before behind here
  unfold trimmed at here
  rw [kept] at here
  rw [here, List.reverse_reverse, List.append_assoc] at whole
  exact ⟨before, behind ++ tail, whole.symm, rfl⟩

theorem utf8Length_of_single {text : List Char} (single : ∀ c ∈ text, c.utf8Size = 1) :
    utf8Length text = text.length := by
  induction text with
  | nil => rfl
  | cons c rest ih =>
      have rest := ih fun c member => single c (List.mem_cons_of_mem _ member)
      rw [utf8Length, single c List.mem_cons_self, rest, List.length_cons, Nat.add_comm]

theorem aligned_of_single {text : List Char} (single : ∀ c ∈ text, c.utf8Size = 1) :
    Aligned text := by
  intro before behind here
  have inside : before <:+: text :=
    (List.prefix_append before behind).isInfix.trans (here ▸ trimmed_infix text)
  have size : utf8Length before = before.length :=
    utf8Length_of_single fun c member => single c (inside.subset member)
  refine ⟨text.take before.length, text.drop before.length, (List.take_append_drop _ _).symm, ?_⟩
  rw [utf8Length_of_single fun c member => single c (List.mem_of_mem_take member), size,
    List.length_take, Nat.min_eq_left inside.length_le]

/-- No blank stands in front, or no character has more than one byte. -/
def staysWhole (rule : List Char) : Bool :=
  rule.head?.all (!isBlank ·) || rule.all (·.utf8Size == 1)

theorem aligned_of_staysWhole {text : List Char} (whole : staysWhole text) : Aligned text := by
  rcases Bool.or_eq_true_iff.mp whole with starts | single
  · refine aligned_of_unblanked fun c found => ?_
    simpa [Option.mem_def.mp found] using starts
  · exact aligned_of_single fun c member => by simpa using List.all_eq_true.mp single c member

theorem ofText_whole {text : String} (rules : (text.toList.splitOn ',').all staysWhole) :
    ofText isPattern text ≠ .error .splitsCharacter := by
  unfold ofText
  refine Whole.bind (.mapM fun piece member => ?_) fun read => .ok _
  have whole := List.all_eq_true.mp rules piece (List.mem_filter.mp member).1
  exact rule_whole (aligned_of_staysWhole whole)

end RadixForest.Log.Filter
