import RadixForest.Text.Lowercase

/-!
What lower-casing leaves alone. It does so with every character that it puts out, whatever stands
around it, so a text that has been lower-cased stays as it is, and so does each part of it.
-/

namespace RadixForest.Text

/-- A character that lower-casing leaves alone wherever it stands. -/
def Settled (c : Char) : Prop := lowercaseChar c = [c] ∧ c ≠ '\u03A3'

instance (c : Char) : Decidable (Settled c) := inferInstanceAs (Decidable (_ ∧ _))

namespace CaseRun

def image (run : CaseRun) : CaseRun where
  first := (run.first + run.shift).toNat
  last := (run.last + run.shift).toNat
  step := run.step
  shift := 0

def lands (run : CaseRun) : Bool :=
  0 ≤ run.first + run.shift &&
    (run.last + run.shift < 0xD800 ||
      (0xDFFF < run.first + run.shift && run.last + run.shift < 0x110000))

def misses (run other : CaseRun) : Bool :=
  run.last.blt other.first || other.last.blt run.first ||
    ((run.step == 2 || run.first == run.last) && other.step == 2 &&
      (run.first + other.first) % 2 == 1)

theorem covers_iff (run : CaseRun) (c : Char) :
    run.covers c ↔
      run.first ≤ c.toNat ∧ c.toNat ≤ run.last ∧ (c.toNat - run.first) % run.step = 0 := by
  simp only [covers, Bool.and_eq_true, decide_eq_true_eq, beq_iff_eq, and_assoc]

theorem not_covers_of_misses {run other : CaseRun} (apart : run.misses other) {c : Char}
    (covered : run.covers c) : ¬ other.covers c := by
  intro both
  obtain ⟨first, last, step⟩ := (run.covers_iff c).mp covered
  obtain ⟨otherFirst, otherLast, otherStep⟩ := (other.covers_iff c).mp both
  simp only [misses, Bool.or_eq_true, Bool.and_eq_true, Nat.blt_eq,
    beq_iff_eq] at apart
  rcases apart with (before | behind) | ⟨⟨even | single, otherEven⟩, odd⟩
  · omega
  · omega
  · rw [even] at step
    rw [otherEven] at otherStep
    omega
  · rw [otherEven] at otherStep
    omega

section Moved

variable {run : CaseRun} {c : Char} (lands : run.lands) (covered : run.covers c)

include lands covered

theorem toNat_moved :
    ((Char.ofNat (c.toNat + run.shift).toNat).toNat : Int) = c.toNat + run.shift := by
  obtain ⟨first, last, _⟩ := (run.covers_iff c).mp covered
  simp only [CaseRun.lands, Bool.or_eq_true, Bool.and_eq_true, decide_eq_true_eq] at lands
  have valid : (c.toNat + run.shift).toNat.isValidChar := by
    unfold Nat.isValidChar
    omega
  have same : (Char.ofNat (c.toNat + run.shift).toNat).toNat = (c.toNat + run.shift).toNat := by
    rw [Char.ofNat, dif_pos valid]
    rfl
  omega

theorem image_covers : run.image.covers (Char.ofNat (c.toNat + run.shift).toNat) := by
  have moved := toNat_moved lands covered
  obtain ⟨first, last, step⟩ := (run.covers_iff c).mp covered
  simp only [CaseRun.lands, Bool.and_eq_true, decide_eq_true_eq] at lands
  have low : (run.image.first : Int) = run.first + run.shift := Int.toNat_of_nonneg lands.1
  have high : (run.image.last : Int) = run.last + run.shift := Int.toNat_of_nonneg (by omega)
  have steps : (Char.ofNat (c.toNat + run.shift).toNat).toNat - run.image.first =
      c.toNat - run.first := by omega
  refine (run.image.covers_iff _).mpr ⟨by omega, by omega, ?_⟩
  rw [steps]
  exact step

end Moved

end CaseRun

def dottedCapital : CaseRun := ⟨0x130, 0x130, 1, 0⟩

theorem images_miss :
    lowercaseRuns.all fun run =>
      run.lands && (dottedCapital :: lowercaseRuns).all run.image.misses := by
  decide +kernel

theorem lowercaseChar_of_not_covered {c : Char}
    (free : ∀ run ∈ dottedCapital :: lowercaseRuns, ¬ run.covers c) : lowercaseChar c = [c] := by
  rw [List.forall_mem_cons] at free
  have notDotted : c ≠ '\u0130' := by
    rintro rfl
    exact free.1 (by decide)
  have none : lowercaseRuns.find? (·.covers c) = none :=
    List.find?_eq_none.mpr free.2
  rw [lowercaseChar, if_neg notDotted, none]

theorem ne_sigma_of_alone {c : Char} (alone : lowercaseChar c = [c]) : c ≠ '\u03A3' := by
  rintro rfl
  exact absurd alone (by decide +kernel)

theorem settled_of_mem_lowercaseChar {c d : Char} (member : d ∈ lowercaseChar c) : Settled d := by
  have settled (alone : lowercaseChar d = [d]) : Settled d := ⟨alone, ne_sigma_of_alone alone⟩
  by_cases dotted : c = '\u0130'
  · have parts : Settled 'i' ∧ Settled '\u0307' := by decide +kernel
    rw [dotted, lowercaseChar, if_pos rfl, List.mem_cons, List.mem_singleton] at member
    rcases member with rfl | rfl
    · exact parts.1
    · exact parts.2
  · cases found : lowercaseRuns.find? (·.covers c) with
    | none =>
        have alone : lowercaseChar c = [c] := by rw [lowercaseChar, if_neg dotted, found]
        rw [alone, List.mem_singleton] at member
        exact settled (member ▸ alone)
    | some run =>
        have moved : lowercaseChar c = [Char.ofNat (c.toNat + run.shift).toNat] := by
          rw [lowercaseChar, if_neg dotted, found]
        rw [moved, List.mem_singleton] at member
        have checked := List.all_eq_true.mp images_miss run (List.mem_of_find?_eq_some found)
        rw [Bool.and_eq_true] at checked
        have covers : run.covers c := List.find?_some (p := (CaseRun.covers · c)) found
        have covered := CaseRun.image_covers checked.1 covers
        refine settled (lowercaseChar_of_not_covered fun other among => ?_)
        rw [member]
        exact CaseRun.not_covers_of_misses (List.all_eq_true.mp checked.2 other among) covered

theorem settled_of_mem_lowercaseFrom {before text : List Char} {c : Char}
    (member : c ∈ lowercaseFrom before text) : Settled c := by
  induction text generalizing before with
  | nil => cases member
  | cons first rest ih =>
      rw [lowercaseFrom, List.mem_append] at member
      rcases member with here | later
      · split at here
        · -- Both forms of the small sigma are settled, so it does not matter which one it is.
          rw [List.mem_singleton] at here
          have forms : Settled '\u03C2' ∧ Settled '\u03C3' := by decide +kernel
          rw [here]
          split
          · exact forms.1
          · exact forms.2
        · exact settled_of_mem_lowercaseChar here
      · exact ih later

theorem lowercaseFrom_of_settled {text : List Char} (settled : ∀ c ∈ text, Settled c)
    (before : List Char) : lowercaseFrom before text = text := by
  induction text generalizing before with
  | nil => rfl
  | cons first rest ih =>
      rw [List.forall_mem_cons] at settled
      rw [lowercaseFrom, if_neg settled.1.2, settled.1.1, ih settled.2]
      rfl

/-- A text in lower case is one of settled characters. -/
theorem lowercase_eq_self_iff (text : List Char) :
    lowercase text = text ↔ ∀ c ∈ text, Settled c := by
  constructor
  · intro same c member
    rw [← same] at member
    exact settled_of_mem_lowercaseFrom member
  · exact fun settled => lowercaseFrom_of_settled settled []

theorem lowercase_lowercase (text : List Char) : lowercase (lowercase text) = lowercase text :=
  (lowercase_eq_self_iff _).mpr fun _ member => settled_of_mem_lowercaseFrom member

theorem lowercase_of_prefix {start text : List Char} (starts : start <+: text)
    (lowered : lowercase text = text) : lowercase start = start := by
  rw [lowercase_eq_self_iff] at lowered ⊢
  exact fun c member => lowered c (starts.subset member)

-- The capital sigma that ends a word becomes the final form, and the dotted capital I two
-- characters.
example : lowercase ['Σ', 'Ο', 'Σ', ' ', 'İ'] = ['σ', 'ο', 'ς', ' ', 'i', '\u0307'] := by
  decide +kernel

end RadixForest.Text
