import RadixForest.Trie.Basic

/-!
Runs of a trie: operations one after the other, and what they answer.
-/

namespace RadixForest.Trie

inductive Operation (V : Type)
  | insert (key : Key) (value : V) (replace : Bool)
  | find (key : Key)
  | contains (key : Key)
  | size
  | isEmpty
  | clear

inductive Answer (V : Type)
  | inserted (outcome : Except KeyError Bool)
  | found (outcome : Except KeyError (Option V))
  | contained (outcome : Except KeyError Bool)
  | size (count : Nat)
  | isEmpty (verdict : Bool)
  | cleared

structure Effect (V : Type) where
  answer : Answer V
  trie : Trie V
  events : List Event := []

variable {V : Type}

def perform (trie : Trie V) : Operation V → Effect V
  | .insert key value replace =>
    let insertion := trie.insert key value replace
    { answer := .inserted insertion.outcome, trie := insertion.trie, events := insertion.events }
  | .find key => { answer := .found (trie.find key), trie }
  | .contains key => { answer := .contained (trie.contains key), trie }
  | .size => { answer := .size trie.size, trie }
  | .isEmpty => { answer := .isEmpty trie.isEmpty, trie }
  | .clear => { answer := .cleared, trie := trie.clear }

/-- What a machine puts out for one input after the other, and its last state. -/
def transcript {State Input Output : Type} (step : State → Input → Output × State) :
    State → List Input → List Output × State
  | state, [] => ([], state)
  | state, input :: inputs =>
    let (output, next) := step state input
    let (outputs, last) := transcript step next inputs
    (output :: outputs, last)

def run : Trie V → List (Operation V) → List (Answer V) × Trie V :=
  transcript fun trie operation => ((trie.perform operation).answer, (trie.perform operation).trie)

theorem transcript_append {State Input Output : Type} (step : State → Input → Output × State)
    (state : State) (before after : List Input) :
    transcript step state (before ++ after) =
      ((transcript step state before).1 ++
          (transcript step (transcript step state before).2 after).1,
        (transcript step (transcript step state before).2 after).2) := by
  induction before generalizing state with
  | nil => rfl
  | cons input before ih => simp only [List.cons_append, transcript, ih]

theorem transcript_getElem? {State Input Output : Type} (step : State → Input → Output × State)
    (state : State) (inputs : List Input) (number : Nat) :
    (transcript step state inputs).1[number]? =
      inputs[number]?.map fun input =>
        (step (transcript step state (inputs.take number)).2 input).1 := by
  induction inputs generalizing state number with
  | nil => rfl
  | cons input inputs ih =>
      cases number with
      | zero => rfl
      | succ number => simpa [transcript] using ih (step state input).2 number

theorem transcript_keeps {State Input Output : Type} {step : State → Input → Output × State}
    (kept : State → Prop) (stays : ∀ state input, kept state → kept (step state input).2)
    (inputs : List Input) {state : State} (start : kept state) :
    kept (transcript step state inputs).2 := by
  induction inputs generalizing state with
  | nil => exact start
  | cons input inputs ih => exact ih (stays state input start)

/-- Two machines put out the same if a relation between their states holds at the start and every
step keeps it. -/
theorem transcript_related {One Other Input Output : Type} {step : One → Input → Output × One}
    {other : Other → Input → Output × Other} (related : One → Other → Prop)
    (matched : ∀ left right input, related left right →
      (step left input).1 = (other right input).1 ∧
        related (step left input).2 (other right input).2)
    (inputs : List Input) {left : One} {right : Other} (start : related left right) :
    (transcript step left inputs).1 = (transcript other right inputs).1 ∧
      related (transcript step left inputs).2 (transcript other right inputs).2 := by
  induction inputs generalizing left right with
  | nil => exact ⟨rfl, start⟩
  | cons input inputs ih =>
      obtain ⟨same, next⟩ := matched left right input start
      obtain ⟨later, last⟩ := ih next
      refine ⟨?_, last⟩
      simp only [transcript, same, later]

end RadixForest.Trie
