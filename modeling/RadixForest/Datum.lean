import RadixForest.Text.Quoted

/-!
Values of a trie that holds texts and whole numbers side by side.
-/

namespace RadixForest

inductive Datum
  | text (s : String)
  | number (n : Int)
deriving DecidableEq, Repr

def Datum.shown : Datum → String
  | .text s => Text.quoted s
  | .number n => toString n

end RadixForest
