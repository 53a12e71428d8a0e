/-!
Sets of characters given by their code points. A set is kept as the ascending list of the points
at which membership changes, so a run of characters costs two numbers, and a character below the
first change is out after one comparison.
-/

namespace RadixForest.Text

structure CodePoints where
  edges : List Nat

namespace CodePoints

/-- `inside` is the membership of the points just below the first edge. -/
def insideFrom (point : Nat) : Bool → List Nat → Bool
  | inside, [] => inside
  | inside, edge :: rest => if point < edge then inside else insideFrom point (!inside) rest

def contains (set : CodePoints) (c : Char) : Bool :=
  insideFrom c.toNat false set.edges

end CodePoints

end RadixForest.Text
