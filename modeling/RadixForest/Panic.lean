/-!
Ways in which a run is broken off in the middle.
-/

namespace RadixForest

inductive Panic
  -- A text was to be padded further than can be counted in sixteen bits.
  | paddingTooWide
  -- A position counted from the end of a list lies before its start.
  | positionBeforeStart
deriving DecidableEq, Repr

def Panic.message : Panic → String
  | .paddingTooWide => "Formatting argument out of range"
  | .positionBeforeStart => "attempt to subtract with overflow"

end RadixForest
