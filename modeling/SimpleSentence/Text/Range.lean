/-!
A character class given by a standard is a list of closed ranges of code points.
-/

namespace SimpleSentence.Text

abbrev Ranges := List (Nat × Nat)

def inRanges (ranges : Ranges) (char : Char) : Bool :=
  ranges.any fun range => range.1 ≤ char.toNat && char.toNat ≤ range.2

end SimpleSentence.Text
