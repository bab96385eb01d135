/-!
# Tables of characters

A property of characters as a list of ranges of code points. Ranges are inclusive and ascending.
-/

namespace ShellInit.Text

def inRanges (ranges : List (Nat × Nat)) (c : Char) : Bool :=
  ranges.any fun range ↦ range.1 ≤ c.toNat && c.toNat ≤ range.2

end ShellInit.Text
