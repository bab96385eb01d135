/-!
# Heights of patterns

How deeply the parts of a pattern are nested. A single piece has height 0.
-/

namespace ShellInit.Pattern

def heightLimit : Nat := 250

/-- The height of parts that stand together; a part alone is no nesting. -/
def together : List Nat → Nat
  | [] => 0
  | [height] => height
  | heights => heights.foldl max 0 + 1

end ShellInit.Pattern
