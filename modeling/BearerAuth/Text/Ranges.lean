/-!
# Ranges of code points

Properties of characters are tables of ranges, each given by its first and last code point.
-/
namespace BearerAuth.Text

def inRanges (ranges : List (Nat × Nat)) (c : Char) : Bool :=
  ranges.any fun range => range.1 ≤ c.toNat && c.toNat ≤ range.2

/-- Ranges that share a value are listed under it; a character outside of all has none. -/
def valueInRanges? {α : Type} (table : List (α × List (Nat × Nat))) (c : Char) : Option α :=
  (table.find? fun entry => inRanges entry.2 c).map (·.1)

end BearerAuth.Text
