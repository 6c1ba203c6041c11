/-!
Sets of characters given as ranges of code points, the form in which every character class of this
library is tabulated.
-/

namespace VisualNovel.Text

/-- A set of characters as a list of ranges, each given by its first and last code point. -/
abbrev CharRanges := List (Nat × Nat)

/-- Whether a character lies in one of the ranges. -/
def CharRanges.contains (ranges : CharRanges) (c : Char) : Bool :=
  ranges.any fun (first, last) => first ≤ c.toNat && c.toNat ≤ last

end VisualNovel.Text
