/-!
Tables of the names of characters.
-/

namespace VisualNovel.Text

/-- The names of characters that follow one another, the first of them given by its code point.
Each line holds names separated by semicolons; where a name is empty a character has none here. -/
structure NameRun where
  first : Nat
  lines : List String

/-- The code point of the character that has a name in a run. -/
def NameRun.find? (run : NameRun) (name : String) : Option Nat :=
  ((run.lines.flatMap (·.splitOn ";")).findIdx? (· == name)).map (run.first + ·)

end VisualNovel.Text
