import VisualNovel.Number.Binary64
/-!
Numbers as a story holds them: exact integers of any size, or double-precision numbers.  Integers
stay exact among themselves; where the two kinds meet, the integer is rounded first, which fails
when it is beyond the finite range.
-/

namespace VisualNovel

inductive Number where
  | int (value : Int)
  | float (value : Binary64)
  deriving DecidableEq

namespace Number

/-- The double-precision number nearest to a number; nothing for an integer beyond the range. -/
def toBinary64? : Number → Option Binary64
  | int n => Binary64.ofInt? n
  | float x => some x

/-- The sum; nothing when an integer beyond the range meets a double-precision number. -/
def add? : Number → Number → Option Number
  | int m, int n => some (int (m + n))
  | a, b => do return float ((← a.toBinary64?).add (← b.toBinary64?))

/-- Whether two numbers are equal in value; no rounding takes place, and `nan` equals nothing. -/
def equal : Number → Number → Bool
  | int m, int n => m == n
  | int m, float x => x.compareInt? m == some .eq
  | float x, int n => x.compareInt? n == some .eq
  | float x, float y => x.compare? y == some .eq

end Number

end VisualNovel
