import VisualNovel.Number.Binary64
/-!
The decimal text of a double-precision number.  The digits are the fewest that read back as the same
number, and of those the nearest to it; where the point stands, and when an exponent is written, is
the business of a layout.
-/

namespace VisualNovel

/-- A decimal: its digits read as one whole number, times a power of ten. -/
structure Digits where
  significand : Nat
  exponent : Int
  deriving DecidableEq

namespace Digits

/-- The same value without trailing zeros in the significand. -/
def trimZeros (fuel : Nat) (d : Digits) : Digits :=
  match fuel with
  | 0 => d
  | fuel + 1 =>
    if d.significand ≠ 0 ∧ d.significand % 10 = 0 then
      trimZeros fuel ⟨d.significand / 10, d.exponent + 1⟩
    else d

end Digits

namespace Binary64

/-- The magnitude of a decimal in units, as a quotient. -/
def Digits.units (d : Digits) : Nat × Nat :=
  if 0 ≤ d.exponent then (d.significand * Nat.pow 10 d.exponent.toNat * one, 1)
  else (d.significand * one, Nat.pow 10 (-d.exponent).toNat)

/-- Whether rounding a decimal gives back the magnitude. -/
def readsBack (units : Nat) (d : Digits) : Bool :=
  let (num, den) := Digits.units d
  roundUnits num den == units

/-- How far a decimal lies from the magnitude, as the numerator of a fraction over the decimal's
denominator. -/
def distance (units : Nat) (d : Digits) : Nat :=
  let (num, den) := Digits.units d
  ((num : Int) - (units * den : Nat)).natAbs

/-- The exponent of ten `p` with 10ᵖ⁻¹ ≤ value < 10ᵖ, found among the three powers next to an
estimate from the binary logarithm. -/
def pointPosition (units : Nat) : Int :=
  let estimate : Int := ((units.log2 : Int) - 1074) * 30103 / 100000
  let below (p : Int) : Bool :=
    if 0 ≤ p then units < Nat.pow 10 p.toNat * one else units * Nat.pow 10 (-p).toNat < one
  if below estimate then estimate
  else if below (estimate + 1) then estimate + 1
  else estimate + 2

/-- The two neighbours of the magnitude on the grid of decimals with a given number of digits. -/
def neighbours (units : Nat) (point : Int) (digits : Nat) : Digits × Digits :=
  let exponent := point - digits
  let floor :=
    if 0 ≤ exponent then units / (Nat.pow 10 exponent.toNat * one)
    else units * Nat.pow 10 (-exponent).toNat / one
  (⟨floor, exponent⟩, ⟨floor + 1, exponent⟩)

/-- The neighbour on a grid that reads back; of two the nearer, and of two equally near the even
one. -/
def candidate? (units : Nat) (point : Int) (digits : Nat) : Option Digits :=
  let (below, above) := neighbours units point digits
  match readsBack units below, readsBack units above with
  | true, true =>
    let d := distance units below
    let e := distance units above
    if d < e then some below
    else if e < d then some above
    else some (if below.significand % 2 = 0 then below else above)
  | true, false => some below
  | false, true => some above
  | false, false => none

/-- The fewest decimal digits that read back as the magnitude, which has to be positive.  Seventeen
always suffice; the exact expansion stands in so that the function is total. -/
def shortest (units : Nat) : Digits :=
  let point := pointPosition units
  let digits :=
    ((List.range 17).findSome? fun n => candidate? units point (n + 1)).getD
      ⟨units * Nat.pow 5 1074, -1074⟩
  digits.trimZeros 1100

end Binary64

/-- When a decimal is written positionally: its point position lies within these bounds, both
included. -/
structure Layout where
  lowest : Int
  highest : Int

/-- Numbers are written positionally from 0.0001 up to, but not including, 10¹⁶. -/
def Layout.standard : Layout := ⟨-3, 16⟩

namespace Layout

def zeros (n : Nat) : String := String.ofList (List.replicate n '0')

/-- The text of an exponent: a sign and at least two digits. -/
def exponentText (e : Int) : String :=
  let digits := toString e.natAbs
  (if e < 0 then "e-" else "e+") ++ (if digits.length < 2 then "0" ++ digits else digits)

/-- Writes a positive decimal.  A positional text always has a digit after the point; an exponent
text has a point only between two digits. -/
def write (layout : Layout) (d : Digits) : String :=
  let digits := toString d.significand
  let count : Int := digits.length
  let point := count + d.exponent
  if layout.lowest ≤ point ∧ point ≤ layout.highest then
    if point ≤ 0 then "0." ++ zeros (-point).toNat ++ digits
    else if count ≤ point then digits ++ zeros (point - count).toNat ++ ".0"
    else String.ofList (digits.toList.take point.toNat) ++ "." ++
      String.ofList (digits.toList.drop point.toNat)
  else
    let first := String.ofList (digits.toList.take 1)
    let rest := String.ofList (digits.toList.drop 1)
    first ++ (if rest = "" then "" else "." ++ rest) ++ exponentText (point - 1)

end Layout

namespace Binary64

/-- The text of a number, in lower case for the three that have no digits. -/
def text : Binary64 → String
  | nan => "nan"
  | infinite negative => if negative then "-inf" else "inf"
  | finite negative units _ =>
    (if negative then "-" else "") ++
      (if units = 0 then "0.0" else Layout.standard.write (shortest units))

end Binary64

end VisualNovel
