/-!
Double-precision numbers as exact data.  A finite number is a sign and a magnitude counted in units
of 2⁻¹⁰⁷⁴, the smallest positive one, so comparison is comparison of integers, and every operation
rounds once, half to even, from an exact quotient.  No machine arithmetic is involved.
-/

namespace VisualNovel

/-- The place of the first binary digit, counted in units of 2⁻¹⁰⁷⁴, that is too large for a finite
number. -/
def Binary64.places : Nat := 2098

/-- The least magnitude that is too large for a finite number: 2¹⁰²⁴. -/
def Binary64.limit : Nat := Nat.pow 2 Binary64.places

/-- The number of units in one: 2¹⁰⁷⁴. -/
def Binary64.one : Nat := Nat.pow 2 1074

/-- A magnitude is representable when it is below the limit and its binary digits, trailing zeros
apart, fit into 53 places. -/
def Binary64.Representable (units : Nat) : Prop :=
  units < Binary64.limit ∧ units % Nat.pow 2 (units.log2 - 52) = 0

instance (units : Nat) : Decidable (Binary64.Representable units) :=
  inferInstanceAs (Decidable (_ ∧ _))

theorem Binary64.limit_pos : 0 < Binary64.limit := by decide +kernel

theorem Binary64.representable_zero : Binary64.Representable 0 :=
  ⟨limit_pos, Nat.zero_mod _⟩

/-- There is one value that is not a number, two infinities, and two zeros. -/
inductive Binary64 where
  | nan
  | infinite (negative : Bool)
  | finite (negative : Bool) (units : Nat) (fits : Binary64.Representable units)
  deriving DecidableEq

namespace Binary64

instance : Inhabited Binary64 := ⟨nan⟩

/-- The whole number nearest to a quotient; a half goes to the even neighbour. -/
def nearest (num den : Nat) : Nat :=
  let quotient := num / den
  let twice := 2 * (num % den)
  if twice < den then quotient
  else if den < twice then quotient + 1
  else quotient + quotient % 2

/-- The magnitude nearest to `num / den` units whose significand has at most 53 places. -/
def roundUnits (num den : Nat) : Nat :=
  let step := Nat.pow 2 ((num / den).log2 - 52)
  nearest num (den * step) * step

/-- The number of the given sign nearest to `num / den` units; a magnitude beyond the limit gives an
infinity. -/
def ofUnits (negative : Bool) (num den : Nat) : Binary64 :=
  let units := roundUnits num den
  if fits : Representable units then finite negative units fits else infinite negative

/-- Positive zero. -/
def zero : Binary64 := finite false 0 representable_zero

/-- The number one. -/
def unit : Binary64 := ofUnits false one 1

/-- The value of a finite number in units, with its sign. -/
def signedUnits (negative : Bool) (units : Nat) : Int :=
  if negative then -(units : Int) else units

/-- The number nearest to an integer, or nothing when the integer is beyond the finite range. -/
def ofInt? (n : Int) : Option Binary64 :=
  match ofUnits (n < 0) (n.natAbs * one) 1 with
  | finite negative units fits => some (finite negative units fits)
  | _ => none

/-- The integer that a finite number without fraction is. -/
def toInt? : Binary64 → Option Int
  | finite negative units _ =>
    if units % one = 0 then some (signedUnits negative (units / one)) else none
  | _ => none

/-- Whether the number is neither infinite nor undefined. -/
def isFinite : Binary64 → Bool
  | finite .. => true
  | _ => false

/-- The sum, rounded once.  Two zeros of opposite sign, or a number and its opposite, give positive
zero; opposite infinities have no sum. -/
def add : Binary64 → Binary64 → Binary64
  | nan, _ => nan
  | _, nan => nan
  | infinite a, infinite b => if a = b then infinite a else nan
  | infinite a, finite .. => infinite a
  | finite .., infinite b => infinite b
  | finite a m _, finite b n _ =>
    let sum := signedUnits a m + signedUnits b n
    if sum = 0 then finite (a && b) 0 representable_zero else ofUnits (sum < 0) sum.natAbs 1

/-- How two numbers compare by value; nothing is comparable with `nan`, and the two zeros are
equal. -/
def compare? : Binary64 → Binary64 → Option Ordering
  | nan, _ => none
  | _, nan => none
  | infinite a, infinite b => some (compare b.toNat a.toNat)
  | infinite a, finite .. => some (if a then .lt else .gt)
  | finite .., infinite b => some (if b then .gt else .lt)
  | finite a m _, finite b n _ => some (compare (signedUnits a m) (signedUnits b n))

/-- How an integer of any size compares with a number, exactly and without rounding. -/
def compareInt? (n : Int) : Binary64 → Option Ordering
  | nan => none
  | infinite b => some (if b then .gt else .lt)
  | finite b m _ => some (compare (n * one) (signedUnits b m))

def lt (a b : Binary64) : Bool := a.compare? b == some .lt

def le (a b : Binary64) : Bool := a.compare? b == some .lt || a.compare? b == some .eq

/-- The number nearest to `significand · 10 ^ exponent`.  The two early answers only spare the
computation of powers far outside the range. -/
def ofDecimal (negative : Bool) (significand : Nat) (exponent : Int) : Binary64 :=
  if significand = 0 then finite negative 0 representable_zero
  else
    let size : Int := significand.log2 * 30103 / 100000 + exponent
    if 400 < size then infinite negative
    else if size < -400 then finite negative 0 representable_zero
    else if 0 ≤ exponent then ofUnits negative (significand * Nat.pow 10 exponent.toNat * one) 1
    else ofUnits negative (significand * one) (Nat.pow 10 (-exponent).toNat)

end Binary64

end VisualNovel
