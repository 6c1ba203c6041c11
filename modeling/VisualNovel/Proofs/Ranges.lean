import Mathlib.Algebra.Group.Nat.Defs
import Mathlib.Tactic.DefEqTransformations
import VisualNovel.Number.Binary64

/-! Which integers are within the range of double-precision numbers. Rounding keeps the leading 53
binary digits of a magnitude, and only a carry out of all of them can lead beyond the range: it does
from halfway between the greatest finite number and the limit on. -/
namespace VisualNovel.Binary64

theorem nearest_bounds (num den : Nat) :
    num / den ≤ nearest num den ∧ nearest num den ≤ num / den + 1 := by
  simp only [nearest]
  split
  · omega
  · split <;> omega

variable {units : Nat}

/-- What is rounded becomes a number of steps, at least 2⁵² and at most 2⁵³ of them. -/
theorem steps_between (large : 52 ≤ units.log2) :
    2 ^ 52 ≤ nearest units (2 ^ (units.log2 - 52)) ∧
      nearest units (2 ^ (units.log2 - 52)) ≤ 2 ^ 53 := by
  have positive : units ≠ 0 := by
    rintro rfl
    simp at large
  have step : 0 < 2 ^ (units.log2 - 52) := Nat.two_pow_pos _
  obtain ⟨below, above⟩ := nearest_bounds units (2 ^ (units.log2 - 52))
  have least : 2 ^ 52 ≤ units / 2 ^ (units.log2 - 52) := by
    rw [Nat.le_div_iff_mul_le step, ← Nat.pow_add, Nat.add_sub_cancel' large]
    exact Nat.log2_self_le positive
  have most : units / 2 ^ (units.log2 - 52) < 2 ^ 53 := by
    have carried : 53 + (units.log2 - 52) = units.log2 + 1 := by omega
    rw [Nat.div_lt_iff_lt_mul step, ← Nat.pow_add, carried]
    exact Nat.lt_log2_self
  omega

theorem roundUnits_eq (units : Nat) :
    roundUnits units 1 =
      nearest units (2 ^ (units.log2 - 52)) * 2 ^ (units.log2 - 52) := by
  simp only [roundUnits, Nat.div_one, Nat.one_mul]
  rfl

/-- Steps without a carry have 53 digits more than a single step has zeros. -/
theorem log2_steps {steps places : Nat} (least : 2 ^ 52 ≤ steps) (fewer : steps < 2 ^ 53) :
    (steps * 2 ^ places).log2 = 52 + places := by
  have step := Nat.two_pow_pos places
  have positive : steps * 2 ^ places ≠ 0 :=
    Nat.ne_of_gt (Nat.mul_pos (Nat.lt_of_lt_of_le (by decide) least) step)
  rw [Nat.log2_eq_iff positive, Nat.add_right_comm, Nat.pow_add, Nat.pow_add]
  exact ⟨Nat.mul_le_mul_right _ least, Nat.mul_lt_mul_of_pos_right fewer step⟩

/-- A magnitude that has been rounded is representable unless it has come to the limit. -/
theorem representable_rounded (large : 52 ≤ units.log2) :
    Representable (roundUnits units 1) ↔ roundUnits units 1 < limit := by
  refine and_iff_left ?_
  obtain ⟨least, most⟩ := steps_between large
  rw [roundUnits_eq]
  generalize nearest units (2 ^ (units.log2 - 52)) = steps at least most
  generalize units.log2 - 52 = places
  rcases Nat.lt_or_eq_of_le most with fewer | rfl
  · rw [log2_steps least fewer, Nat.add_sub_cancel_left]
    exact Nat.mul_mod_left _ _
  · -- A carry out of all the digits leaves a power of two.
    rw [← Nat.pow_add, Nat.log2_two_pow]
    exact Nat.mod_eq_zero_of_dvd (Nat.pow_dvd_pow 2 (Nat.sub_le _ _))

/-- At the last places, a magnitude is rounded without a carry out of its digits exactly below the
middle between the greatest finite number and the limit. -/
theorem nearest_carries {step : Nat} (positive : 0 < step) (below : units < 2 ^ 53 * step) :
    nearest units step < 2 ^ 53 ↔ 2 * units < (2 ^ 54 - 1) * step := by
  have parts := Nat.div_add_mod units step
  have rest := Nat.mod_lt units positive
  have quotient : units / step < 2 ^ 53 := (Nat.div_lt_iff_lt_mul positive).mpr below
  simp only [nearest]
  generalize units / step = digits at parts quotient
  generalize units % step = remains at parts rest
  rw [Nat.mul_comm] at parts
  rcases Nat.lt_or_ge (digits + 1) (2 ^ 53) with fewer | all
  · have room : (digits + 1) * step ≤ (2 ^ 53 - 1) * step := Nat.mul_le_mul_right _ (by omega)
    rw [Nat.add_mul] at room
    refine iff_of_true ?_ (by omega)
    split
    · omega
    · split <;> omega
  · obtain rfl : digits = 2 ^ 53 - 1 := by omega
    split
    · omega
    · split <;> omega

/-- A magnitude is rounded to less than the limit exactly below the middle between the greatest
finite number and the limit. -/
theorem rounded_lt_limit (large : 52 ≤ units.log2) :
    roundUnits units 1 < limit ↔ 2 * units < (2 ^ 54 - 1) * 2 ^ 2045 := by
  have positive : units ≠ 0 := by
    rintro rfl
    simp at large
  have lower := Nat.log2_self_le positive
  have upper := @Nat.lt_log2_self units
  obtain ⟨least, most⟩ := steps_between large
  have step := Nat.two_pow_pos (units.log2 - 52)
  -- The last place is given a name, lest its power is computed.
  obtain ⟨last, last_eq⟩ : ∃ last, last = 2045 := ⟨_, rfl⟩
  have limit_eq : limit = 2 ^ 53 * 2 ^ last := by
    rw [last_eq]
    decide +kernel
  rw [roundUnits_eq, limit_eq, ← last_eq]
  rcases Nat.lt_trichotomy (units.log2 - 52) last with before | there | beyond
  · have smaller : 2 ^ (units.log2 - 52 + 1) ≤ 2 ^ last :=
      Nat.pow_le_pow_right (by decide) before
    have rounded := Nat.mul_le_mul_right (2 ^ (units.log2 - 52)) most
    have bound : units.log2 + 1 = 53 + (units.log2 - 52) := by omega
    rw [bound, Nat.pow_add] at upper
    rw [Nat.pow_succ] at smaller
    omega
  · rw [there] at step ⊢
    have below : units < 2 ^ 53 * 2 ^ last := by
      have bound : units.log2 + 1 = 53 + (units.log2 - 52) := by omega
      rwa [bound, Nat.pow_add, there] at upper
    rw [Nat.mul_lt_mul_right step]
    exact nearest_carries step below
  · have greater : 2 ^ (last + 1) ≤ 2 ^ (units.log2 - 52) :=
      Nat.pow_le_pow_right (by decide) beyond
    have rounded := Nat.mul_le_mul_right (2 ^ (units.log2 - 52)) least
    have bound : units.log2 = 52 + (units.log2 - 52) := by omega
    rw [bound, Nat.pow_add] at lower
    rw [Nat.pow_succ] at greater
    omega

theorem isFinite_ofUnits {negative : Bool} {num den : Nat} :
    (ofUnits negative num den).isFinite = true ↔ Representable (roundUnits num den) := by
  unfold ofUnits
  dsimp only
  split <;> simp_all [isFinite]

/-- An integer is beyond the range unless it is rounded to a finite number. -/
theorem ofInt?_isFinite {n : Int} :
    ofInt? n = none ↔ ¬(ofUnits (n < 0) (n.natAbs * one) 1).isFinite = true := by
  -- The function is opened under a name of its own, lest its argument is computed in units.
  obtain ⟨convert, same⟩ : ∃ convert, convert = ofInt? := ⟨_, rfl⟩
  rw [← same]
  delta ofInt? at same
  rw [same]
  beta_reduce
  generalize ofUnits (n < 0) (n.natAbs * one) 1 = rounded
  cases rounded <;> simp [isFinite]

/-- The least magnitude of an integer beyond the range, in the middle between the greatest finite
number and 2¹⁰²⁴. -/
def reach : Nat := (2 ^ 54 - 1) * 2 ^ 970

/-- An integer is beyond the range if it is no nearer to any finite number than to 2¹⁰²⁴. -/
theorem ofInt?_eq_none {n : Int} : ofInt? n = none ↔ reach ≤ n.natAbs := by
  rw [ofInt?_isFinite, isFinite_ofUnits]
  rcases Nat.eq_zero_or_pos n.natAbs with nothing | positive
  · rw [nothing, Nat.zero_mul]
    exact iff_of_false (not_not_intro (by decide +kernel)) (by decide +kernel)
  · have large : 52 ≤ (n.natAbs * one).log2 := by
      have units : 0 < n.natAbs * one := Nat.mul_pos positive (by decide +kernel)
      rw [Nat.le_log2 (Nat.ne_of_gt units)]
      exact Nat.le_trans (by decide +kernel) (Nat.le_mul_of_pos_left one positive)
    have parts : (2 ^ 54 - 1) * 2 ^ 2045 = reach * (2 * one) := by decide +kernel
    have double : 2 * (n.natAbs * one) = n.natAbs * (2 * one) := Nat.mul_left_comm ..
    rw [representable_rounded large, rounded_lt_limit large, parts, double,
      Nat.mul_lt_mul_right (by decide +kernel), Nat.not_lt]

end VisualNovel.Binary64
