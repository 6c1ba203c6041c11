import VisualNovel.Proofs.Showing

/-! A number compared with a threshold. Whether the two are equal is decided exactly, but an order
compares the two doubles that they are rounded to. Rounding keeps what is equal equal, because a
double is rounded to itself; so below, at and above the threshold are one case or the other for any
two numbers that are equal or are not rounded to the same double. Two numbers that differ and yet
are rounded to the same double are in none of the three cases, and one of them has to be an integer
of more than 2⁵³. -/
namespace VisualNovel

namespace Binary64

variable {units : Nat} {n : Int} {x y : Binary64}

/-! ## Numbers that are rounded to themselves -/

theorem roundUnits_of_representable (fits : Representable units) : roundUnits units 1 = units := by
  have step : 0 < 2 ^ (units.log2 - 52) := Nat.two_pow_pos _
  have whole : units % 2 ^ (units.log2 - 52) = 0 := fits.2
  have exact : nearest units (2 ^ (units.log2 - 52)) = units / 2 ^ (units.log2 - 52) := by
    simp only [nearest, whole, Nat.mul_zero, step, ↓reduceIte]
  rw [roundUnits_eq, exact]
  exact Nat.div_mul_cancel (Nat.dvd_of_mod_eq_zero whole)

theorem ofUnits_of_representable {negative : Bool} (fits : Representable units) :
    ofUnits negative units 1 = finite negative units fits := by
  have rounded := roundUnits_of_representable fits
  unfold ofUnits
  dsimp only
  generalize roundUnits units 1 = magnitude at rounded
  subst rounded
  exact dif_pos fits

/-- An integer is converted to the finite number that it is rounded to. -/
theorem ofInt?_eq_some :
    ofInt? n = some x ↔ ofUnits (n < 0) (n.natAbs * one) 1 = x ∧ x.isFinite = true := by
  -- The function is opened under a name of its own, lest its argument is computed in units.
  obtain ⟨convert, same⟩ : ∃ convert, convert = ofInt? := ⟨_, rfl⟩
  rw [← same]
  delta ofInt? at same
  rw [same]
  beta_reduce
  generalize ofUnits (n < 0) (n.natAbs * one) 1 = rounded
  cases rounded with
  | nan | infinite =>
    refine iff_of_false nofun ?_
    rintro ⟨rfl, bounded⟩
    cases bounded
  | finite negative units fits =>
    rw [Option.some_inj, iff_self_and]
    rintro rfl
    rfl

/-- An integer whose magnitude is representable is converted without loss. -/
theorem ofInt?_of_representable (fits : Representable (n.natAbs * one)) :
    ofInt? n = some (finite (n < 0) (n.natAbs * one) fits) :=
  ofInt?_eq_some.mpr ⟨ofUnits_of_representable fits, rfl⟩

/-- Up to 2⁵³ every integer is representable. -/
theorem representable_of_small {magnitude : Nat} (small : magnitude ≤ 2 ^ 53) :
    Representable (magnitude * one) := by
  rcases Nat.eq_zero_or_pos magnitude with rfl | positive
  · rw [Nat.zero_mul]
    exact representable_zero
  constructor
  · refine Nat.lt_of_le_of_lt (Nat.mul_le_mul_right one small) ?_
    decide +kernel
  -- The number of places is given a name, lest its power is computed.
  obtain ⟨places, counted⟩ : ∃ places, places = 1074 := ⟨_, rfl⟩
  have one_eq : one = 2 ^ places := by
    rw [counted]
    decide +kernel
  rw [one_eq]
  refine Nat.mod_eq_zero_of_dvd ?_
  rcases Nat.lt_or_eq_of_le small with fewer | rfl
  · have digits : (magnitude * 2 ^ places).log2 - 52 ≤ places := by
      have room : magnitude * 2 ^ places < 2 ^ (53 + places) := by
        rw [Nat.pow_add]
        exact Nat.mul_lt_mul_of_pos_right fewer (Nat.two_pow_pos _)
      have short := (Nat.log2_lt (Nat.ne_of_gt (Nat.mul_pos positive (Nat.two_pow_pos _)))).mpr room
      omega
    exact Nat.dvd_trans (Nat.pow_dvd_pow 2 digits) (Nat.dvd_mul_left ..)
  · rw [← Nat.pow_add, Nat.log2_two_pow]
    exact Nat.pow_dvd_pow 2 (Nat.sub_le _ _)

/-- The value of the double that such an integer is converted to. -/
theorem signedUnits_of_int (n : Int) : signedUnits (n < 0) (n.natAbs * one) = n * one := by
  generalize one = unit
  simp only [signedUnits, decide_eq_true_eq]
  split
  · rw [Int.natCast_mul, Int.ofNat_natAbs_of_nonpos (by omega), Int.neg_mul, Int.neg_neg]
  · rw [Int.natCast_mul, Int.natAbs_of_nonneg (by omega)]

/-- A double with the value of an integer is what the integer is rounded to. -/
theorem compare?_of_compareInt? (same : x.compareInt? n = some .eq) :
    ∃ rounded, ofInt? n = some rounded ∧ rounded.compare? x = some .eq := by
  cases x with
  | nan => cases same
  | infinite negative => cases negative <;> cases same
  | finite negative units fits =>
    have value : n * one = signedUnits negative units := by
      rwa [compareInt?, Option.some_inj, Std.compare_eq_iff_eq] at same
    have magnitude : n.natAbs * one = units := by
      have sizes := congrArg Int.natAbs value
      rw [Int.natAbs_mul, Int.natAbs_natCast] at sizes
      rw [sizes, signedUnits]
      split <;> simp
    have fits' : Representable (n.natAbs * one) := magnitude ▸ fits
    refine ⟨_, ofInt?_of_representable fits', ?_⟩
    rw [compare?, signedUnits_of_int, value]
    exact congrArg some Std.ReflCmp.compare_self

/-- An integer up to 2⁵³ that is rounded to the value of a double has that value. -/
theorem compareInt?_of_compare? {rounded : Binary64} (small : n.natAbs ≤ 2 ^ 53)
    (converted : ofInt? n = some rounded) (same : rounded.compare? x = some .eq) :
    x.compareInt? n = some .eq := by
  rw [ofInt?_of_representable (representable_of_small small), Option.some_inj] at converted
  subst converted
  cases x with
  | nan => cases same
  | infinite negative => cases negative <;> cases same
  | finite negative units fits => rwa [compare?, signedUnits_of_int] at same

/-! ## Comparing doubles -/

theorem compare?_isSome (left : x ≠ nan) (right : y ≠ nan) : ∃ order, x.compare? y = some order := by
  cases x <;> cases y <;> first | contradiction | exact ⟨_, rfl⟩

theorem compare?_swap (x y : Binary64) : y.compare? x = (x.compare? y).map Ordering.swap := by
  cases x with
  | nan => cases y <;> rfl
  | infinite negative =>
    cases y with
    | nan => rfl
    | infinite other => exact congrArg some Std.OrientedCmp.eq_swap
    | finite other units fits => cases negative <;> rfl
  | finite negative units fits =>
    cases y with
    | nan => rfl
    | infinite other => cases other <;> rfl
    | finite other units' fits' => exact congrArg some Std.OrientedCmp.eq_swap

theorem compare?_self (number : x ≠ nan) : x.compare? x = some .eq := by
  cases x with
  | nan => exact absurd rfl number
  | infinite negative => exact congrArg some Std.ReflCmp.compare_self
  | finite negative units fits => exact congrArg some Std.ReflCmp.compare_self

end Binary64

/-! ## Comparing numbers -/

namespace Number

variable {a b : Number} {x y : Binary64}

/-- Numbers that differ and yet are rounded to doubles of the same value. -/
def Blurred (a b : Number) : Prop :=
  a.equal b = false ∧
    ∃ x y, a.toBinary64? = some x ∧ b.toBinary64? = some y ∧ x.compare? y = some .eq

/-- What is rounded is no number only if it was none before. -/
theorem rounded_ne_nan (number : a ≠ .float .nan) (rounded : a.toBinary64? = some x) :
    x ≠ .nan := by
  rintro rfl
  cases a with
  | int n =>
    rw [toBinary64?, Binary64.ofInt?_eq_some] at rounded
    cases rounded.2
  | float z =>
    cases rounded
    exact number rfl

/-- Equal numbers are rounded to doubles of the same value. -/
theorem compare?_of_equal (same : a.equal b = true) (left : a.toBinary64? = some x)
    (right : b.toBinary64? = some y) : x.compare? y = some .eq := by
  cases a with
  | int m =>
    cases b with
    | int n =>
      obtain rfl : m = n := beq_iff_eq.mp same
      obtain rfl : x = y := Option.some_inj.mp (left.symm.trans right)
      exact Binary64.compare?_self (rounded_ne_nan (a := .int m) nofun left)
    | float z =>
      cases right
      obtain ⟨rounded, converted, value⟩ := Binary64.compare?_of_compareInt? (beq_iff_eq.mp same)
      rw [toBinary64?, converted, Option.some_inj] at left
      exact left ▸ value
  | float z =>
    cases left
    cases b with
    | int n =>
      obtain ⟨rounded, converted, value⟩ := Binary64.compare?_of_compareInt? (beq_iff_eq.mp same)
      rw [toBinary64?, converted, Option.some_inj] at right
      rw [← right, Binary64.compare?_swap, value]
      rfl
    | float w =>
      cases right
      exact beq_iff_eq.mp same

/-- Only an integer beyond 2⁵³ is rounded to a number that it is not. -/
theorem Blurred.large (blurred : a.Blurred b) :
    ∃ n, (a = .int n ∨ b = .int n) ∧ 2 ^ 53 < n.natAbs := by
  obtain ⟨differ, x, y, left, right, same⟩ := blurred
  by_contra allSmall
  have small (n : Int) (among : a = .int n ∨ b = .int n) : n.natAbs ≤ 2 ^ 53 :=
    Nat.le_of_not_lt fun beyond => allSmall ⟨n, among, beyond⟩
  refine absurd differ (Bool.not_eq_false _ ▸ ?_)
  cases a with
  | int m =>
    have valued := Binary64.compareInt?_of_compare? (small m (.inl rfl)) left same
    cases b with
    | int n =>
      rw [toBinary64?, Binary64.ofInt?_of_representable
        (Binary64.representable_of_small (small n (.inr rfl))), Option.some_inj] at right
      subst right
      rw [Binary64.compareInt?, Binary64.signedUnits_of_int, Option.some_inj,
        Std.compare_eq_iff_eq] at valued
      have unit : (Binary64.one : Int) ≠ 0 := by
        decide +kernel
      exact beq_iff_eq.mpr (Int.eq_of_mul_eq_mul_right unit valued)
    | float z =>
      cases right
      exact beq_iff_eq.mpr valued
  | float z =>
    cases left
    cases b with
    | int n =>
      have swapped : y.compare? x = some .eq := by
        rw [Binary64.compare?_swap, same]
        rfl
      exact beq_iff_eq.mpr
        (Binary64.compareInt?_of_compare? (small n (.inr rfl)) right swapped)
    | float w =>
      cases right
      exact beq_iff_eq.mpr same

end Number

/-! ## Conditions on a number -/

namespace Comparison

variable {a b : Number} {x y : Binary64} {order : Ordering}

/-- The verdict on two numbers, given how the doubles compare that they are rounded to. -/
def verdict (a b : Number) (order : Ordering) : Comparison → Bool
  | equal => a.equal b
  | different => !a.equal b
  | greater => order == .gt
  | less => order == .lt
  | greaterOrEqual => order != .lt
  | lessOrEqual => order != .gt

/-- Two numbers within the range are compared. -/
theorem holds?_numbers (left : a.toBinary64? = some x) (right : b.toBinary64? = some y)
    (compared : x.compare? y = some order) (comparison : Comparison) :
    comparison.holds? (some (.number a)) (some (.number b)) =
      some (verdict a b order comparison) := by
  have swapped : y.compare? x = some order.swap := by
    rw [Binary64.compare?_swap, compared]
    rfl
  have orders (holds : Binary64 → Binary64 → Bool) :
      Comparison.order holds (some (.number a)) (some (.number b)) = some (holds x y) := by
    simp [Comparison.order, toNumber?, Value.toNumber?, left, right]
  cases comparison with
  | equal | different => rfl
  | greater | greaterOrEqual =>
    simp only [holds?, orders, Binary64.lt, Binary64.le, swapped]
    cases order <;> rfl
  | less | lessOrEqual =>
    simp only [holds?, orders, Binary64.lt, Binary64.le, compared]
    cases order <;> rfl

/-- The three cases exclude one another and leave nothing out. -/
structure Splits (verdict : Comparison → Bool) : Prop where
  /-- Exactly one of below, at and above. -/
  one : [verdict less, verdict equal, verdict greater].count true = 1
  atLeast : verdict greaterOrEqual = (verdict greater || verdict equal)
  atMost : verdict lessOrEqual = (verdict less || verdict equal)

/-- None of the three cases, and yet neither above nor below. -/
structure Blurs (verdict : Comparison → Bool) : Prop where
  none : [verdict less, verdict equal, verdict greater].count true = 0
  atLeast : verdict greaterOrEqual = true
  atMost : verdict lessOrEqual = true

theorem splits_of_sharp (compared : x.compare? y = some order) (left : a.toBinary64? = some x)
    (right : b.toBinary64? = some y) (sharp : ¬a.Blurred b) : Splits (verdict a b order) := by
  cases same : a.equal b with
  | true =>
    obtain rfl : Ordering.eq = order :=
      Option.some_inj.mp ((Number.compare?_of_equal same left right).symm.trans compared)
    constructor <;> simp [verdict, same]
  | false =>
    have apart : order ≠ .eq := by
      rintro rfl
      exact sharp ⟨same, x, y, left, right, compared⟩
    cases order with
    | eq => exact absurd rfl apart
    | lt | gt => constructor <;> simp [verdict, same]

theorem blurs_of_blurred (compared : x.compare? y = some order) (left : a.toBinary64? = some x)
    (right : b.toBinary64? = some y) (blurred : a.Blurred b) : Blurs (verdict a b order) := by
  obtain ⟨differ, x', y', left', right', same⟩ := blurred
  obtain rfl : x = x' := Option.some_inj.mp (left.symm.trans left')
  obtain rfl : y = y' := Option.some_inj.mp (right.symm.trans right')
  obtain rfl : order = .eq := Option.some_inj.mp (compared.symm.trans same)
  constructor <;> simp [verdict, differ]

end Comparison

/-- A condition that compares a variable with a number. -/
def Condition.on (name operator : String) (threshold : Number) : Condition :=
  ⟨name, operator, some (.number threshold)⟩

namespace Story

/-- When it comes out of each choice whether it is offered, the offer consists of those that are. -/
theorem availableChoices_eq_filter {vars : Variables} {choices : List Choice}
    {offered : Choice → Bool}
    (decided : ∀ choice ∈ choices, isOffered vars choice = .ok (offered choice)) :
    availableChoices vars choices = .ok (choices.filter offered) := by
  induction choices with
  | nil => rfl
  | cons choice rest ih =>
    rw [availableChoices, decided choice (.head _), ih fun other among => decided other (.tail _ among)]
    cases here : offered choice <;> simp [bind, Except.bind, pure, Except.pure, here]

/-- How many of some choices are offered is told from their conditions, in any order. -/
theorem availableChoices_length {vars : Variables} {choices : List Choice}
    {conditions : List Condition} (holds : Condition → Bool)
    (guarded : (choices.map (·.condition)).Perm (conditions.map some))
    (decided : ∀ condition ∈ conditions, condition.holds? vars = some (holds condition)) :
    ∃ offered, availableChoices vars choices = .ok offered ∧
      offered.length = (conditions.map holds).count true := by
  have verdicts (choice : Choice) (among : choice ∈ choices) :
      isOffered vars choice = .ok (choice.condition.all holds) := by
    have listed := guarded.mem_iff.mp (List.mem_map_of_mem among)
    obtain ⟨condition, among, same⟩ := List.mem_map.mp listed
    simp only [isOffered, ← same, decided condition among, Option.elim_some, Option.all_some]
  refine ⟨_, availableChoices_eq_filter verdicts, ?_⟩
  calc (choices.filter fun choice => choice.condition.all holds).length
      = (choices.map (·.condition)).countP (·.all holds) := by
        rw [List.countP_map, List.countP_eq_length_filter]
        rfl
    _ = (conditions.map some).countP (·.all holds) := guarded.countP_eq _
    _ = (conditions.map holds).count true := by
        rw [List.countP_map, List.count_eq_countP, List.countP_map]
        exact List.countP_congr fun condition _ => by simp

end Story

namespace Condition

open Comparison

/-- Below, at and above a threshold. -/
def threeWays (name : String) (threshold : Number) : List Condition :=
  [on name "<" threshold, on name "==" threshold, on name ">" threshold]

/-- What somebody has who has a number of pieces of gold. -/
def purse (pieces : Int) : Variables := .ofList [("gold", .number (.int pieces))]

/-- One choice for each of the three cases. -/
def offers (name : String) (threshold : Number) : List Choice :=
  (threeWays name threshold).map fun condition =>
    ⟨condition.operator, "", "", some condition, none, none⟩

end Condition
end VisualNovel
