import VisualNovel.Json.Reader
import VisualNovel.Json.Writer

/-! Numbers in the text of a document. An integer is written as its digits, and these are read back
as the integer unless there are too many of them (`readScalar_int`). A double-precision number is
written with a point or an exponent, whatever its size (`Layout.floatText_write`), so it is read as
such a number again and never as an integer (`readScalar_float`). -/
namespace VisualNovel

namespace Json

/-! ## Digits and what may follow them -/

/-- What may stand behind a number in a document. -/
def Delimited (rest : List Char) : Prop := ∀ c ∈ rest.head?, c = ',' ∨ c = ']' ∨ c = '}'

def AreDigits (text : List Char) : Prop := ∀ c ∈ text, c.isDigit = true

/-- The digits of a whole number, without a zero that could be left out. -/
def IsWholeNumber (digits : List Char) : Prop :=
  AreDigits digits ∧ digits ≠ [] ∧ (digits = ['0'] ∨ digits.head? ≠ some '0')

variable {digits places rest start : List Char} {negative : Bool} {c : Char}

theorem readDigits_append (value count : Nat) (all : AreDigits digits)
    (stops : ∀ c ∈ rest.head?, c.isDigit = false) :
    readDigits value count (digits ++ rest) =
      (Nat.ofDigitChars 10 digits value, count + digits.length, rest) := by
  induction digits generalizing value count with
  | nil =>
    cases rest with
    | nil => rfl
    | cons c rest =>
      rw [List.nil_append, readDigits, if_neg (by simp [stops c rfl])]
      rfl
  | cons digit others ih =>
    rw [List.cons_append, readDigits, if_pos (all digit (.head _)),
      ih _ _ fun c among => all c (.tail _ among), Nat.ofDigitChars_cons, List.length_cons,
      Nat.add_right_comm]
    rfl

theorem head?_toDigits {n : Nat} (positive : 0 < n) : (Nat.toDigits 10 n).head? ≠ some '0' := by
  induction n using Nat.strongRecOn with
  | ind n ih =>
    by_cases small : n < 10
    · rw [Nat.toDigits_of_lt_base small]
      have nonzero : ∀ n < 10, 0 < n → n.digitChar ≠ '0' := by decide
      exact fun same => nonzero n small positive (Option.some.inj same)
    · rw [Nat.toDigits_of_base_le (by decide) (Nat.not_lt.mp small),
        List.head?_append, Option.or_of_isSome (by simp [List.isSome_head?, Nat.toDigits_ne_nil])]
      exact ih (n / 10) (by omega) (by omega)

theorem isWholeNumber_toDigits (n : Nat) : IsWholeNumber (Nat.toDigits 10 n) := by
  refine ⟨fun c => Nat.isDigit_of_mem_toDigits (by decide) (by decide), Nat.toDigits_ne_nil, ?_⟩
  rcases Nat.eq_zero_or_pos n with rfl | positive
  · exact .inl (Nat.toDigits_of_lt_base (by decide))
  · exact .inr (head?_toDigits positive)

theorem isDigit_of_delimited (delimited : Delimited rest) :
    ∀ c ∈ rest.head?, c.isDigit = false := by
  intro c first
  rcases delimited c first with rfl | rfl | rfl <;> rfl

theorem readFraction_of_delimited {significand : Nat} (delimited : Delimited rest) :
    readFraction significand rest = (significand, 0, rest) := by
  unfold readFraction
  split
  · rename_i c others
    rcases delimited '.' rfl with same | same | same <;> cases same
  · rfl

theorem readExponent_of_delimited (delimited : Delimited rest) : readExponent rest = none := by
  unfold readExponent
  split
  · rename_i e others
    rcases delimited e rfl with rfl | rfl | rfl <;> rfl
  · rfl

theorem readFraction_point (significand : Nat) (all : AreDigits places) (nonempty : places ≠ [])
    (stops : ∀ c ∈ rest.head?, c.isDigit = false) :
    readFraction significand ('.' :: (places ++ rest)) =
      (Nat.ofDigitChars 10 places significand, places.length, rest) := by
  obtain ⟨c, others, rfl⟩ := List.exists_cons_of_ne_nil nonempty
  rw [List.cons_append, readFraction, if_pos (all c (.head _)), ← List.cons_append,
    readDigits_append _ _ all stops, Nat.zero_add]

/-! ## Reading a number -/

/-- The whole part of a number. -/
theorem readNumber_whole (whole : IsWholeNumber digits)
    (stops : ∀ c ∈ rest.head?, c.isDigit = false) {significand places : Nat} {after : List Char}
    (fraction : readFraction (Nat.ofDigitChars 10 digits 0) rest = (significand, places, after)) :
    readNumber start negative (digits ++ rest) =
      (readExponent after).elim
        (if places = 0 then
          if digits.length > digitLimit then .error (.tooManyDigits digits.length, start)
          else .ok (int (if negative then -(Nat.ofDigitChars 10 digits 0 : Nat)
            else (Nat.ofDigitChars 10 digits 0 : Nat)), rest)
        else .ok (float (.ofDecimal negative significand (-places)), after))
        fun (exponent, rest) =>
          .ok (float (.ofDecimal negative significand (exponent - places)), rest) := by
  obtain ⟨all, nonempty, leads⟩ := whole
  obtain ⟨c, others, rfl⟩ := List.exists_cons_of_ne_nil nonempty
  -- A zero at the beginning is read alone, whatever digits may follow it.
  rcases leads with same | leads
  · cases same
    have zero : Nat.ofDigitChars 10 ['0'] 0 = 0 := rfl
    rw [zero] at fraction
    unfold readNumber
    simp only [List.cons_append, List.nil_append, fraction, zero, List.length_singleton]
    cases readExponent after <;> rfl
  · have nonzero : c ≠ '0' := fun same => leads (congrArg some same)
    have taken := readDigits_append 0 0 all stops
    unfold readNumber
    simp only [List.cons_append]
    split
    · rename_i refused
      rw [if_pos (all c (.head _))] at refused
      cases refused
    · rename_i accepted
      rw [if_pos (all c (.head _)), ← List.cons_append, taken, Nat.zero_add] at accepted
      cases accepted
      simp only [fraction]
      cases readExponent after <;> rfl

/-- Digits with nothing of a number behind them are an integer. -/
theorem readNumber_int (whole : IsWholeNumber digits) (delimited : Delimited rest)
    (few : digits.length ≤ digitLimit) :
    readNumber start negative (digits ++ rest) =
      .ok (int (if negative then -(Nat.ofDigitChars 10 digits 0 : Nat)
        else (Nat.ofDigitChars 10 digits 0 : Nat)), rest) := by
  rw [readNumber_whole whole (isDigit_of_delimited delimited) (readFraction_of_delimited delimited),
    readExponent_of_delimited delimited, Option.elim_none, if_pos rfl,
    if_neg (Nat.not_lt.mpr few)]

/-- The texts of numbers that have a point or an exponent. -/
inductive FloatText : List Char → Prop
  | point {digits places : List Char} (whole : IsWholeNumber digits) (all : AreDigits places)
    (nonempty : places ≠ []) : FloatText (digits ++ '.' :: places)
  | exponent {digits places power : List Char} {sign : Char} (whole : IsWholeNumber digits)
    (all : AreDigits places) (signed : sign = '+' ∨ sign = '-') (powers : AreDigits power)
    (nonempty : power ≠ []) :
    FloatText (digits ++ ((if places = [] then [] else '.' :: places) ++ 'e' :: sign :: power))

theorem readExponent_power {power : List Char} {sign : Char} (signed : sign = '+' ∨ sign = '-')
    (powers : AreDigits power) (nonempty : power ≠ []) (delimited : Delimited rest) :
    ∃ exponent, readExponent ('e' :: sign :: (power ++ rest)) = some (exponent, rest) := by
  have read := readDigits_append 0 0 powers (isDigit_of_delimited delimited)
  obtain ⟨c, others, rfl⟩ := List.exists_cons_of_ne_nil nonempty
  rcases signed with rfl | rfl
  all_goals
    rw [readExponent, if_pos (by decide)]
    simp only [read, List.length_cons, Nat.zero_add]
    exact ⟨_, rfl⟩

theorem FloatText.read {text : List Char} (isFloat : FloatText text) (delimited : Delimited rest) :
    ∃ value, readNumber start negative (text ++ rest) = .ok (float value, rest) := by
  cases isFloat with
  | point whole all nonempty =>
    have fraction (significand : Nat) :=
      readFraction_point significand all nonempty (isDigit_of_delimited delimited)
    rw [List.append_assoc, List.cons_append, readNumber_whole whole ?stops (fraction _),
      readExponent_of_delimited delimited, Option.elim_none, if_neg (by simpa using nonempty)]
    case stops =>
      rintro _ ⟨⟩
      rfl
    exact ⟨_, rfl⟩
  | @exponent digits places power sign whole all signed powers nonempty =>
    obtain ⟨exponent, powered⟩ := readExponent_power signed powers nonempty delimited
    have stops : ∀ c ∈ ('e' :: sign :: (power ++ rest)).head?, c.isDigit = false := by
      rintro _ ⟨⟩
      rfl
    by_cases pointless : places = []
    · have fraction (significand : Nat) :
          readFraction significand ('e' :: sign :: (power ++ rest)) =
            (significand, 0, 'e' :: sign :: (power ++ rest)) := by
        rw [readFraction]
        nofun
      rw [if_pos pointless, List.nil_append, List.append_assoc, List.cons_append, List.cons_append,
        readNumber_whole whole stops (fraction _), powered]
      exact ⟨_, rfl⟩
    · have fraction (significand : Nat) :=
        readFraction_point significand all pointless stops
      rw [if_neg pointless, List.append_assoc, List.append_assoc, List.cons_append,
        List.cons_append, List.cons_append, readNumber_whole whole ?stops (fraction _), powered]
      case stops =>
        rintro _ ⟨⟩
        rfl
      exact ⟨_, rfl⟩

/-! ## The text of a double-precision number -/

theorem AreDigits.append (all : AreDigits digits) (others : AreDigits places) :
    AreDigits (digits ++ places) := by
  intro c among
  rcases List.mem_append.mp among with among | among
  · exact all c among
  · exact others c among

theorem areDigits_zeros (count : Nat) : AreDigits (List.replicate count '0') := by
  intro c among
  rw [(List.mem_replicate.mp among).2]
  rfl

theorem isWholeNumber_zero : IsWholeNumber ['0'] := ⟨areDigits_zeros 1, nofun, .inl rfl⟩

theorem AreDigits.sublist (all : AreDigits digits) (part : places.Sublist digits) :
    AreDigits places := fun c among => all c (part.subset among)

/-- The first digits of a number that does not begin with a zero. -/
theorem isWholeNumber_take {count : Nat} (all : AreDigits digits) (leads : digits.head? ≠ some '0')
    (nonempty : digits ≠ []) (positive : 0 < count) : IsWholeNumber (digits.take count) := by
  refine ⟨all.sublist (List.take_sublist _ _), ?_, .inr ?_⟩
  · rw [Ne, List.take_eq_nil_iff]
    exact fun empty => empty.elim (Nat.ne_of_gt positive) nonempty
  · rwa [List.head?_take, if_neg (Nat.ne_of_gt positive)]

theorem isWholeNumber_append (all : AreDigits digits) (leads : digits.head? ≠ some '0')
    (nonempty : digits ≠ []) (others : AreDigits places) : IsWholeNumber (digits ++ places) := by
  refine ⟨all.append others, by simp [nonempty], .inr ?_⟩
  rwa [List.head?_append, Option.or_of_isSome (by simp [List.isSome_head?, nonempty])]

end Json

namespace Layout

open Json

theorem toList_zeros (count : Nat) : (zeros count).toList = List.replicate count '0' :=
  String.toList_ofList

theorem toList_toString (n : Nat) : (toString n).toList = Nat.toDigits 10 n := Nat.toList_repr

theorem toList_exponentText (e : Int) :
    ∃ sign power, (exponentText e).toList = 'e' :: sign :: power ∧ (sign = '+' ∨ sign = '-') ∧
      AreDigits power ∧ power ≠ [] := by
  have whole := isWholeNumber_toDigits e.natAbs
  have signs : (if e < 0 then "e-" else "e+").toList = ['e', if e < 0 then '-' else '+'] := by
    split <;> rfl
  have padded : ∃ zeros, (if (toString e.natAbs).length < 2 then "0" ++ toString e.natAbs
      else toString e.natAbs).toList = zeros ++ Nat.toDigits 10 e.natAbs ∧ AreDigits zeros := by
    split
    · exact ⟨['0'], by rw [String.toList_append, toList_toString]; rfl, areDigits_zeros 1⟩
    · exact ⟨[], toList_toString _, nofun⟩
  obtain ⟨zeros, padded, all⟩ := padded
  refine ⟨if e < 0 then '-' else '+', _, ?_, ?_, all.append whole.1, by simp [whole.2.1]⟩
  · rw [exponentText, String.toList_append, signs, padded]
    rfl
  · split
    · exact .inr rfl
    · exact .inl rfl

theorem toList_pointed (places : List Char) :
    (if String.ofList places = "" then "" else "." ++ String.ofList places).toList =
      if places = [] then [] else '.' :: places := by
  have empty : String.ofList places = "" ↔ places = [] := by
    rw [← String.toList_inj, String.toList_ofList, String.toList_empty]
  simp only [empty]
  split
  · rfl
  · rw [String.toList_append, String.toList_ofList, String.toList_ofList]
    rfl

/-- The text of a positive decimal is that of a number with a point or an exponent. -/
theorem floatText_write (layout : Layout) {d : Digits} (positive : 0 < d.significand) :
    FloatText (layout.write d).toList := by
  obtain ⟨all, nonempty, -⟩ := isWholeNumber_toDigits d.significand
  have leads := head?_toDigits positive
  have written := toList_toString d.significand
  have counted : (toString d.significand).length = (Nat.toDigits 10 d.significand).length := by
    rw [← written, String.length_toList]
  unfold write
  dsimp only
  rw [written, counted]
  generalize Nat.toDigits 10 d.significand = digits at *
  -- One case for each place of the point: before the digits, behind them, among them, and after the
  -- first of them with an exponent.
  split
  · split
    · rw [String.toList_append, String.toList_append, toList_zeros, written]
      exact .point isWholeNumber_zero ((areDigits_zeros _).append all)
        (by simp [nonempty])
    · split
      · rw [String.toList_append, String.toList_append, toList_zeros, written]
        exact .point (isWholeNumber_append all leads nonempty (areDigits_zeros _))
          (areDigits_zeros 1) nofun
      · rw [String.toList_append, String.toList_append, String.toList_ofList, String.toList_ofList,
          String.toList_ofList, List.append_assoc]
        have left : digits.drop (digits.length + d.exponent : Int).toNat ≠ [] := by
          rw [Ne, List.drop_eq_nil_iff]
          omega
        exact .point (isWholeNumber_take all leads nonempty (by omega))
          (all.sublist (List.drop_sublist _ _)) left
  · obtain ⟨sign, power, powered, signed, powers, nonempty'⟩ :=
      toList_exponentText (digits.length + d.exponent - 1)
    rw [String.toList_append, String.toList_append, powered, toList_pointed, String.toList_ofList,
      List.append_assoc]
    exact .exponent (isWholeNumber_take all leads nonempty (by decide))
      (all.sublist (List.drop_sublist _ _)) signed powers nonempty'

end Layout

namespace Binary64

open Json

theorem roundUnits_zero (den : Nat) : roundUnits 0 den = 0 := by
  simp only [roundUnits, nearest, Nat.zero_div, Nat.zero_mod]
  split
  · rw [Nat.zero_mul]
  · split
    · omega
    · rw [Nat.zero_mul]

theorem significand_pos {units : Nat} {d : VisualNovel.Digits} (positive : 0 < units)
    (back : readsBack units d = true) : 0 < d.significand := by
  refine Nat.pos_of_ne_zero fun zero => ?_
  simp only [readsBack, Digits.units, zero, Nat.zero_mul, beq_iff_eq] at back
  split at back
  all_goals
    rw [roundUnits_zero] at back
    omega

theorem readsBack_of_candidate {units digits : Nat} {point : Int} {d : VisualNovel.Digits}
    (found : candidate? units point digits = some d) : readsBack units d = true := by
  unfold candidate? at found
  dsimp only at found
  split at found
  · rename_i below above
    split at found
    · cases found
      exact below
    · split at found
      · cases found
        exact above
      · cases found
        split
        · exact below
        · exact above
  · rename_i below _
    cases found
    exact below
  · rename_i _ above
    cases found
    exact above
  · cases found

theorem trimZeros_pos (fuel : Nat) {d : VisualNovel.Digits} (positive : 0 < d.significand) :
    0 < (d.trimZeros fuel).significand := by
  induction fuel generalizing d with
  | zero => exact positive
  | succ fuel ih =>
    rw [Digits.trimZeros]
    split
    · exact ih (by dsimp only; omega)
    · exact positive

theorem shortest_pos {units : Nat} (positive : 0 < units) : 0 < (shortest units).significand := by
  refine trimZeros_pos _ ?_
  cases found : (List.range 17).findSome? fun n =>
      candidate? units (pointPosition units) (n + 1) with
  | none =>
    have power : 0 < Nat.pow 5 1074 := by decide +kernel
    generalize Nat.pow 5 1074 = factor at power
    exact Nat.mul_pos positive power
  | some d =>
    obtain ⟨_, _, found⟩ := List.exists_of_findSome?_eq_some found
    exact significand_pos positive (readsBack_of_candidate found)

/-- A finite number has the text of a number with a point or an exponent behind its sign. -/
theorem floatText_finite (negative : Bool) {units : Nat} (fits : Representable units) :
    ∃ magnitude, FloatText magnitude ∧
      (floatText (.finite negative units fits)).toList =
        (if negative then ['-'] else []) ++ magnitude := by
  have plain : floatText (.finite negative units fits) = text (.finite negative units fits) := rfl
  refine ⟨(if units = 0 then "0.0" else Layout.standard.write (shortest units)).toList, ?_, ?_⟩
  · split
    · exact .point isWholeNumber_zero (areDigits_zeros 1) nofun
    · exact Layout.floatText_write _ (shortest_pos (by omega))
  · rw [plain, text, String.toList_append]
    cases negative <;> rfl

end Binary64

namespace Json

/-! ## Numbers as scalars -/

theorem readScalar_digit (digit : c.isDigit = true) (others : List Char) :
    readScalar (c :: others) = readNumber (c :: others) false (c :: others) := by
  rw [readScalar]
  all_goals
    rintro rest same
    cases same
    cases digit

theorem readScalar_minus (digit : c.isDigit = true) (others : List Char) :
    readScalar ('-' :: c :: others) = readNumber ('-' :: c :: others) true (c :: others) := by
  rw [readScalar]
  rintro rest same
  cases same
  cases digit

/-- A number that begins with a digit, with or without a minus before it. -/
theorem readScalar_signed {text : List Char}
    (leads : ∃ c others, text = c :: others ∧ c.isDigit = true) :
    readScalar ((if negative then ['-'] else []) ++ text) =
      readNumber ((if negative then ['-'] else []) ++ text) negative text := by
  obtain ⟨c, others, rfl, digit⟩ := leads
  cases negative with
  | false => exact readScalar_digit digit others
  | true => exact readScalar_minus digit others

theorem IsWholeNumber.leads (whole : IsWholeNumber digits) (rest : List Char) :
    ∃ c others, digits ++ rest = c :: others ∧ c.isDigit = true := by
  obtain ⟨c, others, rfl⟩ := List.exists_cons_of_ne_nil whole.2.1
  exact ⟨c, others ++ rest, rfl, whole.1 c (.head _)⟩

theorem FloatText.leads {text : List Char} (isFloat : FloatText text) (rest : List Char) :
    ∃ c others, text ++ rest = c :: others ∧ c.isDigit = true := by
  cases isFloat with
  | point whole => rw [List.append_assoc]; exact whole.leads _
  | exponent whole => rw [List.append_assoc]; exact whole.leads _

theorem toList_toString_int (value : Int) :
    (toString value).toList =
      (if decide (value < 0) then ['-'] else []) ++ Nat.toDigits 10 value.natAbs := by
  cases value with
  | ofNat n =>
    rw [if_neg (by simp)]
    exact Nat.toList_repr
  | negSucc n =>
    rw [if_pos (by simp)]
    have text : (toString (Int.negSucc n)).toList = ("-" ++ (n + 1).repr).toList := rfl
    rw [text, String.toList_append, Nat.toList_repr]
    rfl

theorem length_toDigits_le {n count : Nat} (positive : 0 < count) (few : n < Nat.pow 10 count) :
    (Nat.toDigits 10 n).length ≤ count :=
  (Nat.length_toDigits_le_iff (by decide) positive).mpr few

/-- An integer with not too many digits is read as it was written. -/
theorem readScalar_int {value : Int} (few : value.natAbs < Nat.pow 10 digitLimit)
    (delimited : Delimited rest) :
    readScalar ((toString value).toList ++ rest) = .ok (int value, rest) := by
  have whole := isWholeNumber_toDigits value.natAbs
  rw [toList_toString_int, List.append_assoc, readScalar_signed (whole.leads rest),
    readNumber_int whole delimited (length_toDigits_le (by decide) few),
    Nat.ofDigitChars_toDigits (by decide) (by decide)]
  have signed : (if decide (value < 0) then -(value.natAbs : Int) else value.natAbs) = value := by
    simp only [decide_eq_true_eq]
    omega
  rw [signed]

/-- A double-precision number is read as one. -/
theorem readScalar_float (value : Binary64) (delimited : Delimited rest) :
    ∃ read, readScalar ((floatText value).toList ++ rest) = .ok (float read, rest) := by
  cases value with
  | nan => exact ⟨_, rfl⟩
  | infinite negative => cases negative <;> exact ⟨_, rfl⟩
  | finite negative units fits =>
    obtain ⟨magnitude, isFloat, written⟩ := Binary64.floatText_finite negative fits
    rw [written, List.append_assoc, readScalar_signed (isFloat.leads rest)]
    exact isFloat.read delimited

end Json

end VisualNovel
