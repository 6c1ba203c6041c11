import Mathlib.Data.List.Chain
import VisualNovel.Json.Reader
import VisualNovel.Json.Writer

/-! Strings in the text of a document, as they are written and as they are read. A character is
written by itself or as one of three kinds of escape (`Spelling`), and each of them is read back as
that character, with one exception: two halves of a surrogate pair that stand side by side are
written as two units, and two such units are read as the one character of the pair. So a string
comes back with its pairs joined (`readString_flatMap`), and as it was if it has none. -/
namespace VisualNovel

namespace Text

/-! ## Code points -/

theorem toNat_ofNat {n : Nat} (valid : n.isValidChar) : (Char.ofNat n).toNat = n := by
  rw [Char.ofNat, dif_pos valid]
  rfl

theorem not_surrogate (c : Char) : isSurrogate c.toNat = false := by
  have valid := c.valid
  simp only [UInt32.isValidChar, Nat.isValidChar] at valid
  simp only [isSurrogate, Char.toNat, Bool.and_eq_false_imp, decide_eq_true_eq,
    decide_eq_false_iff_not]
  omega

theorem ofCodePoint_codePoint (c : Char) : ofCodePoint (codePoint c) = c := by
  unfold codePoint
  split
  · rename_i stands
    simp only [standsForSurrogate, Bool.and_eq_true, decide_eq_true_eq] at stands
    rw [ofCodePoint, if_pos stands.2, Nat.sub_add_cancel stands.1, Char.ofNat_toNat]
  · rw [ofCodePoint, if_neg (by simp [not_surrogate]), Char.ofNat_toNat]

theorem codePoint_le (c : Char) : codePoint c ≤ c.toNat := by
  unfold codePoint
  split
  · exact Nat.sub_le _ _
  · exact Nat.le_refl _

theorem codePoint_eq_toNat {c : Char} (beyond : 65536 ≤ codePoint c) : codePoint c = c.toNat := by
  unfold codePoint at beyond ⊢
  split
  · rename_i stands
    simp only [standsForSurrogate, isSurrogate, Bool.and_eq_true, decide_eq_true_eq] at stands
    rw [if_pos (by simp [standsForSurrogate, isSurrogate, stands])] at beyond
    omega
  · rfl

theorem toNat_le (c : Char) : c.toNat ≤ 0x10ffff := by
  have valid := c.valid
  simp only [UInt32.isValidChar, Nat.isValidChar] at valid
  have same : c.toNat = c.val.toNat := rfl
  omega

/-! ## Pairs of halves -/

/-- Whether two characters are the halves of a surrogate pair. -/
def isPair (c d : Char) : Bool :=
  Json.isHighSurrogate (codePoint c) && Json.isLowSurrogate (codePoint d)

/-- Characters with the character of a pair in the place of two halves that stand side by side. -/
def joinPairs : List Char → List Char
  | c :: d :: rest =>
    if isPair c d then Json.pairChar (codePoint c) (codePoint d) :: joinPairs rest
    else c :: joinPairs (d :: rest)
  | text => text

/-- A text in which two halves of a surrogate pair that stand side by side have become the character
of the pair. -/
def joined (text : String) : String := String.ofList (joinPairs text.toList)

/-- A text in which no two halves of a pair stand side by side. -/
def IsWhole (text : String) : Prop := text.toList.IsChain fun c d => ¬isPair c d = true

instance (text : String) : Decidable (IsWhole text) :=
  inferInstanceAs (Decidable (List.IsChain _ _))

theorem joinPairs_of_isChain {text : List Char}
    (apart : text.IsChain fun c d => ¬isPair c d = true) : joinPairs text = text := by
  induction text using joinPairs.induct with
  | case1 c d others pair ih => exact absurd pair (List.isChain_cons_cons.mp apart).1
  | case2 c d others single ih =>
    rw [joinPairs, if_neg single, ih (List.isChain_cons_cons.mp apart).2]
  | case3 text short =>
    rw [joinPairs]
    exact short

theorem joined_of_isWhole {text : String} (whole : IsWhole text) : joined text = text := by
  rw [joined, joinPairs_of_isChain whole, String.ofList_toList]

theorem le_toNat_pairChar {c d : Char} (pair : isPair c d = true) :
    65536 ≤ (Json.pairChar (codePoint c) (codePoint d)).toNat := by
  simp only [isPair, Json.isHighSurrogate, Json.isLowSurrogate, Bool.and_eq_true,
    decide_eq_true_eq] at pair
  have valid : (0x10000 + (codePoint c - 0xd800) * 0x400 + (codePoint d - 0xdc00)).isValidChar := by
    simp only [Nat.isValidChar]
    omega
  rw [Json.pairChar, toNat_ofNat valid]
  omega

/-- No character below the first 65536 comes of a pair. -/
theorem joinPairs_of_plain {text : List Char} (plain : ∀ c ∈ joinPairs text, c.toNat < 65536) :
    joinPairs text = text := by
  induction text using joinPairs.induct with
  | case1 c d others pair ih =>
    rw [joinPairs, if_pos pair] at plain
    exact absurd (plain _ (.head _)) (Nat.not_lt.mpr (le_toNat_pairChar pair))
  | case2 c d others single ih =>
    rw [joinPairs, if_neg single] at plain ⊢
    rw [ih fun other among => plain other (.tail _ among)]
  | case3 text short =>
    rw [joinPairs]
    exact short

/-- Nothing but a plain name is joined to that name. -/
theorem joined_eq_iff {text name : String} (plain : ∀ c ∈ name.toList, c.toNat < 0xd800) :
    joined text = name ↔ text = name := by
  constructor
  · rintro rfl
    rw [joined, String.toList_ofList] at plain
    rw [joined, joinPairs_of_plain fun c among => Nat.lt_trans (plain c among) (by decide),
      String.ofList_toList]
  · rintro rfl
    refine joined_of_isWhole (List.isChain_iff_forall_rel_of_append_cons_cons.mpr ?_)
    intro c d before after parts pair
    have low : c.toNat < 0xd800 := plain c (by simp [parts])
    have least := codePoint_le c
    simp only [isPair, Json.isHighSurrogate, Bool.and_eq_true, decide_eq_true_eq] at pair
    omega

end Text

namespace Json

open Text

/-! ## Spellings -/

/-- The ways in which a character can be written in a string. -/
inductive Spelling (c : Char) : List Char → Prop
  | letter {letter : Char} (escapes : shortEscape? letter = some c) : Spelling c ['\\', letter]
  | plain (quoteless : c ≠ '"') (bare : c ≠ '\\') (printable : 32 ≤ c.toNat) : Spelling c [c]
  | unit (fits : codePoint c < 65536) : Spelling c (escapeUnit (codePoint c))
  | pair {high low : Nat} (highs : isHighSurrogate high = true) (lows : isLowSurrogate low = true)
    (whole : pairChar high low = c) : Spelling c (escapeUnit high ++ escapeUnit low)

variable {start done rest : List Char} {c letter next : Char} {unit other : Nat}

theorem shortEscape?_escapeLetter (escapes : escapeLetter? c = some letter) :
    shortEscape? letter = some c := by
  unfold escapeLetter? at escapes
  split at escapes <;> cases escapes <;> rfl

/-- A character beyond the first 65536 is the pair that it is written as. -/
theorem pairChar_codePoint (beyond : 65536 ≤ codePoint c) :
    pairChar (0xd800 + (codePoint c - 0x10000) / 0x400) (0xdc00 + (codePoint c - 0x10000) % 0x400) =
      c := by
  have same := codePoint_eq_toNat beyond
  rw [same] at beyond ⊢
  have together : 0x10000 + (0xd800 + (c.toNat - 0x10000) / 0x400 - 0xd800) * 0x400 +
      (0xdc00 + (c.toNat - 0x10000) % 0x400 - 0xdc00) = c.toNat := by
    omega
  rw [pairChar, together, Char.ofNat_toNat]

theorem spelling_escapeChar (c : Char) : Spelling c (escapeChar c) := by
  unfold escapeChar
  split
  · rename_i letter escapes
    exact .letter (shortEscape?_escapeLetter escapes)
  · rename_i unescaped
    have quoteless : c ≠ '"' := by
      rintro rfl
      cases unescaped
    have bare : c ≠ '\\' := by
      rintro rfl
      cases unescaped
    dsimp only
    split
    · rename_i printable
      simp only [Bool.and_eq_true, decide_eq_true_eq] at printable
      exact .plain quoteless bare (Nat.le_trans printable.1 (codePoint_le c))
    · split
      · exact .unit ‹_›
      · have beyond : 65536 ≤ codePoint c := by omega
        have most := codePoint_eq_toNat beyond ▸ toNat_le c
        refine .pair ?_ ?_ (pairChar_codePoint beyond)
        · simp only [isHighSurrogate, Bool.and_eq_true, decide_eq_true_eq]
          omega
        · simp only [isLowSurrogate, Bool.and_eq_true, decide_eq_true_eq]
          omega

theorem escapeLetter?_of_le (beyond : 128 ≤ c.toNat) : escapeLetter? c = none := by
  unfold escapeLetter?
  split <;> first | rfl | exact absurd beyond (by decide)

theorem escapeChar_of_isSurrogate
    (surrogate : isHighSurrogate (codePoint c) = true ∨ isLowSurrogate (codePoint c) = true) :
    escapeChar c = escapeUnit (codePoint c) := by
  simp only [isHighSurrogate, isLowSurrogate, Bool.and_eq_true, decide_eq_true_eq] at surrogate
  have least := codePoint_le c
  rw [escapeChar, escapeLetter?_of_le (by omega)]
  simp only [Bool.and_eq_true, decide_eq_true_eq]
  rw [if_neg (by omega), if_pos (by omega)]

/-! ## Steps of the reader -/

theorem hexValue?_hexChar : ∀ digit < 16, hexValue? (hexChar digit) = some digit := by
  decide

theorem hexUnit?_escapeUnit (fits : unit < 65536) :
    hexUnit? (hexChar (unit / 4096 % 16)) (hexChar (unit / 256 % 16)) (hexChar (unit / 16 % 16))
      (hexChar (unit % 16)) = some unit := by
  simp only [hexUnit?, hexValue?_hexChar _ (Nat.mod_lt _ (by decide : 16 > 0)), Option.bind_eq_bind,
    Option.bind_some, Option.pure_def, Option.some_inj]
  omega

theorem readString_plain (quoteless : c ≠ '"') (bare : c ≠ '\\') (printable : 32 ≤ c.toNat) :
    readString start done (c :: rest) = readString start (c :: done) rest := by
  rw [readString]
  · rw [if_neg (by omega)]
  all_goals simp_all

theorem readString_letter (escapes : shortEscape? letter = some c) :
    readString start done ('\\' :: letter :: rest) = readString start (c :: done) rest := by
  have notUnit : letter ≠ 'u' := by
    rintro rfl
    cases escapes
  rw [readString]
  · rw [escapes]
  all_goals simp_all

theorem readString_pair (fits : unit < 65536) (fits' : other < 65536)
    (pair : (isHighSurrogate unit && isLowSurrogate other) = true) :
    readString start done (escapeUnit unit ++ (escapeUnit other ++ next :: rest)) =
      readString start (pairChar unit other :: done) (next :: rest) := by
  simp only [escapeUnit, List.cons_append, List.nil_append]
  rw [readString]
  simp only [hexUnit?_escapeUnit fits, hexUnit?_escapeUnit fits', if_pos pair]

/-- A tail that is not empty, and the unit whose escape it begins with, if it begins with one. -/
inductive Begins : Option Nat → List Char → Prop
  | other {next : Char} {rest : List Char} (no : next = '\\' → rest.head? ≠ some 'u') :
    Begins none (next :: rest)
  | unit {unit : Nat} {next : Char} {rest : List Char} (fits : unit < 65536) :
    Begins (some unit) (escapeUnit unit ++ next :: rest)

theorem Begins.exists_cons {first : Option Nat} {tail : List Char} (begins : Begins first tail) :
    ∃ next rest, tail = next :: rest := by
  cases begins with
  | other => exact ⟨_, _, rfl⟩
  | unit => exact ⟨_, _, rfl⟩

/-- A unit is read by itself unless the next one makes a pair with it. -/
theorem readString_unit {first : Option Nat} {tail : List Char} (fits : unit < 65536)
    (begins : Begins first tail)
    (apart : ∀ other ∈ first, ¬(isHighSurrogate unit && isLowSurrogate other) = true) :
    readString start done (escapeUnit unit ++ tail) =
      readString start (ofCodePoint unit :: done) tail := by
  cases begins with
  | other no =>
    simp only [escapeUnit, List.cons_append, List.nil_append]
    rw [readString]
    · simp only [hexUnit?_escapeUnit fits]
    · rintro e f g h i rest rfl rfl
      exact no rfl rfl
  | unit fits' =>
    simp only [escapeUnit, List.cons_append, List.nil_append]
    rw [readString]
    simp only [hexUnit?_escapeUnit fits, hexUnit?_escapeUnit fits', if_neg (apart _ rfl)]

/-! ## Whole strings -/

theorem lt_of_isHighSurrogate (high : isHighSurrogate unit = true) : unit < 65536 := by
  simp only [isHighSurrogate, Bool.and_eq_true, decide_eq_true_eq] at high
  omega

theorem lt_of_isLowSurrogate (low : isLowSurrogate unit = true) : unit < 65536 := by
  simp only [isLowSurrogate, Bool.and_eq_true, decide_eq_true_eq] at low
  omega

theorem not_isLowSurrogate (high : isHighSurrogate unit = true) : ¬isLowSurrogate unit = true := by
  simp only [isHighSurrogate, isLowSurrogate, Bool.and_eq_true, decide_eq_true_eq] at high ⊢
  omega

theorem readString_escapeChar {first : Option Nat} {tail : List Char} (begins : Begins first tail)
    (apart : ∀ unit ∈ first, ¬(isHighSurrogate (codePoint c) && isLowSurrogate unit) = true) :
    readString start done (escapeChar c ++ tail) = readString start (c :: done) tail := by
  have spelled := spelling_escapeChar c
  generalize escapeChar c = text at spelled
  cases spelled with
  | letter escapes => exact readString_letter escapes
  | plain quoteless bare printable => exact readString_plain quoteless bare printable
  | unit fits => rw [readString_unit fits begins apart, ofCodePoint_codePoint]
  | pair highs lows whole =>
    obtain ⟨next, rest, rfl⟩ := begins.exists_cons
    rw [List.append_assoc, readString_pair (lt_of_isHighSurrogate highs)
      (lt_of_isLowSurrogate lows) (by rw [highs, lows]; rfl), whole]

/-- Two halves of a pair are written one after the other, and read as the character of the pair. -/
theorem readString_halves {d : Char} (pair : isPair c d = true) :
    readString start done (escapeChar c ++ (escapeChar d ++ next :: rest)) =
      readString start (pairChar (codePoint c) (codePoint d) :: done) (next :: rest) := by
  obtain ⟨highs, lows⟩ := Bool.and_eq_true_iff.mp pair
  rw [escapeChar_of_isSurrogate (.inl highs), escapeChar_of_isSurrogate (.inr lows),
    readString_pair (lt_of_isHighSurrogate highs) (lt_of_isLowSurrogate lows) pair]

/-- What a character is written as begins with its code point, if it begins with a unit that could
be the second half of a pair. -/
theorem begins_escapeChar (c next : Char) (rest : List Char) :
    ∃ first, Begins first (escapeChar c ++ next :: rest) ∧
      ∀ unit ∈ first, isLowSurrogate unit = true → unit = codePoint c := by
  have spelled := spelling_escapeChar c
  generalize escapeChar c = text at spelled
  cases spelled with
  | letter escapes =>
    refine ⟨none, .other ?_, nofun⟩
    rintro - same
    cases same
    cases escapes
  | plain _ bare _ => exact ⟨none, .other fun same => absurd same bare, nofun⟩
  | unit fits =>
    refine ⟨_, .unit fits, ?_⟩
    rintro _ ⟨⟩ -
    rfl
  | pair highs lows whole =>
    rename_i high low
    rw [List.append_assoc]
    refine ⟨some high, .unit (lt_of_isHighSurrogate highs), ?_⟩
    rintro _ ⟨⟩ lows
    exact absurd lows (not_isLowSurrogate highs)

/-- A string ends with its closing quote, or goes on with the next character. -/
theorem begins_flatMap (text rest : List Char) :
    ∃ first, Begins first (text.flatMap escapeChar ++ '"' :: rest) ∧
      ∀ unit ∈ first, isLowSurrogate unit = true → text.head?.map codePoint = some unit := by
  induction text with
  | nil => exact ⟨none, .other nofun, nofun⟩
  | cons c others ih =>
    obtain ⟨_, follows, _⟩ := ih
    obtain ⟨next, after, follows⟩ := follows.exists_cons
    obtain ⟨first, begins, same⟩ := begins_escapeChar c next after
    rw [List.flatMap_cons, List.append_assoc, follows]
    refine ⟨first, begins, fun unit first lows => ?_⟩
    rw [same unit first lows]
    rfl

/-- A string is read as it was written, apart from pairs of halves. -/
theorem readString_flatMap (text : List Char) : ∀ done : List Char,
    readString start done (text.flatMap escapeChar ++ '"' :: rest) =
      .ok (String.ofList (done.reverse ++ joinPairs text), rest) := by
  -- Along `joinPairs`, which takes two characters where they are a pair and one where they are not.
  induction text using joinPairs.induct with
  | case1 c d others pair ih =>
    intro done
    obtain ⟨_, follows, _⟩ := begins_flatMap others rest
    obtain ⟨next, after, follows⟩ := follows.exists_cons
    rw [List.flatMap_cons, List.flatMap_cons, List.append_assoc, List.append_assoc, follows,
      readString_halves pair, ← follows, ih, joinPairs, if_pos pair, List.reverse_cons,
      List.append_assoc, List.singleton_append]
  | case2 c d others apart ih =>
    intro done
    obtain ⟨first, begins, follows⟩ := begins_flatMap (d :: others) rest
    have single : ∀ unit ∈ first,
        ¬(isHighSurrogate (codePoint c) && isLowSurrogate unit) = true := by
      intro unit first pair
      obtain ⟨_, lows⟩ := Bool.and_eq_true_iff.mp pair
      cases follows unit first lows
      exact apart pair
    rw [List.flatMap_cons, List.append_assoc, readString_escapeChar begins single, ih, joinPairs,
      if_neg apart, List.reverse_cons, List.append_assoc, List.singleton_append]
  | case3 text short =>
    intro done
    have ends : Begins none ('"' :: rest) := .other nofun
    have closes (done : List Char) : readString start done ('"' :: rest) =
        .ok (String.ofList done.reverse, rest) := by
      rw [readString]
    match text with
    | [] => rw [List.flatMap_nil, List.nil_append, closes, joinPairs, List.append_nil]; nofun
    | [c] =>
      rw [List.flatMap_cons, List.flatMap_nil, List.append_nil, readString_escapeChar ends nofun,
        closes, joinPairs, List.reverse_cons]
      nofun
    | c :: d :: others => exact absurd rfl (short c d others)

end Json

end VisualNovel
