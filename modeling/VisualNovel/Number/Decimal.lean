import VisualNovel.Number.Binary64
import VisualNovel.Text.Blank
import VisualNovel.Text.Digit
/-!
Reading a number written by a person: white space around it, a sign, digits of any script with
single underscores between them, a point with digits on at least one side, an exponent; or the words
for infinity and for no number, in any case.
-/

namespace VisualNovel.Decimal

open Text

/-- Removes the underscores, each of which has to stand between two digits. -/
def dropUnderscores : Option Char → List Char → Option (List Char)
  | _, [] => some []
  | before, c :: rest =>
    if c = '_' then
      if before.any isDigit && rest.head?.any isDigit then dropUnderscores (some c) rest else none
    else (dropUnderscores (some c) rest).map (c :: ·)

/-- The digits at the start of a text as a number, how many there are, and what follows them. -/
def readDigits (value count : Nat) : List Char → Nat × Nat × List Char
  | [] => (value, count, [])
  | c :: rest =>
    match digitValue? c with
    | some d => readDigits (10 * value + d) (count + 1) rest
    | none => (value, count, c :: rest)

/-- An optional sign: whether it is a minus, and what follows. -/
def readSign : List Char → Bool × List Char
  | '-' :: rest => (true, rest)
  | '+' :: rest => (false, rest)
  | rest => (false, rest)

/-- The exponent at the end of a number; an empty text is the exponent zero. -/
def readExponent : List Char → Option Int
  | [] => some 0
  | c :: rest =>
    if c = 'e' || c = 'E' then
      let (negative, digits) := readSign rest
      match readDigits 0 0 digits with
      | (_, 0, _) => none
      | (value, _, []) => some (if negative then -value else value)
      | _ => none
    else none

/-- An unsigned number: digits, a point and digits, and an exponent. -/
def readUnsigned (negative : Bool) (text : List Char) : Option Binary64 :=
  let (whole, wholeCount, rest) := readDigits 0 0 text
  let (significand, places, rest) :=
    match rest with
    | '.' :: rest => readDigits whole 0 rest
    | rest => (whole, 0, rest)
  if wholeCount + places = 0 then none
  else (readExponent rest).map fun exponent => .ofDecimal negative significand (exponent - places)

/-- The words that stand for a number without digits. -/
def word? (negative : Bool) (text : List Char) : Option Binary64 :=
  let lower := text.map Char.toLower
  if lower = "inf".toList || lower = "infinity".toList then some (.infinite negative)
  else if lower = "nan".toList then some .nan
  else none

/-- Reads a text without white space around it. -/
def readTrimmed (text : List Char) : Option Binary64 := do
  let (negative, rest) := readSign (← dropUnderscores none text)
  match word? negative rest with
  | some x => some x
  | none => readUnsigned negative rest

/-- The number that a text stands for. -/
def read (text : String) : Option Binary64 := readTrimmed (trimChars text.toList)

end VisualNovel.Decimal
