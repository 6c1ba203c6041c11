import VisualNovel.Number.Decimal
import VisualNovel.Schema.Checked
import VisualNovel.Story.Value
/-!
What is accepted for a scalar.  Texts are taken as they are; truth values and numbers are also read
from each other and from text, as long as nothing is lost.
-/

namespace VisualNovel.Schema

/-- A text. -/
def textual : Expects String
  | .str value => .valid value
  | _ => .problem .notText

/-- One of a few words. -/
def among {α : Type} (read : String → Option α) : Expects α
  | .str word =>
    match read word with
    | some value => .valid value
    | none => .problem .notAmongChoices
  | _ => .problem .notAmongChoices

/-- The words for the two truth values, in any case of ASCII letters. -/
def boolWord? (word : String) : Option Bool :=
  let lower := word.map Char.toLower
  if lower ∈ ["1", "on", "t", "true", "y", "yes"] then some true
  else if lower ∈ ["0", "off", "f", "false", "n", "no"] then some false
  else none

/-- The least positive integer that is none of 64 bits. -/
def wordLimit : Int := Nat.pow 2 63

/-- Whether an integer is one of 64 bits. -/
def isWord (value : Int) : Bool := -wordLimit ≤ value && value < wordLimit

/-- The integer that a number of double precision is, unless it is as far from zero as integers of
64 bits go, or farther. -/
def wholeWord? (x : Binary64) : Option Int :=
  x.toInt?.filter fun value => -wordLimit < value && value < wordLimit

/-- A one or a zero among the integers. -/
def bit (value : Int) : Checked Bool :=
  if value = 0 then .valid false else if value = 1 then .valid true else .problem .notBoolText

/-- A truth value, a one or a zero, or a word for one. -/
def boolean : Expects Bool
  | .bool value => .valid value
  | .int value => if isWord value then bit value else .problem .notBool
  | .float x => (wholeWord? x).elim (.problem .notBool) bit
  | .str word =>
    match boolWord? word with
    | some value => .valid value
    | none => .problem .notBoolText
  | _ => .problem .notBool

/-- White space that may stand around the text of a number; the control characters that separate
records are not among it. -/
def surroundsNumber (c : Char) : Bool := Text.isBlank c && !(0x1c ≤ c.toNat && c.toNat ≤ 0x1f)

def trimNumber (text : List Char) : List Char :=
  ((text.dropWhile surroundsNumber).reverse.dropWhile surroundsNumber).reverse

/-- Removes a fraction that consists of zeros; a point with nothing after it is no fraction. -/
def dropZeroFraction (digits : List Char) : List Char :=
  match digits.dropWhile (· ≠ '.') with
  | _ :: zero :: zeros =>
    if (zero :: zeros).all (· == '0') then digits.takeWhile (· ≠ '.') else digits
  | _ => digits

/-- Removes the zeros and underscores before a number that starts with a zero, keeping a zero before
a point and the last character of all.  Behind such zeros there may be a minus. -/
def dropLeadingZeros : List Char → Option (List Char)
  | '0' :: rest =>
    let between := rest.takeWhile fun c => c == '0' || c == '_'
    match rest.drop between.length with
    | [] => some [(rest.getLast?).getD '0']
    | '.' :: fraction => some ((between.getLast?).getD '0' :: '.' :: fraction)
    | c :: digits => if c.isDigit || c == '-' then some (c :: digits) else none
  | c :: rest => if c.isDigit then some (c :: rest) else none
  | [] => none

/-- Removes the underscores between digits; there may be none at either end and no two in a row. -/
def dropUnderscores (before : Char) : List Char → Option (List Char)
  | [] => if before == '_' then none else some []
  | c :: rest =>
    if c == '_' then if before == '_' then none else dropUnderscores c rest
    else (dropUnderscores c rest).map (c :: ·)

/-- The number that a text of digits stands for. -/
def digits? (text : List Char) : Option Nat :=
  if text ≠ [] ∧ text.all Char.isDigit then
    some (text.foldl (fun value c => 10 * value + (c.toNat - 48)) 0)
  else none

/-- An optional minus and digits, of which the first of several is no zero. -/
def signedDigits? : List Char → Option Int
  | '-' :: text => (unsigned? text).map fun n => -(n : Int)
  | text => (unsigned? text).map fun n => (n : Int)
where
  unsigned? : List Char → Option Nat
    | '0' :: _ :: _ => none
    | text => digits? text

/-- The text of an integer without what may be left out: white space around it, a plus, leading
zeros, underscores between digits and a fraction of zeros. -/
def cleanInt? (text : String) : Option (List Char) := do
  let clean? (unsigned : List Char) : Option (List Char) := do
    dropUnderscores '_' (dropZeroFraction (← dropLeadingZeros unsigned))
  match trimNumber text.toList with
  | '+' :: rest => clean? rest
  | '-' :: rest => return '-' :: (← clean? rest)
  | rest => clean? rest

/-- How many digits an integer can have. -/
def intDigitLimit : Nat := 4300

/-- Whether a text begins with an integer of more digits than one can have. -/
def startsTooLong (text : List Char) : Bool :=
  let digits := (if text.head? == some '-' then text.drop 1 else text).takeWhile Char.isDigit
  digits.head? != some '0' && intDigitLimit < digits.length

/-- The integer that a text stands for. -/
def intText (text : String) : Checked Int :=
  if startsTooLong text.toList then .problem .intOutOfRange
  else
    match cleanInt? text with
    | none => .problem .notIntText
    | some clean =>
      if startsTooLong clean then .problem .intOutOfRange
      else (signedDigits? clean).elim (.problem .notIntText) .valid

/-- An integer, a truth value as one or zero, a whole number, or the text of an integer. -/
def integer : Expects Int
  | .int value => .valid value
  | .bool value => .valid (if value then 1 else 0)
  | .float x =>
    if !x.isFinite then .problem .notFinite
    else if x.toInt?.isNone then .problem .notWhole
    else (wholeWord? x).elim (.problem .intOutOfRange) .valid
  | .str text => intText text
  | _ => .problem .notInt

/-- The number that a text in ASCII stands for.  White space around it is allowed, and so are
underscores inside it, but not both. -/
def floatText? (text : String) : Option Binary64 :=
  let plain? (chars : List Char) : Option Binary64 :=
    if chars.all (·.toNat < 128) then Decimal.readTrimmed chars else none
  let trimmed := trimNumber text.toList
  if trimmed.contains '_' then (dropUnderscores '_' text.toList).bind plain?
  else plain? trimmed

/-- A number rounded to double precision, a truth value as one or zero, or the text of a number. -/
def floating : Expects Binary64
  | .float value => .valid value
  | .int value =>
    match Binary64.ofInt? value with
    | some value => .valid value
    | none => .problem .notNumber
  | .bool value => .valid (if value then .unit else .zero)
  | .str text =>
    match floatText? text with
    | some value => .valid value
    | none => .problem .notNumberText
  | _ => .problem .notNumber

/-- The value of the first of two ways to read a document that works; the issues of both are told
apart by their names. -/
def either {α : Type} (document : Json) (first second : Expects α) : Checked α :=
  match first document with
  | .valid value => .valid value
  | left =>
    match second document with
    | .valid value => .valid value
    | right => (fun _ value => value) <$> left.within (.key "int") <*> right.within (.key "float")

/-- A number of either kind, kept as it is; anything else is read as an integer if possible and else
as a number of double precision. -/
def numeric : Expects Number
  | .int value => .valid (.int value)
  | .float value => .valid (.float value)
  | document =>
    either document (fun document => Number.int <$> integer document)
      (fun document => Number.float <$> floating document)

/-- The value of a variable, kept as it is. -/
def scalar : Expects Value := fun document =>
  match Value.ofJson? document with
  | some value => .valid value
  | none =>
    .invalid ⟨.notBool, [.key "bool"]⟩
      [⟨.notInt, [.key "int"]⟩, ⟨.notNumber, [.key "float"]⟩, ⟨.notText, [.key "str"]⟩]

/-- Values by name. -/
def named {α : Type} (expects : Expects α) : Expects (Named α) := fun document =>
  Named.ofList <$> fields expects document

end VisualNovel.Schema
