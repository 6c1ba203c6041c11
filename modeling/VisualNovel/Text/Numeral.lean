import VisualNovel.Text.Blank
import VisualNovel.Text.Digit
/-!
Whole numbers written in digits of any script, with a sign, with white space around them, and with
single underscores between digits.
-/

namespace VisualNovel.Text

/-- The blanks that may stand around a number.  In a text of ASCII characters alone those that
separate records do not count. -/
def numeralBlank (asciiOnly : Bool) (c : Char) : Bool :=
  isBlank c && !(asciiOnly && 0x1c ≤ c.toNat && c.toNat ≤ 0x1f)

/-- A text without the blanks around a number. -/
def trimNumeral (text : List Char) : List Char :=
  let blank := numeralBlank (text.all fun c => c.toNat < 128)
  ((text.dropWhile blank).reverse.dropWhile blank).reverse

/-- The values of digits with single underscores between them. -/
def groupedDigits? : List Char → Option (List Nat)
  | [] => none
  | [c] => (digitValue? c).map ([·])
  | c :: '_' :: rest => do return (← digitValue? c) :: (← groupedDigits? rest)
  | c :: rest => do return (← digitValue? c) :: (← groupedDigits? rest)

/-- The whole number that a text stands for; its digits may be no more than 4300. -/
def integer? (text : List Char) : Option Int := do
  let number := fun digits => do
    let values ← groupedDigits? digits
    if values.length ≤ 4300 then return values.foldl (fun n digit => 10 * n + digit) 0
    else none
  match trimNumeral text with
  | '-' :: digits => do return -((← number digits : Nat) : Int)
  | '+' :: digits => do return ((← number digits : Nat) : Int)
  | digits => do return ((← number digits : Nat) : Int)

end VisualNovel.Text
