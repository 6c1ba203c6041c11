import VisualNovel.Json.Basic
import VisualNovel.Named
import VisualNovel.Number.Decimal
import VisualNovel.Number.Number
import VisualNovel.Number.Shortest
/-!
The values that story variables hold, their text in the story, and their loose reading as numbers.
-/

namespace VisualNovel

inductive Value where
  | bool (value : Bool)
  | number (value : Number)
  | text (value : String)
  deriving DecidableEq

/-- The variables of a playthrough. -/
abbrev Variables := Named Value

/-- What is added to variables. -/
abbrev Increments := Named Number

namespace Number

/-- A number as it is shown to the player: a whole one without a point, whatever its kind. -/
def display : Number → String
  | int n => toString n
  | float .nan => "NaN"
  | float x =>
    match x.toInt? with
    | some n => toString n
    | none => x.text

/-- The most digits with which an integer can be written out. -/
def digitLimit : Nat := 4300

/-- Whether a number can be written out.  No float is too long for that. -/
def isWritable : Number → Bool
  | int n => n.natAbs < Nat.pow 10 digitLimit
  | float _ => true

def toJson : Number → Json
  | int n => .int n
  | float x => .float x

end Number

namespace Value

/-- A value as it is shown to the player. -/
def display : Value → String
  | bool value => if value then "true" else "false"
  | number value => value.display
  | text value => value

def isWritable : Value → Bool
  | number value => value.isWritable
  | bool _ | text _ => true

/-- Reads a value as a number: a truth value as one or zero, a blank text as zero, and a text that
is no number as `nan`.  Nothing comes of an integer beyond the range. -/
def toNumber? : Value → Option Binary64
  | bool value => some (if value then .unit else .zero)
  | number value => value.toBinary64?
  | text value =>
    match Text.trimChars value.toList with
    | [] => some .zero
    | trimmed => some ((Decimal.readTrimmed trimmed).getD .nan)

/-- Whether two values are the same: numbers are compared by value, and values of different kinds
differ. -/
def same : Value → Value → Bool
  | bool a, bool b => a == b
  | number a, number b => a.equal b
  | text a, text b => a == b
  | _, _ => false

def toJson : Value → Json
  | bool value => .bool value
  | number value => value.toJson
  | text value => .str value

/-- A scalar document as a value. -/
def ofJson? : Json → Option Value
  | .bool value => some (bool value)
  | .int value => some (number (.int value))
  | .float value => some (number (.float value))
  | .str value => some (text value)
  | _ => none

end Value

end VisualNovel
