import VisualNovel.Story.Variables
/-!
Conditions on variables.  Equality asks for the same kind and value; the four orders compare what
both sides are as numbers, so that they hold of nothing that is none.
-/

namespace VisualNovel

/-- A variable compared with a value.  The operator is kept as it was written. -/
structure Condition where
  name : String
  operator : String
  value : Option Value
  deriving DecidableEq

/-- The comparisons that a condition can ask for. -/
inductive Comparison where
  | equal
  | different
  | greater
  | less
  | greaterOrEqual
  | lessOrEqual
  deriving DecidableEq

namespace Comparison

def ofOperator? : String → Option Comparison
  | "==" => some equal
  | "!=" => some different
  | ">" => some greater
  | "<" => some less
  | ">=" => some greaterOrEqual
  | "<=" => some lessOrEqual
  | _ => none

/-- Whether an absent or present value is the same as another. -/
def same : Option Value → Option Value → Bool
  | none, none => true
  | some a, some b => a.same b
  | _, _ => false

/-- An absent value is no number. -/
def toNumber? (value : Option Value) : Option Binary64 :=
  match value with
  | none => some .nan
  | some value => value.toNumber?

/-- An order between the two sides as numbers. -/
def order (holds : Binary64 → Binary64 → Bool) (left right : Option Value) : Option Bool := do
  return holds (← toNumber? left) (← toNumber? right)

/-- Whether the comparison holds; nothing comes of an order on an integer beyond the range. -/
def holds? : Comparison → Option Value → Option Value → Option Bool
  | equal, left, right => some (same left right)
  | different, left, right => some (!same left right)
  | greater, left, right => order (fun a b => b.lt a) left right
  | less, left, right => order Binary64.lt left right
  | greaterOrEqual, left, right => order (fun a b => b.le a) left right
  | lessOrEqual, left, right => order Binary64.le left right

end Comparison

namespace Condition

/-- Whether a condition holds; one with an unknown operator always does. -/
def holds? (condition : Condition) (vars : Variables) : Option Bool :=
  match Comparison.ofOperator? condition.operator with
  | some comparison => comparison.holds? (vars.get? condition.name) condition.value
  | none => some true

end Condition

end VisualNovel
