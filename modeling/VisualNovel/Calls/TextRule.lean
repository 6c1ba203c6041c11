import VisualNovel.Json.Display
import VisualNovel.Json.Equality
import VisualNovel.Mishap
/-!
Checking a text against a rule that is made of documents.  Bounds need only be numbers, of either
kind, and stand in messages as they were given.
-/

namespace VisualNovel

/-- A rule whose parts have not been checked. -/
structure LooseRule where
  minLength : Json
  maxLength : Json
  pattern : Json
  message : Json
  kind : Json

namespace LooseRule

/-- Whether a length falls short of a bound. -/
def isBelow (length : Nat) : Number → Bool
  | .int bound => length < bound
  | .float bound => ((Binary64.ofInt? length).map (·.lt bound)).getD false

/-- Whether a length goes beyond a bound. -/
def isAbove (length : Nat) : Number → Bool
  | .int bound => bound < length
  | .float bound => ((Binary64.ofInt? length).map bound.lt).getD false

/-- The number that a bound is. -/
def bound (document : Json) : Except Mishap Number :=
  document.number?.elim (.error .wrongKind) .ok

/-- Turns a text down with a message. -/
def reject {α : Type} (message : String) : Except Mishap α :=
  .error (.fault (.rejected (.noMatch message)))

/-- The rest of the rule for a text whose length has been looked at. -/
def typed (rule : LooseRule) (length : Nat) (pattern : Option String) : TextRule where
  minLength := 0
  maxLength := length
  pattern
  message := rule.message.display
  kind := match rule.kind with
    | .str word => (InputKind.ofWord? word).getD .text
    | _ => .text

/-- The text without white space around it, if it satisfies the rule. -/
def check (rule : LooseRule) (value : Json) : Except Mishap String := do
  let .str value := value | throw .wrongShape
  let length := (Text.trimChars value.toList).length
  let least ← bound rule.minLength
  if isBelow length least then
    reject ("Please enter at least " ++ rule.minLength.display ++ " character" ++
      (if isBelow 1 least then "s" else ""))
  else if isAbove length (← bound rule.maxLength) then
    reject ("Please enter " ++ rule.maxLength.display ++ " characters or less")
  else
    let pattern := match rule.pattern with
      | .str pattern => some pattern
      | _ => none
    let trimmed ← ((rule.typed length pattern).check value).mapError .fault
    if pattern.isNone && rule.pattern.truthy then throw .wrongKind else return trimmed

end LooseRule

end VisualNovel
