import VisualNovel.Calls.Prompt
import VisualNovel.Mishap
/-!
Grading by documents.  The number of attempts has to be comparable with one, and a whole number by
the time when attempts are made; a time limit is not looked at before then.
-/

namespace VisualNovel

open Schema

namespace Grader

/-- At least one attempt. -/
def atLeastOne : Json → Except Mishap Number
  | .int most => .ok (.int (max 1 most))
  | .bool _ => .ok (.int 1)
  | .float most => .ok (if Binary64.unit.lt most then .float most else .int 1)
  | _ => .error .wrongKind

/-- A grader with a number of attempts, which cannot be counted unless it is an integer. -/
def counting (most : Number) (limit : Json) : Grader where
  maxAttempts := match most with
    | .int most => some most
    | .float _ => none
  limit := .ofJson limit

/-- A grader with the settings that are given. -/
def ofDocuments (maxAttempts limit : Option Json) : Except Mishap Grader := do
  let most ← atLeastOne (maxAttempts.getD (.int standardAttempts))
  return { counting most .null with limit := (limit.map TimeLimit.ofJson).getD standard.limit }

/-- The text of a response; a response that is none has no place in a result. -/
def responseText : Json → Except Mishap String
  | .str userInput => .ok userInput
  | _ => .error (.invalid ⟨.notText, [.key "user_input"]⟩ [])

/-- Grades a response in a situation. -/
def gradeDocument (grader : Grader) (userInput context allowedEmotions : Json) :
    Except Mishap Grading :=
  if !userInput.truthy then .ok (.done (.error (.rejected .missing)))
  else do
    let prompt ← Prompt.gradingOf userInput context allowedEmotions
    return grader.gradeBy (match userInput with
      | .str userInput => userInput
      | _ => "") prompt

/-- What a grading of a response has come to. -/
def settle (userInput : Json) (outcome : Except GradingFailure GradingResult) :
    Except Mishap GradingResult := do
  let result ← outcome.mapError .grading
  let _ ← responseText userInput
  return result

/-- The result when every attempt has failed. -/
def fallbackOf (userInput attempts raw : Json) : Except Mishap GradingResult :=
  (GradingResult.ofJson (.obj
    [("character_response", .str fallbackResponse), ("emotion", .str "neutral"),
     ("evaluation", .str fallbackEvaluation), ("rating", .str Rating.neutral.word),
     ("attempts", attempts), ("user_input", userInput), ("raw", raw),
     ("error", .str fallbackError)])).orMishap

end Grader

end VisualNovel
