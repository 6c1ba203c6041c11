import VisualNovel.Grading.Answer
import VisualNovel.LanguageModel.Reply
import VisualNovel.Number.Number
import VisualNovel.Playthrough.Fault
import VisualNovel.Prompt.Grading
/-!
Grading a response with the help of a language model.  A grading either is done or waits for the
reply to a prompt; what it does next depends on that reply and on nothing else.  After the last
attempt that fails there is a neutral result, so no playthrough comes to a dead end.
-/

namespace VisualNovel

/-- How long an attempt may take. -/
inductive TimeLimit where
  | unlimited
  | seconds (amount : Number)
  /-- a truth value, which counts as one second or as none -/
  | switch (isOn : Bool)
  /-- something that cannot be compared with a time -/
  | unusable
  deriving DecidableEq

namespace TimeLimit

/-- Whether an attempt has run out of time before it begins. -/
def hasPassed : TimeLimit → Bool
  | seconds (.int amount) => amount ≤ 0
  | seconds (.float amount) => amount.le .zero
  | switch isOn => !isOn
  | _ => false

/-- Whether a limit is an integer too large to be added to a time. -/
def isBeyond : TimeLimit → Bool
  | seconds (.int amount) => (Binary64.ofInt? amount).isNone
  | _ => false

/-- A limit as it stands in a message. -/
def text : TimeLimit → String
  | seconds (.int amount) => toString amount
  | seconds (.float amount) => amount.text
  | switch isOn => if isOn then "True" else "False"
  | unlimited => "None"
  | unusable => ""

def ofJson : Json → TimeLimit
  | .null => unlimited
  | .int amount => seconds (.int amount)
  | .float amount => seconds (.float amount)
  | .bool isOn => switch isOn
  | _ => unusable

/-- What is said of an attempt that took too long. -/
def message (limit : TimeLimit) : String := "Timed out after " ++ limit.text ++ "s"

end TimeLimit

/-- Why a grading has no result. -/
inductive GradingFailure where
  | rejected (why : TextRejection)
  | unconfigured (why : String)
  /-- an answer that is no text -/
  | notText
  /-- a setting that is no number where one is needed -/
  | badSetting
  /-- a time limit that no time can reach -/
  | limitOutOfRange
  /-- an answer that is beyond what can be read -/
  | unreadable (error : Json.ReadError)
  | broken (breakdown : Breakdown)
  deriving DecidableEq

/-- The state of a grading. -/
inductive Grading where
  | done (outcome : Except GradingFailure GradingResult)
  | ask (prompt : String) (next : Reply → Grading)

namespace Grading

/-- Answers the prompts of a grading by way of a model that has a state of its own. -/
def run {Model : Type} (reply : String → Model → Reply × Model) :
    Grading → Model → Except GradingFailure GradingResult × Model
  | done outcome, model => (outcome, model)
  | ask prompt next, model =>
    let answered := reply prompt model
    (next answered.1).run reply answered.2

end Grading

/-- What attempts are allowed; a number of attempts that cannot be counted is nothing. -/
structure Grader where
  maxAttempts : Option Int
  limit : TimeLimit
  deriving DecidableEq

namespace Grader

def standardAttempts : Int := 3

def standard : Grader := ⟨some standardAttempts, .seconds (.float (.ofDecimal false 30 0))⟩

/-- At least one attempt is made. -/
def attempts (most : Int) : Nat := (max 1 most).toNat

def fallbackResponse : String := "I'm not sure how to respond to that..."

def fallbackEvaluation : String := "Unable to evaluate the response"

def fallbackError : String := "Failed to get valid JSON after multiple attempts"

/-- The result when every attempt has failed. -/
def fallback (userInput : String) (attempts : Int) (raw : String) : GradingResult where
  characterResponse := fallbackResponse
  emotion := "neutral"
  evaluation := fallbackEvaluation
  rating := .neutral
  attempts
  userInput
  raw
  error := some fallbackError

/-- The result of an attempt that was answered well. -/
def resultOf (answer : GradedAnswer) (attempt : Nat) (userInput raw : String) : GradingResult where
  characterResponse := answer.characterResponse
  emotion := answer.emotion
  evaluation := answer.evaluation
  rating := answer.rating
  attempts := attempt
  userInput
  raw
  error := none

/-- What does not change from attempt to attempt. -/
structure Question where
  userInput : String
  prompt : String
  limit : TimeLimit
  /-- how many attempts there are in all -/
  attempts : Nat

/-- What an attempt knows of those before it: the last answer, and the last error. -/
structure Evidence where
  raw : String
  error : String

/-- The prompt of an attempt: the first one again while there is no answer to point at. -/
def Question.promptAfter (question : Question) (evidence : Evidence) : String :=
  if evidence.raw = "" then question.prompt
  else Prompt.retry question.prompt evidence.raw evidence.error

/-- The attempts that remain. -/
def attempt (question : Question) : Nat → Evidence → Grading
  | 0, evidence => .done (.ok (fallback question.userInput question.attempts evidence.raw))
  | remaining + 1, evidence =>
    let timedOut : Evidence := { evidence with error := question.limit.message }
    if question.limit = .unusable then .done (.error .badSetting)
    else if question.limit.hasPassed then attempt question remaining timedOut
    else if question.limit.isBeyond then .done (.error .limitOutOfRange)
    else .ask (question.promptAfter evidence) fun
      | .failed why => attempt question remaining { evidence with error := why }
      | .timedOut => attempt question remaining timedOut
      | .unconfigured why => .done (.error (.unconfigured why))
      | .broken breakdown => .done (.error (.broken breakdown))
      | .document _ => .done (.error .notText)
      | .text raw =>
        match GradedAnswer.read raw with
        | .ok answer =>
          .done (.ok (resultOf answer (question.attempts - remaining) question.userInput raw))
        | .error flaw =>
          match flaw.limit? with
          | some error => .done (.error (.unreadable error))
          | none => attempt question remaining ⟨raw, flaw.message⟩

/-- Makes the attempts at a prompt, if they can be counted. -/
def gradeBy (grader : Grader) (userInput prompt : String) : Grading :=
  match grader.maxAttempts with
  | none => .done (.error .badSetting)
  | some most =>
    let question : Question :=
      { userInput, prompt, limit := grader.limit, attempts := attempts most }
    attempt question question.attempts ⟨"", ""⟩

/-- Grades a response in a situation. -/
def grade (grader : Grader) (userInput context : String) (allowedEmotions : List String) :
    Grading :=
  if userInput = "" then .done (.error (.rejected .missing))
  else grader.gradeBy userInput (Prompt.grading userInput context allowedEmotions)

end Grader

end VisualNovel
