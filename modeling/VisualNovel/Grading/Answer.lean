import VisualNovel.Json.Reader
import VisualNovel.Playthrough.State
import VisualNovel.Text.CodeFence
/-!
The answer that a model gives when it is asked to grade a response: an object, with or without a
fence around it, that holds three texts and a rating.
-/

namespace VisualNovel

structure GradedAnswer where
  characterResponse : String
  emotion : String
  evaluation : String
  rating : Rating
  deriving DecidableEq

/-- What is wrong with an answer. -/
inductive AnswerFlaw where
  | notJson (error : Json.ReadError)
  | notObject (kind : String)
  | noText (key : String)
  | noRating
  deriving DecidableEq

def AnswerFlaw.message : AnswerFlaw → String
  | notJson error => "Invalid JSON: " ++ error.message
  | notObject kind => "Expected a JSON object, got " ++ kind
  | noText key => "Missing or invalid " ++ key
  | noRating => "Invalid rating - must be good, neutral, or bad"

/-- The limit on what can be read that an answer has met, if it has.  That is not the model's fault,
so no other attempt is asked for. -/
def AnswerFlaw.limit? : AnswerFlaw → Option Json.ReadError
  | notJson error => if error.cause.isGrammatical then none else some error
  | _ => none

namespace GradedAnswer

/-- A text that is not empty. -/
def textAt (key : String) (answer : List (String × Json)) : Except AnswerFlaw String :=
  match Json.lookup? key answer with
  | some (.str text) => if text = "" then .error (.noText key) else .ok text
  | _ => .error (.noText key)

def ratingAt (key : String) (answer : List (String × Json)) : Except AnswerFlaw Rating :=
  match Json.lookup? key answer with
  | some (.str word) => (Rating.ofWord? word).elim (.error .noRating) .ok
  | _ => .error .noRating

/-- The answer in a document. -/
def ofJson : Json → Except AnswerFlaw GradedAnswer
  | .obj answer => do
    let characterResponse ← textAt "characterResponse" answer
    let emotion ← textAt "emotion" answer
    let evaluation ← textAt "evaluation" answer
    let rating ← ratingAt "rating" answer
    return { characterResponse, emotion, evaluation, rating }
  | document => .error (.notObject document.kindName)

/-- The answer in a text. -/
def read (text : String) : Except AnswerFlaw GradedAnswer :=
  match Json.read (Text.unfenced text) with
  | .ok document => ofJson document
  | .error error => .error (.notJson error)

def toJson (answer : GradedAnswer) : Json :=
  .obj [("characterResponse", .str answer.characterResponse), ("emotion", .str answer.emotion),
    ("evaluation", .str answer.evaluation), ("rating", .str answer.rating.word)]

end GradedAnswer

end VisualNovel
