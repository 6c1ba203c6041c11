import VisualNovel.Json.Reader
import VisualNovel.Schema.Key
import VisualNovel.Schema.Scalar
import VisualNovel.Schema.Style
import VisualNovel.Text.CodeFence
/-!
Recommendations at the end of a game.  A field that an answer leaves out, or gives an empty value,
has a standard value of its own.
-/

namespace VisualNovel

open Schema

structure Recommendations where
  overallAssessment : String
  strengths : List String
  areasForImprovement : List String
  tips : List String
  encouragement : String
  deriving DecidableEq

/-- Why an answer holds no recommendations. -/
inductive RecommendationsFlaw where
  | notJson (error : Json.ReadError)
  | notObject (kind : String)
  | invalid (first : Issue) (more : List Issue)
  deriving DecidableEq

def RecommendationsFlaw.message : RecommendationsFlaw → String
  | notJson error => error.message
  | notObject kind => "Expected a JSON object, got " ++ kind
  | invalid first _ => first.problem.text

/-- Whether an answer goes deeper than can be read. -/
def RecommendationsFlaw.isTooDeep : RecommendationsFlaw → Bool
  | notJson error => error.cause = .tooDeep
  | _ => false

namespace Recommendations

def ofJson : Expects Recommendations := model fun o =>
  Recommendations.mk <$> field o .overallAssessment textual
    <*> field o .strengths (list textual)
    <*> field o .areasForImprovement (list textual)
    <*> field o .tips (list textual)
    <*> field o .encouragement textual

def toJson (style : Style) (r : Recommendations) : Json := style.object
  [(.overallAssessment, .str r.overallAssessment), (.strengths, .arr (r.strengths.map .str)),
   (.areasForImprovement, .arr (r.areasForImprovement.map .str)), (.tips, .arr (r.tips.map .str)),
   (.encouragement, .str r.encouragement)]

/-- What stands in for the fields of an answer. -/
def standard : Recommendations where
  overallAssessment := "Good effort throughout the game!"
  strengths := ["You engaged with every conversation"]
  areasForImprovement := ["Keep practicing!"]
  tips := ["Be patient when communicating"]
  encouragement := "Great job completing the game!"

/-- What stands in for a whole answer. -/
def fallback : Recommendations where
  overallAssessment :=
    "You completed the game! Thank you for playing and reflecting on each conversation."
  strengths := ["You completed all the interactions", "You showed interest in learning"]
  areasForImprovement := ["Keep practicing thoughtful, inclusive communication"]
  tips := ["Face the person you are speaking with",
    "Choose quiet environments for important conversations",
    "Be patient and willing to repeat or rephrase",
    "Ask how the other person prefers to communicate"]
  encouragement :=
    "Every interaction is a chance to learn and grow. Keep being curious and kind!"

/-- The value that an answer gives a field, or the standard one in place of nothing. -/
def given (answer : List (String × Json)) (key : String) (standard : Json) : String × Json :=
  (key, match Json.lookup? key answer with
    | some value => if value.truthy then value else standard
    | none => standard)

/-- The fields of an answer with the standard values filled in. -/
def filledIn (answer : List (String × Json)) : Json :=
  .obj [given answer "overallAssessment" (.str standard.overallAssessment),
    given answer "strengths" (.arr (standard.strengths.map .str)),
    given answer "areasForImprovement" (.arr (standard.areasForImprovement.map .str)),
    given answer "tips" (.arr (standard.tips.map .str)),
    given answer "encouragement" (.str standard.encouragement)]

/-- The recommendations in a text. -/
def read (text : String) : Except RecommendationsFlaw Recommendations :=
  match Json.read (Text.unfenced text) with
  | .error error => .error (.notJson error)
  | .ok (.obj answer) =>
    match ofJson (filledIn answer) with
    | .valid recommendations => .ok recommendations
    | .invalid first more => .error (.invalid first more)
  | .ok document => .error (.notObject document.kindName)

end Recommendations

end VisualNovel
