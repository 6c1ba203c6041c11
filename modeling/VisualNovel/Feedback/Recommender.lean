import VisualNovel.Feedback.Recommendations
import VisualNovel.Feedback.Summary
import VisualNovel.LanguageModel.Reply
import VisualNovel.Prompt.Recommendation
/-!
Asking a language model for recommendations.  It is asked once; an answer that cannot be used, or no
answer, gives recommendations that suit everyone.
-/

namespace VisualNovel

/-- A finished game as recommendations are asked for it. -/
structure FinishedGame where
  entries : List FeedbackEntry
  playerName : String
  finalScore : Option Value
  title : String
  deriving DecidableEq

/-- Why there are no recommendations. -/
inductive RecommendationsFailure where
  | unconfigured (why : String)
  | timedOut
  /-- an answer that is no text -/
  | notText
  /-- an answer with too many lists and objects one inside the other -/
  | tooDeep
  /-- a score with too many digits to be written into the prompt -/
  | unwritable
  | broken (breakdown : Breakdown)
  deriving DecidableEq

namespace FinishedGame

/-- The fields of an object. -/
def fieldsOf : Json → List (String × Json)
  | .obj fields => fields
  | _ => []

/-- The prompt on a game. -/
def prompt (game : FinishedGame) : String :=
  let summary := FeedbackSummary.ofEntries game.entries
  Prompt.recommendations
    { entries := summary.entries.map fun entry => fieldsOf (entry.toJson .plain)
      good := summary.good, neutral := summary.neutral, bad := summary.bad
      playerName := game.playerName, finalScore := game.finalScore, title := game.title }

/-- What a reply to the prompt comes to. -/
def conclude : Reply → Except RecommendationsFailure Recommendations
  | .unconfigured why => .error (.unconfigured why)
  | .failed _ => .ok .fallback
  | .text raw =>
    match Recommendations.read raw with
    | .ok recommendations => .ok recommendations
    | .error flaw => if flaw.isTooDeep then .error .tooDeep else .ok .fallback
  | .timedOut => .error .timedOut
  | .document _ => .error .notText
  | .broken breakdown => .error (.broken breakdown)

/-- Asks a model that has a state of its own for recommendations. -/
def recommend {Model : Type} (reply : String → Model → Reply × Model) (game : FinishedGame)
    (model : Model) : Except RecommendationsFailure Recommendations × Model :=
  if game.finalScore.all Value.isWritable then
    let answered := reply game.prompt model
    (conclude answered.1, answered.2)
  else (.error .unwritable, model)

end FinishedGame

end VisualNovel
