import VisualNovel.Grading.Grader
import VisualNovel.Playthrough.Engine
/-!
Responding to a node that grades.  A response is opened by a ticket and a grading, and closed when
the grading is done; what the player does in between is done to the same engine.
-/

namespace VisualNovel

/-- Why a response has no result. -/
inductive ResponseFault where
  | refused (why : Fault)
  | ungraded (why : GradingFailure)
  deriving DecidableEq

namespace Engine

/-- The situation that a response is graded in. -/
def gradingContext (state : GameState) (config : GradedConfig) : String :=
  Interpolation.interpolate config.context state.vars (some state.userName)

/-- Hands out a ticket, together with the grading of the response.  What has been taken in is checked
once more for the node that asks.  If the situation cannot be written out there is no grading, but
the ticket has been handed out. -/
def openResponse (engine : Engine) (grader : Grader) (value : String) : Turn (Ticket × Grading) :=
  let turn := engine.beginGrading value
  match turn.outcome with
  | .error fault => turn.engine.refuse fault
  | .ok ticket =>
    let state := turn.engine.state
    match turn.engine.story.validateResponse state ticket.userInput with
    | .error fault => turn.engine.refuse fault
    | .ok (_, config, _) =>
      if Interpolation.isWritable config.context state.vars then
        let grading :=
          grader.grade ticket.userInput (gradingContext state config) config.allowedEmotions
        ⟨.ok (ticket, grading), turn.engine⟩
      else turn.engine.refuse .unwritable

/-- Takes in what a grading has come to.  Without a result the ticket is given back. -/
def closeResponse (engine : Engine) (ticket : Ticket)
    (outcome : Except GradingFailure GradingResult) :
    Except ResponseFault GradingResult × Engine :=
  match outcome with
  | .error why => (.error (.ungraded why), engine.withdraw ticket)
  | .ok result =>
    let turn := engine.finishGrading ticket result
    ((turn.outcome.map fun _ => result).mapError .refused, turn.engine)

/-- A whole response.  The model may act on the engine while it is asked. -/
def respond {Model : Type} (engine : Engine) (grader : Grader) (value : String)
    (reply : String → Engine × Model → Reply × (Engine × Model)) (model : Model) :
    Except ResponseFault GradingResult × Engine × Model :=
  let opened := engine.openResponse grader value
  match opened.outcome with
  | .error why => (.error (.refused why), opened.engine, model)
  | .ok (ticket, grading) =>
    let (outcome, engine, model) := grading.run reply (opened.engine, model)
    let (outcome, engine) := engine.closeResponse ticket outcome
    (outcome, engine, model)

end Engine

end VisualNovel
