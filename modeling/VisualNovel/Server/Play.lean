import VisualNovel.Server.Backend
/-!
Playing over the network.  Every action that is carried out is written to the record of its
playthrough before it is answered, and one that is refused leaves no trace.
-/

namespace VisualNovel

open Schema

namespace Backend

/-- Ends the work with a refusal. -/
def refuse {α : Type} (status : Nat) (detail : String) : Serving α := throw (.refused status detail)

/-- Ends the work because of a fault: what the player has entered is unprocessable, and what does
not apply is in conflict with the playthrough. -/
def giveUp {α : Type} : Fault → Serving α
  | .rejected why => refuse 422 why.message
  | .nodeNotFound sceneId nodeId =>
    refuse 409 ("Cannot continue: " ++ (Fault.nodeNotFound sceneId nodeId).message)
  | fault => if fault.isRefusal then refuse 409 fault.message else fail (.fault fault)

/-- Goes on with an outcome that a fault may have prevented. -/
def settle {α : Type} : Except Fault α → Serving α
  | .ok value => pure value
  | .error fault => giveUp fault

/-- Carries out an action on the playthrough of a number. -/
def perform {α : Type} (number : Nat) (action : Engine → Turn α) : Serving α := do
  let turn := action (← engineOf number)
  replace number turn.engine
  settle turn.outcome

def storyNotFound : String := "Story not found"

def notStarted : String := "No playthrough — start one first"

/-- The current playthrough of a story that exists. -/
def current (slug : String) : Serving Nat := do
  match ← look fun storage => storage.story slug with
  | .null => refuse 404 storyNotFound
  | _ =>
    match ← getEngine slug with
    | some number => return number
    | none => refuse 404 notStarted

/-- What a player is shown after an action. -/
def shown (engine : Engine) (view : View) : List (String × Json) :=
  [("view", view.toJson false), ("effects", engine.effects.toJson), ("state", engine.snapshot)]

/-- Writes a playthrough to its record and shows it. -/
def present (slug : String) (number : Nat) : Serving (List (String × Json)) := do
  persist slug number
  let engine ← engineOf number
  return shown engine (← settle engine.view)

def presented (slug : String) (number : Nat) : Serving Json := .obj <$> present slug number

/-- Carries out an action on the current playthrough of a story and shows it. -/
def act (slug : String) (action : Engine → Turn Unit) : Serving Json := do
  let number ← current slug
  perform number action
  presented slug number

/-- Begins a playthrough. -/
def play (slug : String) : Serving Json := do
  match ← newEngine slug with
  | none => refuse 404 storyNotFound
  | some number => presented slug number

/-- Shows the current playthrough. -/
def watch (slug : String) : Serving Json := do presented slug (← current slug)

/-- Shows or hides the feedback screen. -/
def showFeedback (slug : String) (visible : Bool) : Serving Json :=
  act slug fun engine => (engine.showFeedback visible).done

/-- The summary of what has been graded. -/
def feedback (slug : String) : Serving Json := do
  let engine ← engineOf (← current slug)
  return (FeedbackSummary.ofEntries engine.state.feedback).toJson .authored

/-- Puts the state of the current playthrough into the save slot. -/
def save (slug : String) : Serving Json := do
  let engine ← engineOf (← current slug)
  keep fun storage => do
    return ((), ← storage.saveSnapshot (Storage.snapshotOf slug engine.snapshot))
  return .obj [("ok", .bool true), ("saved_at", Storage.someTime)]

/-- The engine of a number, intact or not. -/
def anyEngine (number : Nat) : Serving Engine := do
  match (← get).live[number]? with
  | some live => return live.engine
  | none => fail .wrongShape

/-- Puts something that is no state in the place of a state. -/
def spoil (number : Nat) : Serving Unit := do
  let engine ← anyEngine number
  modify fun backend =>
    { backend with live := backend.live.set number ⟨engine.cancelGrading, false⟩ }

/-- The current playthrough of a story, or else a new one. -/
def currentOrNew (slug : String) : Serving Nat := do
  match ← getEngine slug with
  | some number => return number
  | none =>
    match ← newEngine slug with
    | some number => return number
    | none => refuse 404 storyNotFound

/-- Loads what a save slot holds of a state. -/
def loadState (number : Nat) (state : Json) : Serving Unit :=
  match state with
  | .obj fields => do
    match (← anyEngine number).loadDocument (.obj fields) with
    | (.valid (), engine) => replace number engine
    | (.invalid _ _, _) => refuse 422 "Save data is corrupt"
  | _ => do
    spoil number
    fail .wrongShape

/-- Replaces the current playthrough by what is in the save slot, if it belongs to the story. -/
def load (slug : String) : Serving Json := do
  match ← look Storage.snapshot with
  | .null => refuse 404 "No save data found"
  | snapshot =>
    let fields ← demand (Json.demandFields snapshot)
    let owner := (Json.lookup? "story" fields).getD .null
    match owner with
    | .str story =>
      if story = slug then pure ()
      else refuse 409 ("The save slot belongs to story " ++ Text.quoted story)
    | owner => refuse 409 ("The save slot belongs to story " ++ String.ofList owner.listed)
    let number ← currentOrNew slug
    let state := (Json.lookup? "state" fields).getD .null
    loadState number (if state.truthy then state else .obj [])
    presented slug number

/-- Begins again, and empties the save slot. -/
def restart (slug : String) : Serving Json := do
  let number ← current slug
  let turn := (← anyEngine number).restart
  replace number turn.engine
  settle turn.outcome
  let _ ← keep fun storage => storage.deleteSnapshot
  presented slug number

/-! Responses and recommendations, which wait for a language model -/

/-- A response that is being graded. -/
structure InFlight where
  number : Nat
  ticket : Ticket
  grading : Grading
  connection : Connection

/-- Opens a response in the current playthrough of a story. -/
def openResponse (slug value : String) : Serving InFlight := do
  let number ← current slug
  let config ← look Storage.config
  let setup ← demand (config.gradingSetup (← get).environmentKey)
  let (ticket, grading) ← perform number fun engine => engine.openResponse setup.grader value
  return ⟨number, ticket, grading, setup.connection⟩

/-- Ends the work because a response has no result. -/
def giveUpResponse {α : Type} : ResponseFault → Serving α
  | .refused fault => giveUp fault
  | .ungraded (.rejected why) => refuse 422 why.message
  | .ungraded (.unconfigured why) => refuse 503 why
  | .ungraded why => fail (.grading why)

/-- Closes a response, in the playthrough that it was opened in. -/
def closeResponse (slug : String) (inFlight : InFlight)
    (outcome : Except GradingFailure GradingResult) : Serving Json := do
  let backend ← get
  let intact := ((backend.live[inFlight.number]?).map (·.intact)).getD false
  if intact then
    let (outcome, engine) := (← engineOf inFlight.number).closeResponse inFlight.ticket outcome
    replace inFlight.number engine
    match outcome with
    | .error fault => giveUpResponse fault
    | .ok result =>
      let fields ← present slug inFlight.number
      return .obj (fields ++ [("grading", result.toJson .authored)])
  else
    match outcome with
    | .error fault => giveUpResponse (.ungraded fault)
    | .ok _ => fail .wrongShape

/-- The finished game of a playthrough, with the connection to ask for recommendations. -/
def finishedGame (slug : String) : Serving (FinishedGame × Connection) := do
  let number ← current slug
  let config ← look Storage.config
  let connection ← demand (config.connectionTo (← get).environmentKey)
  let engine ← engineOf number
  let state := engine.state
  let score := (state.vars.number? engine.story.settings.scoreVariable).getD (.int 0)
  return (
    { entries := state.feedback
      playerName := (nonempty? (some state.userName)).getD "Player"
      finalScore := some (.number score)
      title := engine.story.title }, connection)

/-- What comes of asking for recommendations on a finished game. -/
def concludeGame (outcome : Except RecommendationsFailure Recommendations) : Serving Json :=
  match outcome with
  | .ok recommendations => return recommendations.toJson .authored
  | .error (.unconfigured why) => refuse 503 why
  | .error why => fail (.recommendations why)

end Backend

end VisualNovel
