import VisualNovel.Server.Play
/-!
Tools with which a program can play a story.  They use the same playthroughs as the network does;
responses that are graded are not among them.
-/

namespace VisualNovel

/-- A tool together with what it is given. -/
inductive Tool where
  | startStory (slug playerName : String)
  | viewNode (slug : String)
  | advance (slug : String)
  | choose (slug choiceId : String)
  | submitText (slug value : String)
  deriving DecidableEq

namespace Backend

/-- What a tool says when it cannot do its work. -/
def complaint (text : String) : Json := .obj [("error", .str text)]

/-- Complains of a refusal; any other fault ends the work. -/
def complainOf (fault : Fault) : Serving Json :=
  if fault.isRefusal then return complaint fault.message else fail (.fault fault)

/-- Carries out an action, and shows the player's view without the fields that hold nothing.  Only
what can be shown is written to the record. -/
def useTool (slug : String) (action : Engine → Turn Unit) : Serving Json := do
  match ← getEngine slug with
  | none => fail (.noPlaythrough slug)
  | some number =>
    let turn := action (← engineOf number)
    replace number turn.engine
    match turn.outcome with
    | .error fault => complainOf fault
    | .ok _ =>
      match turn.engine.view with
      | .error fault => complainOf fault
      | .ok view =>
        persist slug number
        return view.toJson true

/-- Starts the game, unless the story does without a name. -/
def startUnlessStarted (playerName : String) (engine : Engine) : Turn Unit :=
  if engine.state.gameStarted then engine.done else engine.start playerName

/-- What comes of using a tool. -/
def use : Tool → Serving Json
  | .startStory slug playerName => do
    match ← newEngine slug with
    | none => return complaint ("Story " ++ Text.quoted slug ++ " not found")
    | some _ => useTool slug (startUnlessStarted playerName)
  | .viewNode slug => useTool slug Engine.done
  | .advance slug => useTool slug Engine.advance
  | .choose slug choiceId => useTool slug fun engine => engine.choose choiceId
  | .submitText slug value => useTool slug fun engine => engine.submit value

end Backend

end VisualNovel
