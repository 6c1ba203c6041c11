import VisualNovel.Audio.Playback
import VisualNovel.Playthrough.Navigation
import VisualNovel.Playthrough.TextRule
import VisualNovel.Story.Interpolation
/-!
The steps of a playthrough as functions from state to state.  Each computes the whole next state
before anything is replaced, so a step that is turned down has changed nothing.
-/

namespace VisualNovel

/-- What changes on the screen and on the speakers when a node is entered. -/
structure EntryEffects where
  background : Option String
  backgroundChanged : Bool
  transition : Option Transition
  audio : List AudioCommand
  gameEnded : Bool
  deriving DecidableEq

/-- The effects of entering nothing, on top of a background. -/
def EntryEffects.still (background : Option String) : EntryEffects :=
  ⟨background, false, none, [], false⟩

def EntryEffects.toJson (e : EntryEffects) : Json :=
  .obj [("background", .ofText? e.background), ("background_changed", .bool e.backgroundChanged),
    ("transition", .ofText? (e.transition.map (·.word))),
    ("audio", .arr (e.audio.map AudioCommand.toJson)), ("game_ended", .bool e.gameEnded)]

/-- Only dialogue, narration and endings are acknowledged. -/
def NodeKind.isAcknowledged : NodeKind → Bool
  | .dialogue | .narration | .ending => true
  | _ => false

namespace Story

/-- The state in which a story begins. -/
def newGame (story : Story) : GameState where
  currentSceneId := story.startSceneId
  currentNodeId := ((story.scene? story.startSceneId).map (·.startNodeId)).getD ""
  vars := story.vars
  history := []
  userName := story.settings.defaultPlayerName
  gameStarted := !story.settings.askForName
  feedback := []
  showFeedbackScreen := false

/-- The node at the current position. -/
def currentNode (story : Story) (state : GameState) : Except Fault Node :=
  match story.node? state.currentSceneId state.currentNodeId with
  | some node => .ok node
  | none => .error (.nodeNotFound state.currentSceneId state.currentNodeId)

/-- Refuses what is done before the game has started. -/
def requireStarted (state : GameState) : Except Fault Unit :=
  if state.gameStarted then .ok () else .error (.inapplicable .notStarted)

/-- The current node of a game that has started. -/
def activeNode (story : Story) (state : GameState) : Except Fault Node := do
  requireStarted state
  story.currentNode state

/-- Starts the game under a name. -/
def startGame (story : Story) (state : GameState) (name : String) : Except Fault GameState := do
  let settings := story.settings
  let trimmed ← (TextRule.lengths settings.nameMinLength settings.nameMaxLength).check name
  return { state with userName := trimmed, gameStarted := true }

/-- The background of a node: the one it names if the story knows it, and else the previous one. -/
def resolveBackground (story : Story) (node : Node) (previous : Option String) : Option String :=
  match (nonempty? node.background).bind story.background? with
  | some background => some background.src
  | none => previous

/-- Whether a choice is offered: it has no condition, or its condition holds. -/
def isOffered (vars : Variables) (choice : Choice) : Except Fault Bool :=
  match choice.condition with
  | none => .ok true
  | some condition => (condition.holds? vars).elim (.error .overflow) .ok

/-- The choices that are offered, in their order. -/
def availableChoices (vars : Variables) : List Choice → Except Fault (List Choice)
  | [] => .ok []
  | choice :: rest => do
    let offered ← isOffered vars choice
    let others ← availableChoices vars rest
    return if offered then choice :: others else others

/-- Changes variables, a sum beyond the range being a fault. -/
def mutate (vars : Variables) (set : Option Variables) (add : Option Increments) :
    Except Fault Variables :=
  (vars.mutate set add).elim (.error .overflow) .ok

/-- What a node does to the variables of whoever enters it. -/
def applyEntry (node : Node) (state : GameState) : Except Fault GameState := do
  let vars ← mutate state.vars node.setVariables node.addVariables
  return { state with vars }

/-- The effects of entering a node, given the background and playback found there; the playback
afterwards comes first. -/
def entryEffects (story : Story) (node : Node) (playback : Playback) (background : Option String) :
    Playback × EntryEffects :=
  let newBackground := story.resolveBackground node background
  let (playback, command) := playback.play node.audio
  (playback,
    { background := newBackground
      backgroundChanged := newBackground != background
      transition := node.transition
      audio := command.toList
      gameEnded := node.body.kind == .ending })

/-- Acknowledges a node that asks for nothing; an ending stays where it is. -/
def acknowledge (story : Story) (state : GameState) : Except Fault GameState := do
  let node ← story.activeNode state
  match node.body with
  | .dialogue | .narration => return state.navigate node.nextNodeId none id
  | .ending => return state
  | body => throw (.inapplicable (.notAcknowledged body.kind))

/-- Takes the first available choice with an id. -/
def selectChoice (story : Story) (state : GameState) (choiceId : String) :
    Except Fault GameState := do
  let node ← story.activeNode state
  match node.body with
  | .choice choices =>
    let available ← availableChoices state.vars choices
    match available.find? fun choice => choice.id == choiceId with
    | some choice =>
      let vars ← mutate state.vars choice.setVariables choice.addVariables
      return state.navigate (some choice.nextNodeId) (some choice.id) fun state =>
        { state with vars }
    | none => throw (.inapplicable (.choiceUnavailable choiceId))
  | body => throw (.inapplicable (.noChoices body.kind))

/-- Enters a text into a variable. -/
def submitInput (story : Story) (state : GameState) (value : String) : Except Fault GameState := do
  let node ← story.activeNode state
  match node.body with
  | .input config =>
    let trimmed ← (TextRule.ofInput config).check value
    let vars := state.vars.insert config.variableName (.text trimmed)
    return state.navigate node.nextNodeId none fun state => { state with vars }
  | body => throw (.inapplicable (.noTextInput body.kind))

/-- The current node's rules for a graded response. -/
def gradedConfig (node : Node) : Except Fault GradedConfig :=
  match node.body with
  | .graded config => .ok config
  | body => .error (.inapplicable (.notGraded body.kind))

/-- Checks a response before it is graded. -/
def validateResponse (story : Story) (state : GameState) (value : String) :
    Except Fault (Node × GradedConfig × String) := do
  let node ← story.activeNode state
  let config ← gradedConfig node
  let trimmed ← (TextRule.lengths config.minLength config.maxLength).check value
  return (node, config, trimmed)

/-- The variables after a response has been graded: four texts, and the points for the rating. -/
def gradedVariables (config : GradedConfig) (vars : Variables) (userInput : String)
    (result : GradingResult) : Except Fault Variables :=
  let told : Variables := vars.insertAll
    [(config.userInputVariable, .text userInput),
     (config.characterResponseVariable, .text result.characterResponse),
     (config.emotionVariable, .text result.emotion),
     (config.evaluationVariable, .text result.evaluation)]
  match config.ratingConfig with
  | none => .ok told
  | some rating =>
    let points := rating.pointsFor result.rating
    (told.addTo rating.variableToModify points).elim (.error .overflow) .ok

/-- What is said of an interaction whose node has no text. -/
def unnamedInteraction : String := "Interaction"

/-- The text of a node as the player sees it. -/
def nodeText (node : Node) (state : GameState) : Option String :=
  node.text.map fun text => Interpolation.interpolate text state.vars (some state.userName)

/-- Takes a grading result into the state in a single step. -/
def applyGrading (story : Story) (state : GameState) (userInput : String)
    (result : GradingResult) : Except Fault GameState := do
  let node ← story.currentNode state
  let config ← gradedConfig node
  let vars ← gradedVariables config state.vars userInput result
  let entry : FeedbackEntry :=
    { nodeId := node.id, sceneId := state.currentSceneId, userInput
      evaluation := result.evaluation, rating := result.rating
      context := (nonempty? (nodeText node state)).getD unnamedInteraction }
  return state.navigate node.nextNodeId none fun state =>
    { state with vars, feedback := state.feedback ++ [entry] }

end Story

end VisualNovel
