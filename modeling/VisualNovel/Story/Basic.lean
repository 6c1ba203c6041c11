import VisualNovel.Story.Condition
/-!
The story document: a cast, backgrounds, and scenes made of nodes that lead to one another by their
ids.  Nothing here asks whether the ids lead anywhere.
-/

namespace VisualNovel

/-- Where a character stands. -/
inductive Side where
  | left
  | center
  | right
  deriving DecidableEq

/-- How the picture changes when a node is entered. -/
inductive Transition where
  | fade
  | slide
  | cut
  deriving DecidableEq

/-- A speaking character with one sprite per expression. -/
structure Character where
  id : String
  name : String
  displayName : String
  sprites : Named String
  defaultExpression : String
  position : Option Side
  nameColor : Option String
  scale : Option Binary64
  deriving DecidableEq

structure Background where
  id : String
  name : String
  src : String
  deriving DecidableEq

/-- A character as a node shows it; the expression may contain tokens. -/
structure Appearance where
  characterId : String
  position : Side
  expression : Option String
  scale : Option Binary64
  offsetX : Option Binary64
  offsetY : Option Binary64
  deriving DecidableEq

/-- The exclusive background music, or a sound effect. -/
inductive AudioKind where
  | bgm
  | sfx
  deriving DecidableEq

structure AudioDirective where
  kind : AudioKind
  src : String
  loop : Option Bool
  deriving DecidableEq

structure Choice where
  id : String
  text : String
  nextNodeId : String
  condition : Option Condition
  setVariables : Option Variables
  addVariables : Option Increments
  deriving DecidableEq

/-- What a text field asks for. -/
inductive InputKind where
  | text
  | number
  | email
  deriving DecidableEq

structure InputConfig where
  variableName : String
  placeholder : String
  minLength : Int
  maxLength : Int
  inputKind : InputKind
  validation : Option String
  validationMessage : String
  deriving DecidableEq

/-- The three grades of a response. -/
inductive Rating where
  | good
  | neutral
  | bad
  deriving DecidableEq

/-- What each rating adds to a variable. -/
structure RatingConfig where
  variableToModify : String
  goodPoints : Number
  neutralPoints : Number
  badPoints : Number
  deriving DecidableEq

/-- The emotions that a character may answer with when the story names none. -/
def defaultEmotions : List String := ["happy", "sad", "angry", "neutral"]

/-- What becomes of a graded response: the four variables that receive it, and its points. -/
structure GradedConfig where
  userInputVariable : String
  characterResponseVariable : String
  emotionVariable : String
  evaluationVariable : String
  allowedEmotions : List String
  context : String
  placeholder : String
  minLength : Int
  maxLength : Int
  ratingConfig : Option RatingConfig
  deriving DecidableEq

/-- The kinds of nodes. -/
inductive NodeKind where
  | dialogue
  | narration
  | ending
  | choice
  | input
  | graded
  deriving DecidableEq

/-- What a node asks of the player. -/
inductive NodeBody where
  | dialogue
  | narration
  | ending
  | choice (choices : List Choice)
  | input (config : InputConfig)
  | graded (config : GradedConfig)
  deriving DecidableEq

def NodeBody.kind : NodeBody → NodeKind
  | dialogue => .dialogue
  | narration => .narration
  | ending => .ending
  | choice _ => .choice
  | input _ => .input
  | graded _ => .graded

structure Node where
  id : String
  text : Option String
  speakerName : Option String
  characterId : Option String
  expression : Option String
  background : Option String
  visibleCharacters : List Appearance
  audio : Option AudioDirective
  setVariables : Option Variables
  addVariables : Option Increments
  nextNodeId : Option String
  transition : Option Transition
  body : NodeBody
  deriving DecidableEq

structure Scene where
  id : String
  name : String
  startNodeId : String
  nodes : List Node
  deriving DecidableEq

structure Settings where
  askForName : Bool
  nameInputTitle : Option String
  nameInputPrompt : String
  nameInputPlaceholder : String
  nameMinLength : Int
  nameMaxLength : Int
  defaultPlayerName : String
  defaultBgm : Option String
  clickSfx : Option String
  scoreVariable : String
  deriving DecidableEq

def Settings.standard : Settings where
  askForName := true
  nameInputTitle := none
  nameInputPrompt := "Please enter your name:"
  nameInputPlaceholder := "Your name..."
  nameMinLength := 1
  nameMaxLength := 20
  defaultPlayerName := ""
  defaultBgm := none
  clickSfx := none
  scoreVariable := "score"

structure Story where
  title : String
  author : Option String
  version : Option String
  characters : List Character
  backgrounds : List Background
  scenes : List Scene
  startSceneId : String
  vars : Variables
  settings : Settings
  deriving DecidableEq

/-- An optional text that counts as absent when it is empty. -/
def nonempty? : Option String → Option String
  | some text => if text = "" then none else some text
  | none => none

namespace Character

/-- The sprite of an expression, or else of the character's own default expression. -/
def spriteFor (character : Character) (expression : Option String) : Option String :=
  match (nonempty? expression).bind character.sprites.get? with
  | some sprite => some sprite
  | none => character.sprites.get? character.defaultExpression

end Character

/-- The points for a rating. -/
def RatingConfig.pointsFor (config : RatingConfig) : Rating → Number
  | .good => config.goodPoints
  | .neutral => config.neutralPoints
  | .bad => config.badPoints

/-- The first node with an id. -/
def Scene.node? (scene : Scene) (id : String) : Option Node :=
  scene.nodes.find? fun node => node.id == id

namespace Story

/-- The first scene with an id. -/
def scene? (story : Story) (id : String) : Option Scene :=
  story.scenes.find? fun scene => scene.id == id

def node? (story : Story) (sceneId nodeId : String) : Option Node :=
  (story.scene? sceneId).bind fun scene => scene.node? nodeId

def character? (story : Story) (id : String) : Option Character :=
  story.characters.find? fun character => character.id == id

def background? (story : Story) (id : String) : Option Background :=
  story.backgrounds.find? fun background => background.id == id

end Story

end VisualNovel
