import VisualNovel.Playthrough.Transition
/-!
What the player is shown: the screen that asks for a name before the game has started, and the
current node after that.
-/

namespace VisualNovel

open Schema

/-- A character on the screen; the active one is the character who speaks. -/
structure CharacterView where
  characterId : String
  displayName : String
  expression : String
  sprite : Option String
  position : Side
  scale : Option Binary64
  offsetX : Option Binary64
  offsetY : Option Binary64
  isActive : Bool
  deriving DecidableEq

structure ChoiceView where
  id : String
  text : String
  deriving DecidableEq

/-- A field to write in; one for a graded response shows whether a response is being graded. -/
structure InputView where
  graded : Bool
  placeholder : String
  minLength : Int
  maxLength : Int
  inputKind : InputKind
  pending : Bool
  deriving DecidableEq

structure NameEntryView where
  title : String
  prompt : String
  placeholder : String
  minLength : Int
  maxLength : Int
  deriving DecidableEq

/-- What is shown of a node. -/
structure NodeView where
  kind : NodeKind
  text : Option String
  speaker : Option String
  nameColor : Option String
  background : Option String
  transition : Option Transition
  characters : List CharacterView
  choices : List ChoiceView
  input : Option InputView
  deriving DecidableEq

inductive Screen where
  | nameEntry (view : NameEntryView)
  | node (view : NodeView)
  deriving DecidableEq

/-- The node that a screen shows. -/
def Screen.shownNode : Screen → Option NodeView
  | node view => some view
  | nameEntry _ => none

/-- The entry that a screen asks for. -/
def Screen.askedName : Screen → Option NameEntryView
  | nameEntry view => some view
  | node _ => none

structure View where
  position : Position
  screen : Screen
  showFeedbackScreen : Bool
  deriving DecidableEq

/-- Whether a node waits for something other than being acknowledged. -/
def NodeKind.isInteractive (kind : NodeKind) : Bool := !kind.isAcknowledged

/-- What a field asks when its node has no text. -/
def inputPrompt : String := "Enter your response:"

namespace Story

/-- Story text as the player sees it in a state. -/
def shown (state : GameState) (text : String) : String :=
  Interpolation.interpolate text state.vars (some state.userName)

def nameEntryView (story : Story) : NameEntryView where
  title := (nonempty? story.settings.nameInputTitle).getD story.title
  prompt := story.settings.nameInputPrompt
  placeholder := story.settings.nameInputPlaceholder
  minLength := story.settings.nameMinLength
  maxLength := story.settings.nameMaxLength

/-- A character that the cast does not know is not shown. -/
def characterView? (story : Story) (state : GameState) (node : Node) (appearance : Appearance) :
    Option CharacterView := do
  let character ← story.character? appearance.characterId
  let expression := appearance.expression.map (shown state)
  return {
    characterId := character.id
    displayName := character.displayName
    expression := (nonempty? expression).getD character.defaultExpression
    sprite := character.spriteFor expression
    position := appearance.position
    scale := appearance.scale <|> character.scale
    offsetX := appearance.offsetX
    offsetY := appearance.offsetY
    isActive := node.characterId == some appearance.characterId }

/-- Who speaks, and in which colour the name is written. -/
def speaker (story : Story) (state : GameState) (node : Node) : Option String × Option String :=
  let character := (nonempty? node.characterId).bind story.character?
  let color := character.bind (·.nameColor)
  match nonempty? node.speakerName with
  | some name => (some (shown state name), color)
  | none => (character.map (·.displayName), color)

/-- What is shown of a node, apart from what its kind asks for. -/
def sceneryView (story : Story) (state : GameState) (background : Option String) (node : Node) :
    NodeView where
  kind := node.body.kind
  text := none
  speaker := none
  nameColor := none
  background := story.resolveBackground node background
  transition := node.transition
  characters := node.visibleCharacters.filterMap (story.characterView? state node)
  choices := []
  input := none

/-- What is shown of a node. -/
def nodeView (story : Story) (state : GameState) (background : Option String) (pending : Bool)
    (node : Node) : Except Fault NodeView := do
  let scenery := story.sceneryView state background node
  let text := node.text.map (shown state)
  match node.body with
  | .choice choices =>
    let available ← availableChoices state.vars choices
    return { scenery with
      text := some (text.getD "")
      choices := available.map fun choice => ⟨choice.id, shown state choice.text⟩ }
  | .input config =>
    return { scenery with
      text := some ((nonempty? text).getD inputPrompt)
      input := some ⟨false, config.placeholder, config.minLength, config.maxLength,
        config.inputKind, false⟩ }
  | .graded config =>
    return { scenery with
      text := some ((nonempty? text).getD inputPrompt)
      input := some ⟨true, config.placeholder, config.minLength, config.maxLength, .text,
        pending⟩ }
  | _ =>
    let (speaker, nameColor) := story.speaker state node
    return { scenery with text, speaker, nameColor }

/-- Everything that is needed to draw the current node. -/
def view (story : Story) (state : GameState) (background : Option String) (pending : Bool) :
    Except Fault View := do
  let screen ←
    if state.gameStarted then do
      let node ← story.currentNode state
      pure (Screen.node (← story.nodeView state background pending node))
    else pure (Screen.nameEntry story.nameEntryView)
  return ⟨state.position, screen, state.showFeedbackScreen⟩

end Story

namespace View

/-- The fields of an object without those that hold nothing, if so wished. -/
def object (concise : Bool) (fields : List (String × Json)) : Json :=
  .obj (if concise then fields.filter fun (_, value) => !Style.isNull value else fields)

def ofCharacter (concise : Bool) (c : CharacterView) : Json := object concise
  [("character_id", .str c.characterId), ("display_name", .str c.displayName),
   ("expression", .str c.expression), ("sprite", .ofText? c.sprite),
   ("position", .str c.position.word), ("scale", ofOption .float c.scale),
   ("offset_x", ofOption .float c.offsetX), ("offset_y", ofOption .float c.offsetY),
   ("is_active", .bool c.isActive)]

def ofInput (i : InputView) : Json :=
  .obj [("kind", .str (if i.graded then "llm_input" else "input")),
    ("placeholder", .str i.placeholder), ("min_length", .int i.minLength),
    ("max_length", .int i.maxLength), ("input_type", .str i.inputKind.word),
    ("pending", .bool i.pending)]

def ofNameEntry (n : NameEntryView) : Json :=
  .obj [("title", .str n.title), ("prompt", .str n.prompt), ("placeholder", .str n.placeholder),
    ("min_length", .int n.minLength), ("max_length", .int n.maxLength)]

/-- A view as a flat object; what a screen has no use for is null or empty. -/
def toJson (concise : Bool) (v : View) : Json :=
  let node := v.screen.shownNode
  object concise
    [("screen", .str (if node.isSome then "node" else "name_entry")),
     ("scene_id", .str v.position.sceneId), ("node_id", .str v.position.nodeId),
     ("type", .ofText? (node.map (·.kind.word))), ("text", .ofText? (node.bind (·.text))),
     ("speaker", .ofText? (node.bind (·.speaker))),
     ("name_color", .ofText? (node.bind (·.nameColor))),
     ("is_narration", .bool (node.any fun n => n.kind == .narration || n.kind == .ending)),
     ("background", .ofText? (node.bind (·.background))),
     ("transition", .ofText? ((node.bind (·.transition)).map (·.word))),
     ("characters", .arr ((node.map (·.characters)).getD [] |>.map (ofCharacter concise))),
     ("choices", .arr (((node.map (·.choices)).getD []).map fun c =>
       .obj [("id", .str c.id), ("text", .str c.text)])),
     ("input", ofOption ofInput (node.bind (·.input))),
     ("name_entry", ofOption ofNameEntry v.screen.askedName),
     ("is_terminal", .bool (node.any fun n => n.kind == .ending)),
     ("awaiting_input", .bool (node.any fun n => n.kind.isInteractive)),
     ("show_feedback_screen", .bool v.showFeedbackScreen)]

end View

end VisualNovel
