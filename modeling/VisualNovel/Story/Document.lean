import VisualNovel.Schema.Key
import VisualNovel.Schema.Scalar
import VisualNovel.Schema.Style
import VisualNovel.Story.Basic
/-!
Stories as documents: what is accepted for each part of a story, with the value of every field that
may be left out, and how each part is written.
-/

namespace VisualNovel

open Schema

def Side.ofWord? : String → Option Side
  | "left" => some .left
  | "center" => some .center
  | "right" => some .right
  | _ => none

def Side.word : Side → String
  | .left => "left"
  | .center => "center"
  | .right => "right"

def Transition.ofWord? : String → Option Transition
  | "fade" => some .fade
  | "slide" => some .slide
  | "none" => some .cut
  | _ => none

def Transition.word : Transition → String
  | .fade => "fade"
  | .slide => "slide"
  | .cut => "none"

def AudioKind.ofWord? : String → Option AudioKind
  | "bgm" => some .bgm
  | "sfx" => some .sfx
  | _ => none

def AudioKind.word : AudioKind → String
  | .bgm => "bgm"
  | .sfx => "sfx"

def InputKind.ofWord? : String → Option InputKind
  | "text" => some .text
  | "number" => some .number
  | "email" => some .email
  | _ => none

def InputKind.word : InputKind → String
  | .text => "text"
  | .number => "number"
  | .email => "email"

def Rating.ofWord? : String → Option Rating
  | "good" => some .good
  | "neutral" => some .neutral
  | "bad" => some .bad
  | _ => none

def Rating.word : Rating → String
  | .good => "good"
  | .neutral => "neutral"
  | .bad => "bad"

def NodeKind.ofWord? : String → Option NodeKind
  | "dialogue" => some .dialogue
  | "narration" => some .narration
  | "end" => some .ending
  | "choice" => some .choice
  | "input" => some .input
  | "llm_input" => some .graded
  | _ => none

def NodeKind.word : NodeKind → String
  | .dialogue => "dialogue"
  | .narration => "narration"
  | .ending => "end"
  | .choice => "choice"
  | .input => "input"
  | .graded => "llm_input"

def Character.ofJson : Expects Character := model fun o =>
  Character.mk <$> field o .id textual
    <*> fieldOr o .name textual ""
    <*> field o .displayName textual
    <*> fieldOr o .sprites (named textual) .empty
    <*> fieldOr o .defaultExpression textual "neutral"
    <*> fieldOr o .position (nullable (among Side.ofWord?)) none
    <*> fieldOr o .nameColor (nullable textual) none
    <*> fieldOr o .scale (nullable floating) none

def Character.toJson (style : Style) (c : Character) : Json := style.object
  [(.id, .str c.id), (.name, .str c.name), (.displayName, .str c.displayName),
   (.sprites, ofNamed .str c.sprites), (.defaultExpression, .str c.defaultExpression),
   (.position, ofOption (fun p => .str p.word) c.position), (.nameColor, .ofText? c.nameColor),
   (.scale, ofOption .float c.scale)]

def Background.ofJson : Expects Background := model fun o =>
  Background.mk <$> field o .id textual <*> fieldOr o .name textual "" <*> field o .src textual

def Background.toJson (style : Style) (b : Background) : Json := style.object
  [(.id, .str b.id), (.name, .str b.name), (.src, .str b.src)]

def Appearance.ofJson : Expects Appearance := model fun o =>
  Appearance.mk <$> field o .characterId textual
    <*> fieldOr o .position (among Side.ofWord?) .center
    <*> fieldOr o .expression (nullable textual) none
    <*> fieldOr o .scale (nullable floating) none
    <*> fieldOr o .offsetX (nullable floating) none
    <*> fieldOr o .offsetY (nullable floating) none

def Appearance.toJson (style : Style) (a : Appearance) : Json := style.object
  [(.characterId, .str a.characterId), (.position, .str a.position.word),
   (.expression, .ofText? a.expression), (.scale, ofOption .float a.scale),
   (.offsetX, ofOption .float a.offsetX), (.offsetY, ofOption .float a.offsetY)]

def AudioDirective.ofJson : Expects AudioDirective := model fun o =>
  AudioDirective.mk <$> field o .type (among AudioKind.ofWord?)
    <*> field o .src textual
    <*> fieldOr o .loop (nullable boolean) none

def AudioDirective.toJson (style : Style) (a : AudioDirective) : Json := style.object
  [(.type, .str a.kind.word), (.src, .str a.src), (.loop, ofOption .bool a.loop)]

def Condition.ofJson : Expects Condition := model fun o =>
  Condition.mk <$> field o .conditionVariable textual
    <*> fieldOr o .operator textual "=="
    <*> fieldOr o .value (nullable scalar) none

def Condition.toJson (style : Style) (c : Condition) : Json := style.object
  [(.conditionVariable, .str c.name), (.operator, .str c.operator),
   (.value, ofOption Value.toJson c.value)]

def Choice.ofJson : Expects Choice := model fun o =>
  Choice.mk <$> field o .id textual
    <*> field o .text textual
    <*> field o .nextNodeId textual
    <*> fieldOr o .condition (nullable Condition.ofJson) none
    <*> fieldOr o .setVariables (nullable (named scalar)) none
    <*> fieldOr o .addVariables (nullable (named numeric)) none

def Choice.toJson (style : Style) (c : Choice) : Json := style.object
  [(.id, .str c.id), (.text, .str c.text), (.nextNodeId, .str c.nextNodeId),
   (.condition, ofOption (Condition.toJson style) c.condition),
   (.setVariables, ofOption (ofNamed Value.toJson) c.setVariables),
   (.addVariables, ofOption (ofNamed Number.toJson) c.addVariables)]

def InputConfig.ofJson : Expects InputConfig := model fun o =>
  InputConfig.mk <$> field o .variableName textual
    <*> fieldOr o .placeholder textual "Type here..."
    <*> fieldOr o .minLength integer 1
    <*> fieldOr o .maxLength integer 100
    <*> fieldOr o .inputType (among InputKind.ofWord?) .text
    <*> fieldOr o .validation (nullable textual) none
    <*> fieldOr o .validationMessage textual "Invalid input"

def InputConfig.toJson (style : Style) (c : InputConfig) : Json := style.object
  [(.variableName, .str c.variableName), (.placeholder, .str c.placeholder),
   (.minLength, .int c.minLength), (.maxLength, .int c.maxLength),
   (.inputType, .str c.inputKind.word), (.validation, .ofText? c.validation),
   (.validationMessage, .str c.validationMessage)]

def RatingConfig.ofJson : Expects RatingConfig := model fun o =>
  RatingConfig.mk <$> field o .variableToModify textual
    <*> fieldOr o .goodPoints numeric (.int 0)
    <*> fieldOr o .neutralPoints numeric (.int 0)
    <*> fieldOr o .badPoints numeric (.int 0)

def RatingConfig.toJson (style : Style) (c : RatingConfig) : Json := style.object
  [(.variableToModify, .str c.variableToModify), (.goodPoints, c.goodPoints.toJson),
   (.neutralPoints, c.neutralPoints.toJson), (.badPoints, c.badPoints.toJson)]

def GradedConfig.ofJson : Expects GradedConfig := model fun o =>
  GradedConfig.mk <$> field o .userInputVariable textual
    <*> field o .characterResponseVariable textual
    <*> field o .emotionVariable textual
    <*> field o .evaluationVariable textual
    <*> fieldOr o .allowedEmotions (list textual) defaultEmotions
    <*> fieldOr o .context textual ""
    <*> fieldOr o .placeholder textual "Type your response..."
    <*> fieldOr o .minLength integer 1
    <*> fieldOr o .maxLength integer 500
    <*> fieldOr o .ratingConfig (nullable RatingConfig.ofJson) none

def GradedConfig.toJson (style : Style) (c : GradedConfig) : Json := style.object
  [(.userInputVariable, .str c.userInputVariable),
   (.characterResponseVariable, .str c.characterResponseVariable),
   (.emotionVariable, .str c.emotionVariable), (.evaluationVariable, .str c.evaluationVariable),
   (.allowedEmotions, .arr (c.allowedEmotions.map .str)), (.context, .str c.context),
   (.placeholder, .str c.placeholder), (.minLength, .int c.minLength),
   (.maxLength, .int c.maxLength),
   (.ratingConfig, ofOption (RatingConfig.toJson style) c.ratingConfig)]

/-- A word that has to be one given word. -/
def exactly (word : String) : Expects Unit :=
  among fun given => if given = word then some () else none

/-- The fields that a node of a kind has besides those of every node. -/
def NodeBody.ofFields (o : List (String × Json)) : NodeKind → Checked NodeBody
  | .dialogue => .valid .dialogue
  | .narration => .valid .narration
  | .ending => .valid .ending
  | .choice => NodeBody.choice <$> fieldOr o .choices (list Choice.ofJson) []
  | .input => NodeBody.input <$> field o .inputConfig InputConfig.ofJson
  | .graded => NodeBody.graded <$> field o .llmConfig GradedConfig.ofJson

/-- A node of a known kind; the kind may be left out of the document. -/
def Node.ofFields (kind : NodeKind) (o : List (String × Json)) : Checked Node :=
  (fun id text speakerName characterId expression background visibleCharacters audio setVariables
      addVariables nextNodeId transition (_ : Unit) body =>
    { id, text, speakerName, characterId, expression, background, visibleCharacters, audio,
      setVariables, addVariables, nextNodeId, transition, body })
    <$> field o .id textual
    <*> fieldOr o .text (nullable textual) none
    <*> fieldOr o .speakerName (nullable textual) none
    <*> fieldOr o .characterId (nullable textual) none
    <*> fieldOr o .expression (nullable textual) none
    <*> fieldOr o .background (nullable textual) none
    <*> fieldOr o .visibleCharacters (list Appearance.ofJson) []
    <*> fieldOr o .audio (nullable AudioDirective.ofJson) none
    <*> fieldOr o .setVariables (nullable (named scalar)) none
    <*> fieldOr o .addVariables (nullable (named numeric)) none
    <*> fieldOr o .nextNodeId (nullable textual) none
    <*> fieldOr o .transition (nullable (among Transition.ofWord?)) none
    <*> fieldOr o .type (exactly kind.word) ()
    <*> NodeBody.ofFields o kind

/-- A node whose kind is given by the document. -/
def Node.ofJson : Expects Node
  | .obj o =>
    match Key.type.find? o with
    | none => .problem .tagMissing
    | some (_, .str tag) =>
      match NodeKind.ofWord? tag with
      | some kind => (Node.ofFields kind o).within (.key tag)
      | none => .problem .tagUnknown
    | some _ => .problem .tagUnknown
  | _ => .problem .notTaggedModel

/-- The fields of a node's body. -/
def NodeBody.fields (style : Style) : NodeBody → List (Key × Json)
  | .choice choices => [(.choices, .arr (choices.map (Choice.toJson style)))]
  | .input config => [(.inputConfig, config.toJson style)]
  | .graded config => [(.llmConfig, config.toJson style)]
  | _ => []

def Node.toJson (style : Style) (n : Node) : Json := style.object <|
  [(.id, .str n.id), (.text, .ofText? n.text), (.speakerName, .ofText? n.speakerName),
   (.characterId, .ofText? n.characterId), (.expression, .ofText? n.expression),
   (.background, .ofText? n.background),
   (.visibleCharacters, .arr (n.visibleCharacters.map (Appearance.toJson style))),
   (.audio, ofOption (AudioDirective.toJson style) n.audio),
   (.setVariables, ofOption (ofNamed Value.toJson) n.setVariables),
   (.addVariables, ofOption (ofNamed Number.toJson) n.addVariables),
   (.nextNodeId, .ofText? n.nextNodeId),
   (.transition, ofOption (fun t => .str t.word) n.transition),
   (.type, .str n.body.kind.word)] ++ n.body.fields style

def Scene.ofJson : Expects Scene := model fun o =>
  Scene.mk <$> field o .id textual
    <*> fieldOr o .name textual ""
    <*> field o .startNodeId textual
    <*> fieldOr o .nodes (list Node.ofJson) []

def Scene.toJson (style : Style) (s : Scene) : Json := style.object
  [(.id, .str s.id), (.name, .str s.name), (.startNodeId, .str s.startNodeId),
   (.nodes, .arr (s.nodes.map (Node.toJson style)))]

def Settings.ofJson : Expects Settings := model fun o =>
  Settings.mk <$> fieldOr o .askForName boolean Settings.standard.askForName
    <*> fieldOr o .nameInputTitle (nullable textual) Settings.standard.nameInputTitle
    <*> fieldOr o .nameInputPrompt textual Settings.standard.nameInputPrompt
    <*> fieldOr o .nameInputPlaceholder textual Settings.standard.nameInputPlaceholder
    <*> fieldOr o .nameMinLength integer Settings.standard.nameMinLength
    <*> fieldOr o .nameMaxLength integer Settings.standard.nameMaxLength
    <*> fieldOr o .defaultPlayerName textual Settings.standard.defaultPlayerName
    <*> fieldOr o .defaultBgm (nullable textual) Settings.standard.defaultBgm
    <*> fieldOr o .clickSfx (nullable textual) Settings.standard.clickSfx
    <*> fieldOr o .scoreVariable textual Settings.standard.scoreVariable

def Settings.toJson (style : Style) (s : Settings) : Json := style.object
  [(.askForName, .bool s.askForName), (.nameInputTitle, .ofText? s.nameInputTitle),
   (.nameInputPrompt, .str s.nameInputPrompt),
   (.nameInputPlaceholder, .str s.nameInputPlaceholder), (.nameMinLength, .int s.nameMinLength),
   (.nameMaxLength, .int s.nameMaxLength), (.defaultPlayerName, .str s.defaultPlayerName),
   (.defaultBgm, .ofText? s.defaultBgm), (.clickSfx, .ofText? s.clickSfx),
   (.scoreVariable, .str s.scoreVariable)]

def Story.ofJson : Expects Story := model fun o =>
  Story.mk <$> field o .title textual
    <*> fieldOr o .author (nullable textual) none
    <*> fieldOr o .version (nullable textual) none
    <*> fieldOr o .characters (list Character.ofJson) []
    <*> fieldOr o .backgrounds (list Background.ofJson) []
    <*> fieldOr o .scenes (list Scene.ofJson) []
    <*> field o .startSceneId textual
    <*> fieldOr o .vars (named scalar) .empty
    <*> fieldOr o .settings Settings.ofJson .standard

def Story.toJson (style : Style) (s : Story) : Json := style.object
  [(.title, .str s.title), (.author, .ofText? s.author), (.version, .ofText? s.version),
   (.characters, .arr (s.characters.map (Character.toJson style))),
   (.backgrounds, .arr (s.backgrounds.map (Background.toJson style))),
   (.scenes, .arr (s.scenes.map (Scene.toJson style))), (.startSceneId, .str s.startSceneId),
   (.vars, ofNamed Value.toJson s.vars), (.settings, s.settings.toJson style)]

end VisualNovel
