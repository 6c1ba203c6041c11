import VisualNovel.Schema.Checked
/-!
The keys of stories and playthroughs.  Documents are written in camel case; a key whose words are
joined by underscores is understood too.
-/

namespace VisualNovel.Schema.Key

def id : Key := .word "id"

def name : Key := .word "name"

def displayName : Key := ⟨"displayName", "display_name"⟩

def sprites : Key := .word "sprites"

def defaultExpression : Key := ⟨"defaultExpression", "default_expression"⟩

def position : Key := .word "position"

def nameColor : Key := ⟨"nameColor", "name_color"⟩

def scale : Key := .word "scale"

def src : Key := .word "src"

def characterId : Key := ⟨"characterId", "character_id"⟩

def expression : Key := .word "expression"

def offsetX : Key := ⟨"offsetX", "offset_x"⟩

def offsetY : Key := ⟨"offsetY", "offset_y"⟩

def type : Key := .word "type"

def loop : Key := .word "loop"

def conditionVariable : Key := .word "variable"

def operator : Key := .word "operator"

def value : Key := .word "value"

def text : Key := .word "text"

def nextNodeId : Key := ⟨"nextNodeId", "next_node_id"⟩

def condition : Key := .word "condition"

def setVariables : Key := ⟨"setVariables", "set_variables"⟩

def addVariables : Key := ⟨"addVariables", "add_variables"⟩

def variableName : Key := ⟨"variableName", "variable_name"⟩

def placeholder : Key := .word "placeholder"

def minLength : Key := ⟨"minLength", "min_length"⟩

def maxLength : Key := ⟨"maxLength", "max_length"⟩

def inputType : Key := ⟨"inputType", "input_type"⟩

def validation : Key := .word "validation"

def validationMessage : Key := ⟨"validationMessage", "validation_message"⟩

def variableToModify : Key := ⟨"variableToModify", "variable_to_modify"⟩

def goodPoints : Key := ⟨"goodPoints", "good_points"⟩

def neutralPoints : Key := ⟨"neutralPoints", "neutral_points"⟩

def badPoints : Key := ⟨"badPoints", "bad_points"⟩

def userInputVariable : Key := ⟨"userInputVariable", "user_input_variable"⟩

def characterResponseVariable : Key := ⟨"characterResponseVariable", "character_response_variable"⟩

def emotionVariable : Key := ⟨"emotionVariable", "emotion_variable"⟩

def evaluationVariable : Key := ⟨"evaluationVariable", "evaluation_variable"⟩

def allowedEmotions : Key := ⟨"allowedEmotions", "allowed_emotions"⟩

def context : Key := .word "context"

def ratingConfig : Key := ⟨"ratingConfig", "rating_config"⟩

def speakerName : Key := ⟨"speakerName", "speaker_name"⟩

def background : Key := .word "background"

def visibleCharacters : Key := ⟨"visibleCharacters", "visible_characters"⟩

def audio : Key := .word "audio"

def transition : Key := .word "transition"

def choices : Key := .word "choices"

def inputConfig : Key := ⟨"inputConfig", "input_config"⟩

def llmConfig : Key := ⟨"llmConfig", "llm_config"⟩

def startNodeId : Key := ⟨"startNodeId", "start_node_id"⟩

def nodes : Key := .word "nodes"

def askForName : Key := ⟨"askForName", "ask_for_name"⟩

def nameInputTitle : Key := ⟨"nameInputTitle", "name_input_title"⟩

def nameInputPrompt : Key := ⟨"nameInputPrompt", "name_input_prompt"⟩

def nameInputPlaceholder : Key := ⟨"nameInputPlaceholder", "name_input_placeholder"⟩

def nameMinLength : Key := ⟨"nameMinLength", "name_min_length"⟩

def nameMaxLength : Key := ⟨"nameMaxLength", "name_max_length"⟩

def defaultPlayerName : Key := ⟨"defaultPlayerName", "default_player_name"⟩

def defaultBgm : Key := ⟨"defaultBgm", "default_bgm"⟩

def clickSfx : Key := ⟨"clickSfx", "click_sfx"⟩

def scoreVariable : Key := ⟨"scoreVariable", "score_variable"⟩

def title : Key := .word "title"

def author : Key := .word "author"

def version : Key := .word "version"

def characters : Key := .word "characters"

def backgrounds : Key := .word "backgrounds"

def scenes : Key := .word "scenes"

def startSceneId : Key := ⟨"startSceneId", "start_scene_id"⟩

def vars : Key := .word "variables"

def settings : Key := .word "settings"

def sceneId : Key := ⟨"sceneId", "scene_id"⟩

def nodeId : Key := ⟨"nodeId", "node_id"⟩

def choiceId : Key := ⟨"choiceId", "choice_id"⟩

def userInput : Key := ⟨"userInput", "user_input"⟩

def evaluation : Key := .word "evaluation"

def rating : Key := .word "rating"

def currentSceneId : Key := ⟨"currentSceneId", "current_scene_id"⟩

def currentNodeId : Key := ⟨"currentNodeId", "current_node_id"⟩

def history : Key := .word "history"

def userName : Key := ⟨"userName", "user_name"⟩

def gameStarted : Key := ⟨"gameStarted", "game_started"⟩

def feedback : Key := .word "feedback"

def showFeedbackScreen : Key := ⟨"showFeedbackScreen", "show_feedback_screen"⟩

def characterResponse : Key := ⟨"characterResponse", "character_response"⟩

def emotion : Key := .word "emotion"

def attempts : Key := .word "attempts"

def raw : Key := .word "raw"

def error : Key := .word "error"

def overallAssessment : Key := ⟨"overallAssessment", "overall_assessment"⟩

def strengths : Key := .word "strengths"

def areasForImprovement : Key := ⟨"areasForImprovement", "areas_for_improvement"⟩

def tips : Key := .word "tips"

def encouragement : Key := .word "encouragement"

end VisualNovel.Schema.Key
