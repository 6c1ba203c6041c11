import VisualNovel.Story.Document
/-!
A story of two scenes that has a node of every kind, to try things out with.
-/

namespace VisualNovel.RainyDayCafe

/-- A node with a text and a successor and nothing else. -/
def plainNode (id text : String) (nextNodeId : Option String) (body : NodeBody) : Node where
  id
  text := some text
  speakerName := none
  characterId := none
  expression := none
  background := none
  visibleCharacters := []
  audio := none
  setVariables := none
  addVariables := none
  nextNodeId
  transition := none
  body

/-- The one character, in the middle of the screen. -/
def inTheMiddle (expression : String) : List Appearance :=
  [⟨"mira", .center, some expression, none, none, none⟩]

def mira : Character where
  id := "mira"
  name := "mira"
  displayName := "Mira"
  sprites := .ofList
    [("neutral", "/characters/mira-neutral.png"), ("happy", "/characters/mira-happy.png"),
     ("sad", "/characters/mira-sad.png")]
  defaultExpression := "neutral"
  position := none
  nameColor := some "#4169E1"
  scale := none

def arrive : Node :=
  { plainNode "arrive" "Rain drums on the window as you step inside." (some "greet") .narration with
    speakerName := some "Narrator"
    background := some "cafe"
    transition := some .fade
    audio := some ⟨.bgm, "/audio/cafe.mp3", none⟩ }

def greet : Node :=
  { plainNode "greet" "Oh, \x7buserName\x7d! Over here!" (some "order") .dialogue with
    characterId := some "mira"
    visibleCharacters := inTheMiddle "happy" }

def order : Node :=
  plainNode "order" "What do you order?" none <| .choice
    [⟨"tea", "Tea, please.", "favorite", none, none, some (.ofList [("score", .int 5)])⟩,
     ⟨"nothing", "Nothing for me.", "favorite", none, none, none⟩,
     ⟨"usual", "The usual.", "favorite", some ⟨"visited_counter", "==", some (.bool true)⟩, none,
       none⟩]

def favorite : Node :=
  plainNode "favorite" "What's your favorite drink?" (some "talk") <| .input
    { variableName := "favorite_drink"
      placeholder := "Type here..."
      minLength := 2
      maxLength := 40
      inputKind := .text
      validation := none
      validationMessage := "Invalid input" }

def talk : Node :=
  plainNode "talk" "Mira looks tired. Say something to her." (some "street/outside") <| .graded
    { userInputVariable := "player_words"
      characterResponseVariable := "mira_reply"
      emotionVariable := "mira_emotion"
      evaluationVariable := "mira_eval"
      allowedEmotions := defaultEmotions
      context := "You are Mira, a tired student. \x7buserName\x7d likes \x7bfavorite_drink\x7d."
      placeholder := "Type your response..."
      minLength := 1
      maxLength := 500
      ratingConfig := some ⟨"score", .int 20, .int 0, .int (-20)⟩ }

def outside : Node :=
  { plainNode "outside" "\x7bmira_reply\x7d" (some "bye") .dialogue with
    characterId := some "mira"
    background := some "street"
    visibleCharacters := inTheMiddle "\x7bmira_emotion\x7d" }

def bye : Node := plainNode "bye" "You part ways. Score: \x7bscore\x7d" none .ending

/-- The whole story. -/
def story : Story where
  title := "Rainy Day Cafe"
  author := some "Novel Player"
  version := some "1.0.0"
  characters := [mira]
  backgrounds :=
    [⟨"cafe", "Cafe", "/backgrounds/cafe.jpg"⟩,
     ⟨"street", "Rainy Street", "/backgrounds/street.jpg"⟩]
  scenes :=
    [⟨"cafe", "The Cafe", "arrive", [arrive, greet, order, favorite, talk]⟩,
     ⟨"street", "The Street", "outside", [outside, bye]⟩]
  startSceneId := "cafe"
  vars := .ofList [("score", .number (.int 0)), ("visited_counter", .bool false)]
  settings := { Settings.standard with defaultPlayerName := "Player" }

end VisualNovel.RainyDayCafe
