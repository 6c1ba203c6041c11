import VisualNovel.Json.Basic
/-!
The built-in story.  It is kept as a document, because documents are handed out as they were
authored.
-/

namespace VisualNovel.QuietLibrary

/-- The scene in which the story begins. -/
def libraryScene : Json :=
  .obj [
    ("id", .str "library"), ("name", .str "The Library"), ("startNodeId", .str "intro"),
    ("nodes", .arr [
      .obj [
        ("id", .str "intro"), ("type", .str "narration"),
        ("text", .str "The library is almost empty this afternoon."),
        ("background", .str "library"), ("transition", .str "fade"),
        ("audio", .obj [
          ("type", .str "bgm"), ("src", .str "/audio/library.mp3"), ("loop", .bool true)]),
        ("nextNodeId", .str "hello")],
      .obj [
        ("id", .str "hello"), ("type", .str "dialogue"), ("characterId", .str "ana"),
        ("text", .str "Hi \x7buserName\x7d. Looking for something?"),
        ("visibleCharacters", .arr [
          .obj [
            ("characterId", .str "ana"), ("position", .str "center"),
            ("expression", .str "neutral")]]),
        ("nextNodeId", .str "ask")],
      .obj [
        ("id", .str "ask"), ("type", .str "choice"), ("text", .str "How do you answer?"),
        ("visibleCharacters", .arr [
          .obj [
            ("characterId", .str "ana"), ("position", .str "center"),
            ("expression", .str "neutral")]]),
        ("choices", .arr [
          .obj [
            ("id", .str "polite"), ("text", .str "Yes, a book on gardening."),
            ("nextNodeId", .str "card"), ("addVariables", .obj [("trust", .int 10)])],
          .obj [
            ("id", .str "short"), ("text", .str "No."), ("nextNodeId", .str "card"),
            ("addVariables", .obj [("trust", .int (-5))])],
          .obj [
            ("id", .str "member"), ("text", .str "I'd like to borrow it with my card."),
            ("nextNodeId", .str "card"),
            ("condition", .obj [
              ("variable", .str "has_card"), ("operator", .str "=="), ("value", .bool true)])]])],
      .obj [
        ("id", .str "card"), ("type", .str "input"),
        ("text", .str "Ana asks for your library card number."),
        ("inputConfig", .obj [
          ("variableName", .str "card_number"), ("placeholder", .str "e.g. 1234"),
          ("minLength", .int 4), ("maxLength", .int 8), ("inputType", .str "number")]),
        ("setVariables", .obj [("has_card", .bool true)]), ("nextNodeId", .str "talk")],
      .obj [
        ("id", .str "talk"), ("type", .str "llm_input"),
        ("text", .str "Ana mentions she is nervous about an exam tomorrow."),
        ("visibleCharacters", .arr [
          .obj [
            ("characterId", .str "ana"), ("position", .str "center"), ("expression", .str "sad")]]),
        ("llmConfig", .obj [
          ("userInputVariable", .str "player_words"),
          ("characterResponseVariable", .str "ana_reply"), ("emotionVariable", .str "ana_emotion"),
          ("evaluationVariable", .str "ana_eval"),
          ("context", .str ("You are Ana, a librarian and student." ++
            " You are nervous about an exam. \x7buserName\x7d is talking to you.")),
          ("placeholder", .str "Say something to Ana..."), ("minLength", .int 1),
          ("maxLength", .int 300),
          ("ratingConfig", .obj [
            ("variableToModify", .str "score"), ("goodPoints", .int 10), ("neutralPoints", .int 0),
            ("badPoints", .int (-10))])]),
        ("nextNodeId", .str "garden/reply")]])]

/-- The scene that a graded response leads to. -/
def gardenScene : Json :=
  .obj [
    ("id", .str "garden"), ("name", .str "The Garden"), ("startNodeId", .str "reply"),
    ("nodes", .arr [
      .obj [
        ("id", .str "reply"), ("type", .str "dialogue"), ("characterId", .str "ana"),
        ("text", .str "\x7bana_reply\x7d"), ("background", .str "garden"),
        ("visibleCharacters", .arr [
          .obj [
            ("characterId", .str "ana"), ("position", .str "center"),
            ("expression", .str "\x7bana_emotion\x7d")]]),
        ("nextNodeId", .str "branch")],
      .obj [
        ("id", .str "branch"), ("type", .str "choice"), ("text", .str "Ana smiles at you."),
        ("choices", .arr [
          .obj [
            ("id", .str "friends"), ("text", .str "Want to study together?"),
            ("nextNodeId", .str "good_end"),
            ("condition", .obj [
              ("variable", .str "trust"), ("operator", .str ">="), ("value", .int 10)])],
          .obj [("id", .str "leave"), ("text", .str "Say goodbye."), ("nextNodeId", .str "end")]])],
      .obj [
        ("id", .str "good_end"), ("type", .str "end"),
        ("text", .str "You and Ana study until closing time. Score: \x7bscore\x7d")],
      .obj [
        ("id", .str "end"), ("type", .str "end"),
        ("text", .str "You leave the library. Score: \x7bscore\x7d")]])]

/-- Its only character. -/
def cast : Json :=
  .arr [
    .obj [
      ("id", .str "ana"), ("name", .str "ana"), ("displayName", .str "Ana"),
      ("defaultExpression", .str "neutral"), ("nameColor", .str "#2E8B57"),
      ("sprites", .obj [
        ("neutral", .str "/characters/ana-neutral.png"),
        ("happy", .str "/characters/ana-happy.png"), ("sad", .str "/characters/ana-sad.png"),
        ("angry", .str "/characters/ana-angry.png")])]]

/-- The whole story. -/
def document : Json :=
  .obj [
    ("title", .str "The Quiet Library"), ("author", .str "Novel Player"),
    ("version", .str "1.0.0"), ("startSceneId", .str "library"),
    ("variables", .obj [("score", .int 0), ("trust", .int 0), ("has_card", .bool false)]),
    ("settings", .obj [
      ("askForName", .bool true), ("nameInputPrompt", .str "What is your name?"),
      ("nameMinLength", .int 1), ("nameMaxLength", .int 20), ("defaultPlayerName", .str "Player"),
      ("scoreVariable", .str "score")]),
    ("characters", cast),
    ("backgrounds", .arr [
      .obj [
        ("id", .str "library"), ("name", .str "Library"), ("src", .str "/backgrounds/library.jpg")],
      .obj [
        ("id", .str "garden"), ("name", .str "Garden"), ("src", .str "/backgrounds/garden.jpg")]]),
    ("scenes", .arr [libraryScene, gardenScene])]

/-- The name under which it is kept. -/
def slug : String := "the-quiet-library"

end VisualNovel.QuietLibrary
