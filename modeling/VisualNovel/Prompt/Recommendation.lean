import VisualNovel.Playthrough.State
import VisualNovel.Prompt.Grading
/-!
The prompt that asks for personal recommendations at the end of a game, with one block of text for
every graded response.
-/

namespace VisualNovel.Prompt

def interactionForm : Form :=
  [.literal "Interaction ", .hole "number",
   .literal ":\n- Situation: ", .hole "context",
   .literal "\n- Player's response: \"", .hole "user_input",
   .literal "\"\n- Evaluation: ", .hole "evaluation",
   .literal "\n- Rating: ", .hole "rating", .literal "\n\n"]

def recommendationsForm : Form :=
  [.literal "You are a helpful guide for a visual novel game",
   .given "title" [.literal " called \"", .hole "title", .literal "\""],
   .literal ".\n\nThe player \"", .hole "player_name",
   .literal ("\" has just finished playing the game.\n\n" ++
     "Here is a summary of their interactions throughout the game:\n\n"),
   .each "entries" interactionForm,
   .literal "Rating Summary:\n- Good responses: ", .hole "good",
   .literal "\n- Neutral responses: ", .hole "neutral",
   .literal "\n- Bad responses: ", .hole "bad",
   .literal "\n- Final score: ", .hole "final_score",
   .literal ("\n\nPlease provide personalized feedback for the player. Your response MUST be a " ++
     "valid JSON object with this exact format (no markdown, no code blocks):\n\x7b\n" ++
     "  \"overallAssessment\": \"A 2-3 sentence overall assessment of how the player did\",\n" ++
     "  \"strengths\": [\"List 2-3 things the player did well - be specific about their good " ++
     "responses\"],\n" ++
     "  \"areasForImprovement\": [\"List 2-3 areas where the player could improve - be specific " ++
     "and constructive\"],\n" ++
     "  \"tips\": [\"List 3-4 practical tips the player can use in real life\"],\n" ++
     "  \"encouragement\": \"A short encouraging message for the player\"\n\x7d\n\n" ++
     "Respond ONLY with the JSON object:")]

/-- What a prompt on a finished game tells.  An interaction is a list of fields, and the score is a
value or nothing. -/
structure GameReport where
  entries : List (List (String × Json))
  good : Int
  neutral : Int
  bad : Int
  playerName : String
  finalScore : Option Value
  title : String

/-- Interactions with their numbers. -/
def numbered (entries : List (List (String × Json))) : List Json :=
  entries.mapIdx fun index entry => .obj (Json.assign "number" (.str (toString (index + 1))) entry)

/-- What stands in for the name of a player without one. -/
def unnamedPlayer : String := "Player"

/-- What is said of a score that there is not. -/
def noScore : String := "N/A"

/-- The form filled in. -/
def filledRecommendations (entries : List (List (String × Json))) (good neutral bad : String)
    (playerName : Json) (finalScore : String) (title : Json) : String :=
  recommendationsForm.render (.obj
    [("title", title), ("player_name", playerName), ("entries", .arr (numbered entries)),
     ("good", .str good), ("neutral", .str neutral), ("bad", .str bad),
     ("final_score", .str finalScore)])

/-- Asks for recommendations. -/
def recommendations (report : GameReport) : String :=
  filledRecommendations report.entries (toString report.good) (toString report.neutral)
    (toString report.bad) (.str (orElse report.playerName unnamedPlayer))
    ((report.finalScore.map Value.display).getD noScore) (.str report.title)

end VisualNovel.Prompt
