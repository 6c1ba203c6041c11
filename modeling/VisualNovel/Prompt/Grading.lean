import VisualNovel.Prompt.Form
import VisualNovel.Story.Basic
/-!
The prompts that ask for a response to be graded: the first one, and the one that shows what was
wrong with the answer to an earlier one.
-/

namespace VisualNovel.Prompt

/-- The situation when a story gives none. -/
def defaultContext : String :=
  "You are a character in a visual novel game. Respond to the player's input."

/-- What is said of an answer when no error is known. -/
def defaultError : String := "Invalid JSON format"

def gradingForm : Form :=
  [.hole "context",
   .literal "\n\nUser's input: \"",
   .hole "user_input",
   .literal ("\"\n\nYou MUST respond with a valid JSON object in this exact format " ++
     "(no markdown, no code blocks, just the JSON):\n\x7b\n" ++
     "  \"characterResponse\": \"What you would say in response to the player\",\n" ++
     "  \"emotion\": \"one of: "),
   .hole "emotions",
   .literal ("\",\n  \"evaluation\": \"A brief evaluation of how well the player responded " ++
     "from a third person perspective\",\n" ++
     "  \"rating\": \"good OR neutral OR bad (based on how appropriate/helpful the player's " ++
     "response was)\"\n\x7d\n\nRating guidelines:\n" ++
     "- \"good\": The response was thoughtful, kind, helpful, or showed good understanding\n" ++
     "- \"neutral\": The response was acceptable but also irrelevant or unhelpful\n" ++
     "- \"bad\": The response was rude, unhelpful, inappropriate, or showed poor understanding\n" ++
     "\n" ++
     "Respond ONLY with the JSON object, nothing else:")]

def retryForm : Form :=
  [.literal "Your previous response was invalid JSON. Here was your response:\n\"",
   .hole "previous",
   .literal "\"\n\nError: ",
   .hole "error",
   .literal "\n\nPlease try again. ",
   .hole "prompt"]

/-- The emotions to choose from, each in double quotes. -/
def quotedEmotions (emotions : List String) : String :=
  ", ".intercalate (emotions.map fun emotion => "\"" ++ emotion ++ "\"")

/-- A text, or another one in place of the empty text. -/
def orElse (text fallback : String) : String := if text = "" then fallback else text

/-- The first form filled in. -/
def filledGrading (userInput context : Json) (emotions : List String) : String :=
  gradingForm.render (.obj
    [("context", context), ("user_input", userInput), ("emotions", .str (quotedEmotions emotions))])

/-- Asks for a response to be graded. -/
def grading (userInput context : String) (allowedEmotions : List String) : String :=
  filledGrading (.str userInput) (.str (orElse context defaultContext))
    (if allowedEmotions.isEmpty then defaultEmotions else allowedEmotions)

/-- The second form filled in. -/
def filledRetry (basePrompt previous error : Json) : String :=
  retryForm.render (.obj [("previous", previous), ("error", error), ("prompt", basePrompt)])

/-- Asks again, showing the previous answer and what was wrong with it. -/
def retry (basePrompt previous error : String) : String :=
  filledRetry (.str basePrompt) (.str previous) (.str (orElse error defaultError))

end VisualNovel.Prompt
