import VisualNovel.Mishap
import VisualNovel.Prompt.Recommendation
import VisualNovel.Story.Value
/-!
Prompts from documents.  What a prompt is made of need not have the shape that it should have: what
can be put into a sentence is put into the prompt, and only what has to be gone through or looked
into can fail.
-/

namespace VisualNovel

/-- A document if it counts as given, and else another one. -/
def Json.orElse (document fallback : Json) : Json :=
  if document.truthy then document else fallback

/-- The text of a document as the player sees it. -/
def Json.shown (document : Json) : String :=
  ((Value.ofJson? document).map Value.display).getD document.display

/-- The texts of what a document consists of: the items of a list, the characters of a text or the
keys of an object. -/
def Json.parts : Json → Except Mishap (List String)
  | .arr items => .ok (items.map Json.display)
  | .str text => .ok (text.toList.map Char.toString)
  | .obj fields => .ok (fields.map Prod.fst)
  | _ => .error .wrongKind

namespace Prompt

/-- Asks for a response to be graded. -/
def gradingOf (userInput context allowedEmotions : Json) : Except Mishap String := do
  let emotions ← if allowedEmotions.truthy then allowedEmotions.parts else pure defaultEmotions
  return filledGrading userInput (context.orElse (.str defaultContext)) emotions

/-- Asks again, showing the previous answer and what was wrong with it. -/
def retryOf (basePrompt previous error : Json) : String :=
  filledRetry basePrompt previous (error.orElse (.str defaultError))

/-- The interactions in a document. -/
def interactionsOf (document : Json) : Except Mishap (List (List (String × Json))) := do
  let items ← match document with
    | .arr items => pure items
    | .str text => pure (text.toList.map fun c => .str c.toString)
    | .obj fields => pure (fields.map fun (name, _) => .str name)
    | _ => throw .wrongKind
  items.mapM fun
    | .obj fields => .ok fields
    | _ => .error .wrongKind

/-- A text of a document, unless the document is an integer with too many digits for a text. -/
def writtenAs (text : String) (document : Json) : Except Mishap String :=
  if (Value.ofJson? document).all Value.isWritable then .ok text else .error (.fault .unwritable)

/-- The text of a count, which is zero unless it is told. -/
def countOf (counts : Json) (key : String) : Except Mishap String :=
  match counts with
  | .obj fields =>
    let count := (Json.lookup? key fields).getD (.int 0)
    writtenAs count.display count
  | _ => .error .wrongShape

/-- The text of a score. -/
def scoreOf : Json → Except Mishap String
  | .null => .ok noScore
  | score => writtenAs score.shown score

/-- Asks for recommendations. -/
def recommendationsOf (entries counts playerName finalScore title : Json) :
    Except Mishap String := do
  let interactions ← interactionsOf entries
  let good ← countOf counts "good"
  let neutral ← countOf counts "neutral"
  let bad ← countOf counts "bad"
  let score ← scoreOf finalScore
  return filledRecommendations interactions good neutral bad
    (playerName.orElse (.str unnamedPlayer)) score title

end Prompt

end VisualNovel
