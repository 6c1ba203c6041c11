import VisualNovel.Json.Display
import VisualNovel.Mishap
/-!
Acting on an engine by documents.  A document that is no text fails where a text would be looked at,
after everything that has nothing to do with the text.
-/

namespace VisualNovel

namespace Story

/-- The choices that are offered where the player is. -/
def offeredChoices (story : Story) (state : GameState) : Except Fault (List Choice) := do
  let node ← story.activeNode state
  match node.body with
  | .choice choices => availableChoices state.vars choices
  | body => throw (.inapplicable (.noChoices body.kind))

/-- Why no choice is taken for a document that is no text, and so is the id of none. -/
def unnamed (story : Story) (state : GameState) (document : Json) : Fault :=
  match story.offeredChoices state with
  | .ok _ => .inapplicable (.choiceNotText (String.ofList document.listed))
  | .error fault => fault

end Story

namespace Engine

/-- What an action comes to, and the engine afterwards. -/
abbrev Acted (α : Type) := Except Mishap α × Engine

/-- The outcome of an action as it is. -/
def plainly {α : Type} (turn : Turn α) : Acted α := (turn.outcome.mapError .fault, turn.engine)

/-- Carries out an action that enters a text.  Whether a document that is no text is looked at is
found out with a text that need not be taken. -/
def entering {α : Type} (engine : Engine) (action : String → Turn α) : Json → Acted α
  | .str value => plainly (action value)
  | _ =>
    match (action "").outcome with
    | .error (.inapplicable why) => (.error (.fault (.inapplicable why)), engine)
    | .error .gradingInProgress => (.error (.fault .gradingInProgress), engine)
    | .error (.nodeNotFound sceneId nodeId) =>
      (.error (.fault (.nodeNotFound sceneId nodeId)), engine)
    | _ => (.error .wrongShape, engine)

/-- Takes the choice that a document names; none is named by anything but a text. -/
def choosing (engine : Engine) : Json → Acted Unit
  | .str id => plainly (engine.choose id)
  | document =>
    plainly (engine.whenIdle (engine.refuse (engine.story.unnamed engine.state document)))

end Engine

namespace Story

/-- A step that enters a text, by a document. -/
def entering {α : Type} (step : String → Except Fault α) : Json → Except Mishap α
  | .str value => (step value).mapError .fault
  | _ =>
    match step "" with
    | .error (.inapplicable why) => .error (.fault (.inapplicable why))
    | .error (.nodeNotFound sceneId nodeId) => .error (.fault (.nodeNotFound sceneId nodeId))
    | _ => .error .wrongShape

/-- The step that takes the choice a document names. -/
def choosing (story : Story) (state : GameState) : Json → Except Mishap GameState
  | .str id => (story.selectChoice state id).mapError .fault
  | document => .error (.fault (story.unnamed state document))

/-- The step that applies a grade, by the document that is said to have been graded.  One that is
no text is only found out when the feedback on it is written down. -/
def grading (story : Story) (state : GameState) (graded : GradingResult) :
    Json → Except Mishap GameState
  | .str userInput => (story.applyGrading state userInput graded).mapError .fault
  | _ =>
    match story.applyGrading state "" graded with
    | .ok _ => .error (.invalid ⟨.notText, [.key "user_input"]⟩ [])
    | .error fault => .error (.fault fault)

end Story

end VisualNovel
