import VisualNovel.Json.Display
import VisualNovel.Mishap
/-!
Moving from node to node by documents.  A target that is no text but a collection names a node that
cannot exist, and what is laid over a state is not looked at.
-/

namespace VisualNovel

open Schema

/-- Whether a separator of scene and node is found in a target, if it can be looked for. -/
def isQualified : Json → Except Mishap Bool
  | .str target => .ok (target.contains '/')
  | .arr items => .ok (items.any fun
      | .str item => item == "/"
      | _ => false)
  | .obj fields => .ok (fields.any fun (name, _) => name == "/")
  | _ => .error .wrongKind

/-- The scene and the node that a target stands for, seen from a scene. -/
def resolveDocument (target scene : Json) : Except Mishap (Json × Json) := do
  if ← isQualified target then
    match target with
    | .str target =>
      let position := resolve target ""
      return (.str position.sceneId, .str position.nodeId)
    | _ => throw .wrongShape
  else return (scene, target)

namespace GameState

/-- The keys of a state. -/
def keys : List Key :=
  [.currentSceneId, .currentNodeId, .vars, .history, .userName, .gameStarted, .feedback,
   .showFeedbackScreen]

/-- Lays values by their names over the document of a state; names that a state does not have are
passed over. -/
def layOver (state : Json) (changes : List (String × Json)) : Json :=
  match state with
  | .obj fields =>
    .obj (changes.foldl (fun fields (name, value) =>
      match keys.find? (·.snake == name) with
      | some key => Json.assign key.camel value fields
      | none => fields) fields)
  | state => state

/-- What cannot be laid over a state, because it says where to go. -/
def reservedChanges : List String := ["state", "target_id", "choice_id"]

/-- The document of the state after a move. -/
def navigateDocument (state : GameState) (target choiceId : Json)
    (changes : List (String × Json)) : Except Mishap Json := do
  if changes.any fun (name, _) => reservedChanges.contains name then throw .wrongKind
  let before := state.toJson .authored
  if !target.truthy then return layOver before changes
  else
    let (scene, node) ← resolveDocument target (.str state.currentSceneId)
    let choiceId ← ((nullable textual choiceId).within (.key "choice_id")).orMishap
    let history := (state.recordHistory choiceId).map (HistoryEntry.toJson .authored)
    return layOver before (changes ++
      [("current_scene_id", scene), ("current_node_id", node), ("history", .arr history)])

end GameState

end VisualNovel
