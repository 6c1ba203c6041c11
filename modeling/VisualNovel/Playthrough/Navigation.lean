import VisualNovel.Playthrough.State
/-!
Moving from node to node.  A target names a node of the current scene, or a scene and a node joined
by a slash.  Whether it exists is found out on arrival.
-/

namespace VisualNovel

/-- The position that a target stands for, seen from a scene.  Of a target with slashes only the
first two segments count. -/
def resolve (target sceneId : String) : Position :=
  let chars := target.toList
  match chars.dropWhile (· ≠ '/') with
  | [] => ⟨sceneId, target⟩
  | _ :: rest =>
    ⟨String.ofList (chars.takeWhile (· ≠ '/')), String.ofList (rest.takeWhile (· ≠ '/'))⟩

namespace GameState

/-- The history with the current position appended. -/
def recordHistory (state : GameState) (choiceId : Option String) : List HistoryEntry :=
  state.history ++ [⟨state.currentSceneId, state.currentNodeId, choiceId⟩]

/-- Changes a state and moves to a target in one step.  Without a target only the change takes
place, and no history is recorded because nothing has moved. -/
def navigate (state : GameState) (target : Option String) (choiceId : Option String)
    (change : GameState → GameState) : GameState :=
  match nonempty? target with
  | none => change state
  | some target =>
    let position := resolve target state.currentSceneId
    { change state with
      currentSceneId := position.sceneId
      currentNodeId := position.nodeId
      history := state.recordHistory choiceId }

end GameState

end VisualNovel
