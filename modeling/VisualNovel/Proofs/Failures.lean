import Mathlib.Control.Monad.Basic
import VisualNovel.Proofs.Arrivals

/-! What an action leaves behind that fails. One that fails by itself has changed nothing. But what
it completes is put in place before the next node is entered; if a sum of that node goes beyond the
range, the player stands at the node all the same, and whatever the action has done is done. -/
namespace VisualNovel.Engine

variable {story : Story} {engine first now : Engine} {events : List Event} {action : Action}
  {carried : GameState} {fault : Fault}

/-- What an action has left behind that has failed with a fault. -/
inductive Failed (engine : Engine) (action : Action) (now : Engine) : Fault → Prop
  | byItself {fault : Fault} (why : engine.completed action = .error fault)
      (kept : now.state = engine.state) : Failed engine action now fault
  | arriving {carried : GameState} {node : Node} (led : engine.completed action = .ok carried)
      (moved : now.state = carried) (arrives : action.Arrives engine.state carried)
      (found : now.node? = some node)
      (sum : carried.vars.mutate node.setVariables node.addVariables = none) :
      Failed engine action now .overflow

theorem step_failed {turn : Turn Answer} (sound : Sound story engine)
    (step : Step engine action turn) (failed : turn.outcome = .error fault) :
    Failed engine action turn.engine fault := by
  cases step with
  | refused _ why | ungraded _ why =>
    cases failed
    exact .byItself why rfl
  | movedOn | discarded | handedOut | cancelled | loaded | shown => cases failed
  | completed completes led entry =>
    rw [Turn.as_outcome_error, Turn.andThen_outcome] at failed
    -- Once a state has been completed, nothing but the entry of its node can fail.
    have due := due_iff_arrives sound completes led
    cases entry with
    | quiet | nowhere | entered => cases failed
    | beyond arrived found sum =>
      cases failed
      exact .arriving led rfl (due.mp arrived) found sum

/-- Whoever arrives somewhere, other than by beginning again, is not where they were before. -/
theorem arrival_differs (led : engine.completed action = .ok carried)
    (arrives : action.Arrives engine.state carried) (once : action ≠ .restart) :
    carried ≠ engine.state := by
  intro same
  cases action with
  | start name =>
    simp only [completed] at led
    split at led
    · cases led
    · rename_i gate
      obtain ⟨_, _, rfl⟩ := Story.startGame_eq_ok.mp led
      exact gate (congrArg GameState.gameStarted same).symm
  | restart => exact once rfl
  | load => exact arrives
  | _ =>
    obtain ⟨entry, history⟩ := arrives
    simp [same] at history

/-- The state is as it was before exactly if the action has failed by itself. -/
theorem Failed.kept_iff (failed : Failed engine action now fault) (once : action ≠ .restart) :
    now.state = engine.state ↔ engine.completed action = .error fault := by
  cases failed with
  | byItself why kept => exact iff_of_true kept why
  | arriving led moved arrives =>
    refine iff_of_false (fun kept => ?_) fun why => ?_
    · exact arrival_differs led arrives once (moved.symm.trans kept)
    · cases led.symm.trans why

/-- At every moment of every playthrough, an action that fails leaves the state as it was if it
fails by itself, and leaves the completed state if it is the arrival that fails. -/
theorem failures_undo_nothing_completed (opening : Opening story first)
    (played : Played first events engine) (failed : (engine.act action).outcome = .error fault) :
    Failed engine action (engine.act action).engine fault ∧
      (action ≠ .restart →
        ((engine.act action).engine.state = engine.state ↔
          engine.completed action = .error fault)) := by
  have left := step_failed (played_sound opening played) (act_step engine action) failed
  exact ⟨left, left.kept_iff⟩

/-- A story whose second node adds a half to an integer that is too large for it. -/
def hoard : Story :=
  { Story.lone (.bare "gate" .narration) with
    scenes :=
      [⟨"scene", "Scene", "gate", [{ Node.bare "gate" .narration with nextNodeId := some "vault" },
          { Node.bare "vault" .ending with
            addVariables := some (.ofList [("gold", .float (.ofUnits false Binary64.one 2))]) }]⟩]
    vars := .ofList [("gold", .number (.int (Int.pow 10 400)))] }

/-- The player before the gate. -/
def treasurer : Engine := (begin hoard .standard none).engine

/-- The vault fails the player who goes on, and yet the player is in it. -/
theorem treasurer_fails_inside :
    Failed treasurer .advance (treasurer.act .advance).engine .overflow ∧
      (treasurer.act .advance).engine.state.position = ⟨"scene", "vault"⟩ :=
  ⟨(failures_undo_nothing_completed (.fresh rfl) .opened (by decide +kernel)).1, by decide +kernel⟩

/-- Not every action that fails leaves the state as it was. -/
theorem failures_may_change_the_state :
    ¬∀ (story : Story) (first engine : Engine) (events : List Event) (action : Action)
      (fault : Fault), Opening story first → Played first events engine → action ≠ .restart →
        (engine.act action).outcome = .error fault →
          (engine.act action).engine.state = engine.state := by
  intro kept
  have same := kept hoard treasurer treasurer [] .advance .overflow (.fresh rfl) .opened
    (by decide) (by decide +kernel)
  have moved : (treasurer.act .advance).engine.state.currentNodeId = "vault" := by decide +kernel
  rw [same] at moved
  exact absurd moved (by decide +kernel)

end VisualNovel.Engine
