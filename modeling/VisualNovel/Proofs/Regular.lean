import VisualNovel.Proofs.Offers
import VisualNovel.Proofs.Refusals
import VisualNovel.Proofs.Standings
import VisualNovel.Server.Tools

/-! What every action on a playthrough can be relied on for. It stays in its story, and when it is
turned down there is nothing new to write: either nothing has changed, or nothing but the ticket of
a response. -/
namespace VisualNovel

namespace Engine

/-- An action that stays in its story and, when it is turned down, changes nothing. -/
structure Regular {α : Type} (action : Engine → Turn α) : Prop where
  story : ∀ engine, (action engine).engine.story = engine.story
  refuses : ∀ engine fault, (action engine).outcome = .error fault → fault.isRefusal = true →
    (action engine).engine = engine

/-- No action leads out of the story. -/
theorem step_story {engine : Engine} {action : Action} {turn : Turn Answer}
    (step : Step engine action turn) : turn.engine.story = engine.story := by
  cases step with
  | completed completes led entry =>
    have follows := andThen_prepend_follows (engine.cue action) (entry_follows entry)
    exact follows.story.trans (prepared_story engine action)
  | loaded => exact (engine.load_loaded _).story
  | refused | ungraded | movedOn | discarded | handedOut | cancelled | shown => rfl

/-- What the player does to go on is regular. -/
theorem regular_of_act {perform : Engine → Turn Unit} {action : Action} (goesOn : action.GoesOn)
    (acts : ∀ engine : Engine, engine.act action = (perform engine).as .done) : Regular perform where
  story engine := by
    have story := step_story (act_step engine action)
    rwa [acts] at story
  refuses engine fault failed refusal := by
    have refused : (engine.act action).outcome = .error fault := by
      rw [acts]
      exact Turn.as_outcome_error .. |>.mpr failed
    have unchanged := refused_unchanged goesOn refused refusal
    rwa [acts] at unchanged

theorem regular_start (name : String) : Regular fun engine => engine.start name :=
  regular_of_act (show (Action.start name).GoesOn from trivial) fun _ => rfl

theorem regular_advance : Regular advance :=
  regular_of_act (show Action.advance.GoesOn from trivial) fun _ => rfl

theorem regular_choose (choiceId : String) : Regular fun engine => engine.choose choiceId :=
  regular_of_act (show (Action.choose choiceId).GoesOn from trivial) fun _ => rfl

theorem regular_submit (value : String) : Regular fun engine => engine.submit value :=
  regular_of_act (show (Action.submit value).GoesOn from trivial) fun _ => rfl

/-- An action that is never turned down has nothing to leave as it was. -/
theorem regular_showFeedback (visible : Bool) :
    Regular fun engine => (engine.showFeedback visible).done :=
  ⟨fun _ => rfl, fun _ _ failed => nomatch failed⟩

theorem regular_done : Regular done := ⟨fun _ => rfl, fun _ _ failed => nomatch failed⟩

theorem regular_startUnlessStarted (playerName : String) :
    Regular (Backend.startUnlessStarted playerName) where
  story engine := by
    unfold Backend.startUnlessStarted
    split
    · rfl
    · exact (regular_start playerName).story engine
  refuses engine fault failed refusal := by
    unfold Backend.startUnlessStarted at failed ⊢
    split at failed
    · cases failed
    · rename_i before
      rw [if_neg before]
      exact (regular_start playerName).refuses engine fault failed refusal

/-- Nothing that is written depends on whether a grade is awaited. -/
theorem SameRecord.asking (engine : Engine) (userInput : String) :
    engine.SameRecord (engine.asking userInput) := ⟨rfl, rfl, rfl, rfl⟩

theorem SameRecord.withdraw (engine : Engine) (ticket : Ticket) :
    engine.SameRecord (engine.withdraw ticket) := by
  unfold Engine.withdraw
  split
  · exact ⟨rfl, rfl, rfl, rfl⟩
  · exact .refl engine

theorem openResponse_same (engine : Engine) (grader : Grader) (value : String) :
    engine.SameRecord (engine.openResponse grader value).engine := by
  have opens := engine.openResponse_opens grader value
  generalize engine.openResponse grader value = opened at opens
  cases opens with
  | refused => exact .refl engine
  | unwritable | asked => exact .asking engine _

theorem regular_openResponse (grader : Grader) (value : String) :
    Regular fun engine => engine.openResponse grader value where
  story engine := (engine.openResponse_same grader value).story
  refuses engine fault failed refusal := by
    have opens := engine.openResponse_opens grader value
    generalize engine.openResponse grader value = opened at opens failed
    cases opens with
    | refused => rfl
    | unwritable =>
      cases failed
      cases refusal
    | asked => cases failed

/-- A grade that is turned down uses up its ticket, and changes nothing else. -/
theorem finishGrading_refused {engine : Engine} {ticket : Ticket} {result : GradingResult}
    {why : Fault} (refused : (engine.finishGrading ticket result).outcome = .error why)
    (refusal : why.isRefusal = true) :
    (engine.finishGrading ticket result).engine = engine.cancelGrading := by
  have step := act_step engine (.finishGrading ticket result)
  have came : (engine.act (.finishGrading ticket result)).outcome = .error why := by
    simp only [act, Turn.map, refused]
    rfl
  change (engine.act (.finishGrading ticket result)).engine = _
  generalize engine.act (.finishGrading ticket result) = turn at step came ⊢
  cases step with
  | refused other => exact absurd rfl (other ticket result)
  | completed completes led entry =>
    rw [Turn.as_outcome_error, Turn.andThen_outcome] at came
    rcases entry_outcome entry with arrived | overflow
    · cases arrived.symm.trans came
    · cases overflow.symm.trans came
      cases refusal
  | ungraded => rfl
  | movedOn | discarded => cases came

/-- A response is closed within its story, and what is turned down then is not written. -/
theorem closeResponse_same (engine : Engine) (ticket : Ticket)
    (outcome : Except GradingFailure GradingResult) :
    (engine.closeResponse ticket outcome).2.story = engine.story ∧
      ∀ fault, (engine.closeResponse ticket outcome).1 = .error fault → fault.isRefusal = true →
        engine.SameRecord (engine.closeResponse ticket outcome).2 := by
  cases outcome with
  | error why =>
    have same := SameRecord.withdraw engine ticket
    exact ⟨same.story, fun _ _ _ => same⟩
  | ok result =>
    refine ⟨step_story (act_step engine (.finishGrading ticket result)), ?_⟩
    intro fault failed refusal
    simp only [closeResponse] at failed ⊢
    cases came : (engine.finishGrading ticket result).outcome with
    | ok verdict =>
      rw [came] at failed
      cases failed
    | error why =>
      rw [came] at failed
      cases failed
      rw [finishGrading_refused came refusal]
      exact ⟨rfl, rfl, rfl, rfl⟩

/-- Whether a node can be found does not depend on anything that is not written. -/
theorem view_missing_iff {engine : Engine} {sceneId nodeId : String} :
    engine.view = .error (.nodeNotFound sceneId nodeId) ↔
      engine.story.activeNode engine.state = .error (.nodeNotFound sceneId nodeId) := by
  refine ⟨view_without_node, fun missing => ?_⟩
  cases started : engine.state.gameStarted with
  | false => cases (Story.activeNode_gate started).symm.trans missing
  | true =>
    have nowhere : engine.story.currentNode engine.state = .error (.nodeNotFound sceneId nodeId) := by
      simpa [Story.activeNode, Story.requireStarted, started] using missing
    simp only [Engine.view, Story.view, started, ↓reduceIte, nowhere]
    rfl

/-- A view that is turned down is one of a node that is not there. -/
theorem view_refused {engine : Engine} {fault : Fault} (failed : engine.view = .error fault)
    (refusal : fault.isRefusal = true) : ∃ sceneId nodeId, fault = .nodeNotFound sceneId nodeId := by
  simp only [Engine.view, Story.view] at failed
  cases started : engine.state.gameStarted with
  | false => simp [started] at failed
  | true =>
    simp only [started, if_true, Outcome.bind_eq_error, Outcome.pure_ne_error, or_false,
      and_false, exists_false] at failed
    rcases failed with nowhere | ⟨node, _, unviewed⟩
    · unfold Story.currentNode at nowhere
      split at nowhere
      · cases nowhere
      · cases nowhere
        exact ⟨_, _, rfl⟩
    · cases Story.nodeView_fault unviewed
      cases refusal

theorem restart_story (engine : Engine) : engine.restart.engine.story = engine.story :=
  step_story (act_step engine .restart)

/-- Only a sum beyond the range can keep a game from beginning again. -/
theorem restart_outcome {engine : Engine} {fault : Fault}
    (failed : engine.restart.outcome = .error fault) : fault = .overflow := by
  simp only [restart, Turn.andThen_outcome] at failed
  rcases entry_outcome (enter_entry _) with came | overflow
  · cases came.symm.trans failed
  · cases overflow.symm.trans failed
    rfl

end Engine

/-- An intact playthrough without a node to show. -/
def Live.IsLost (live : Live) (sceneId nodeId : String) : Prop :=
  live.intact = true ∧ live.engine.view = .error (.nodeNotFound sceneId nodeId)

end VisualNovel
