import VisualNovel.Calls.Engine
import VisualNovel.Grading.Response
import VisualNovel.Proofs.Runs

/-! What is turned down changes nothing. An action is turned down before anything is put in place,
and a response that is not graded gives its ticket back. A sum beyond the range is no refusal: it
is found out only on arrival, after the player has moved. -/
namespace VisualNovel

/-- Whether a response has been turned down: by the story, for its text, or because there is no
model to ask. -/
def ResponseFault.isRefusal : ResponseFault → Bool
  | .refused why => why.isRefusal
  | .ungraded (.rejected _) | .ungraded (.unconfigured _) => true
  | .ungraded _ => false

namespace Grading

/-- What every reply of a model leaves alone, a whole grading leaves alone. -/
theorem run_keeps {Model : Type} (reply : String → Model → Reply × Model) (kept : Model → Prop)
    (keeps : ∀ prompt model, kept model → kept (reply prompt model).2) (grading : Grading) :
    ∀ model, kept model → kept (grading.run reply model).2 := by
  induction grading with
  | done outcome => exact fun _ holds => holds
  | ask prompt next ih =>
    intro model holds
    exact ih (reply prompt model).1 _ (keeps prompt model holds)

end Grading

namespace Engine

/-- The parts of a playthrough that can be observed are as they were. -/
structure Untouched (engine now : Engine) : Prop where
  state : now.state = engine.state
  pending : now.pending = engine.pending
  playback : now.playback = engine.playback
  background : now.background = engine.background
  effects : now.effects = engine.effects
  entered : now.entered = engine.entered

theorem Untouched.refl (engine : Engine) : Untouched engine engine := ⟨rfl, rfl, rfl, rfl, rfl, rfl⟩

/-- However a playthrough is asked to go on, it is untouched if that is turned down. -/
structure RefusesCleanly (engine : Engine) : Prop where
  /-- Actions, by what the player enters. -/
  acting : ∀ action fault, action.GoesOn → (engine.act action).outcome = .error fault →
    fault.isRefusal = true → Untouched engine (engine.act action).engine
  /-- The same actions, by any documents in place of texts. -/
  starting : ∀ document fault, (engine.entering engine.start document).1 = .error (.fault fault) →
    fault.isRefusal = true → Untouched engine (engine.entering engine.start document).2
  submitting : ∀ document fault,
    (engine.entering engine.submit document).1 = .error (.fault fault) →
      fault.isRefusal = true → Untouched engine (engine.entering engine.submit document).2
  asking : ∀ document fault,
    (engine.entering engine.beginGrading document).1 = .error (.fault fault) →
      fault.isRefusal = true → Untouched engine (engine.entering engine.beginGrading document).2
  choosing : ∀ document fault, (engine.choosing document).1 = .error (.fault fault) →
    fault.isRefusal = true → Untouched engine (engine.choosing document).2
  /-- Whole responses, as long as nothing is done to the playthrough while the model is asked. -/
  responding : ∀ (Model : Type) (grader : Grader) value
    (reply : String → Engine × Model → Reply × (Engine × Model)) (model after : Model) fault now,
    (∀ prompt world, (reply prompt world).2.1 = world.1) →
      engine.respond grader value reply model = (.error fault, now, after) →
        fault.isRefusal = true → Untouched engine now
  /-- Documents that stand for no state. -/
  loading : ∀ document first more, (engine.loadDocument document).1 = .invalid first more →
    Untouched engine (engine.loadDocument document).2

variable {engine : Engine}

/-- An action that is turned down leaves everything as it was. -/
theorem refused_unchanged {action : Action} {fault : Fault} (goesOn : action.GoesOn)
    (refused : (engine.act action).outcome = .error fault) (refusal : fault.isRefusal = true) :
    (engine.act action).engine = engine := by
  have step := act_step engine action
  generalize engine.act action = turn at step refused ⊢
  cases step with
  | refused => rfl
  | completed completes led entry =>
    -- Once a state is in place, only a sum beyond the range can fail.
    rw [Turn.as_outcome_error, Turn.andThen_outcome] at refused
    rcases entry_outcome entry with came | overflow
    · cases came.symm.trans refused
    · cases overflow.symm.trans refused
      cases refusal
  | ungraded | movedOn | discarded | loaded | cancelled | shown => exact goesOn.elim
  | handedOut => cases refused

/-- What opening a response can come to: it is turned down at once, or has a ticket handed out for
it, and then is asked about if the situation can be written out. -/
inductive Opens (engine : Engine) (value : String) : Turn (Ticket × Grading) → Prop
  | refused {fault : Fault} (why : engine.completed (.beginGrading value) = .error fault) :
      Opens engine value (engine.refuse fault)
  | unwritable {node : Node} {config : GradedConfig} {userInput : String}
      (idle : engine.pending = none)
      (valid : engine.story.validateResponse engine.state value = .ok (node, config, userInput))
      (tooLong : Interpolation.isWritable config.context engine.state.vars = false) :
      Opens engine value ⟨.error .unwritable, engine.asking userInput⟩
  | asked {node : Node} {config : GradedConfig} {userInput : String} {grading : Grading}
      (idle : engine.pending = none)
      (valid : engine.story.validateResponse engine.state value = .ok (node, config, userInput))
      (writable : Interpolation.isWritable config.context engine.state.vars = true) :
      Opens engine value ⟨.ok (engine.nextTicket userInput, grading), engine.asking userInput⟩

theorem openResponse_opens (engine : Engine) (grader : Grader) (value : String) :
    Opens engine value (engine.openResponse grader value) := by
  unfold openResponse
  rw [beginGrading_eq]
  cases checked : engine.onceIdle (engine.story.validateResponse engine.state value) with
  | error fault => exact .refused (by rw [completed, onceIdle_map, checked]; rfl)
  | ok taken =>
    obtain ⟨node, config, userInput⟩ := taken
    obtain ⟨idle, valid⟩ := onceIdle_eq_ok.mp checked
    -- The second check cannot fail: the text has lost its white space already.
    have again : (engine.asking userInput).story.validateResponse (engine.asking userInput).state
        (engine.nextTicket userInput).userInput = .ok (node, config, userInput) :=
      Story.validateResponse_again valid
    simp only [again]
    cases writable :
        Interpolation.isWritable config.context (engine.asking userInput).state.vars with
    | true => exact .asked idle valid writable
    | false => exact .unwritable idle valid writable

/-- A grading that is turned down gives the ticket back and does nothing else. -/
theorem closeResponse_gives_back {ticket : Ticket} {now : Engine} {fault : ResponseFault}
    {outcome : Except GradingFailure GradingResult} (waiting : engine.pending = some ticket)
    (awaits : engine.Awaits ticket)
    (refused : engine.closeResponse ticket outcome = (.error fault, now))
    (refusal : fault.isRefusal = true) : now = engine.cancelGrading := by
  cases outcome with
  | error why =>
    simp only [closeResponse, withdraw, waiting, ↓reduceIte] at refused
    cases refused
    rfl
  | ok result =>
    simp only [closeResponse] at refused
    rcases finish_counts waiting awaits result with counted | overflow
    · rw [counted] at refused
      cases refused
    · rw [overflow] at refused
      cases refused
      cases refusal

/-- A response that is turned down leaves everything as it was, unless the model has acted. -/
theorem respond_untouched {Model : Type} {grader : Grader} {value : String}
    {reply : String → Engine × Model → Reply × (Engine × Model)} {model after : Model}
    {fault : ResponseFault} {now : Engine}
    (idle : ∀ prompt world, (reply prompt world).2.1 = world.1)
    (refused : engine.respond grader value reply model = (.error fault, now, after))
    (refusal : fault.isRefusal = true) : Untouched engine now := by
  have opens := engine.openResponse_opens grader value
  rw [respond] at refused
  generalize engine.openResponse grader value = opened at opens refused
  cases opens with
  | refused =>
    cases refused
    exact .refl engine
  | unwritable =>
    cases refused
    cases refusal
  | @asked node config userInput grading unasked valid =>
    -- The model finds the playthrough with the ticket handed out, and leaves it like that.
    have kept := grading.run_keeps reply (fun world => world.1 = engine.asking userInput)
      (fun prompt world same => (idle prompt world).trans same) (engine.asking userInput, model) rfl
    dsimp only at refused
    generalize grading.run reply (engine.asking userInput, model) = answered at refused kept
    obtain ⟨outcome, asked, final⟩ := answered
    dsimp only at kept refused
    subst kept
    generalize closing : (engine.asking userInput).closeResponse (engine.nextTicket userInput)
      outcome = closed at refused
    obtain ⟨told, given⟩ := closed
    cases refused
    cases closeResponse_gives_back rfl (handed_out_awaits valid) closing refusal
    exact ⟨rfl, unasked.symm, rfl, rfl, rfl, rfl⟩

/-- A fault of an action comes out of it unchanged. -/
theorem plainly_eq_fault {α : Type} {turn : Turn α} {fault : Fault}
    (failed : (plainly turn).1 = .error (.fault fault)) : turn.outcome = .error fault := by
  obtain ⟨outcome, now⟩ := turn
  cases outcome with
  | ok value => cases failed
  | error why => cases failed; rfl

/-- An action by a document that is no text changes nothing. -/
theorem entering_untouched {α : Type} {action : String → Turn α} {document : Json} {fault : Fault}
    (kept : ∀ value, (action value).outcome = .error fault → (action value).engine = engine)
    (refused : (engine.entering action document).1 = .error (.fault fault)) :
    Untouched engine (engine.entering action document).2 := by
  cases document with
  | str value =>
    change Untouched engine (action value).engine
    rw [kept value (plainly_eq_fault refused)]
    exact .refl engine
  | _ =>
    simp only [entering]
    split <;> exact .refl engine

/-- Nor does a choice by a document that is no text. -/
theorem choosing_untouched {document : Json} {fault : Fault}
    (kept : ∀ choiceId, (engine.choose choiceId).outcome = .error fault →
      (engine.choose choiceId).engine = engine)
    (refused : (engine.choosing document).1 = .error (.fault fault)) :
    Untouched engine (engine.choosing document).2 := by
  cases document with
  | str choiceId =>
    change Untouched engine (engine.choose choiceId).engine
    rw [kept choiceId (plainly_eq_fault refused)]
    exact .refl engine
  | _ =>
    simp only [choosing, plainly, whenIdle]
    split <;> exact .refl engine

/-- A document that stands for no state is not loaded. -/
theorem loadDocument_untouched {document : Json} {first : Schema.Issue} {more : List Schema.Issue}
    (invalid : (engine.loadDocument document).1 = .invalid first more) :
    Untouched engine (engine.loadDocument document).2 := by
  unfold loadDocument at invalid ⊢
  split at invalid
  · cases invalid
  · exact .refl engine

/-- Whatever is turned down, at any moment of any playthrough, leaves the playthrough untouched. -/
theorem refusals_leave_untouched (engine : Engine) : RefusesCleanly engine := by
  have unchanged (action : Action) (fault : Fault) (goesOn : action.GoesOn)
      (refusal : fault.isRefusal = true) (refused : (engine.act action).outcome = .error fault) :
      (engine.act action).engine = engine :=
    refused_unchanged goesOn refused refusal
  constructor
  case acting =>
    intro action fault goesOn refused refusal
    rw [unchanged action fault goesOn refusal refused]
    exact .refl engine
  case starting =>
    intro document fault refused refusal
    refine entering_untouched (fun value failed => ?_) refused
    exact unchanged (.start value) fault trivial refusal (Turn.as_outcome_error .. |>.mpr failed)
  case submitting =>
    intro document fault refused refusal
    refine entering_untouched (fun value failed => ?_) refused
    exact unchanged (.submit value) fault trivial refusal (Turn.as_outcome_error .. |>.mpr failed)
  case asking =>
    intro document fault refused refusal
    refine entering_untouched (fun value failed => ?_) refused
    have refused : (engine.act (.beginGrading value)).outcome = .error fault := by
      simp only [act, Turn.map, failed]
      rfl
    exact unchanged (.beginGrading value) fault trivial refusal refused
  case choosing =>
    intro document fault refused refusal
    refine choosing_untouched (fun choiceId failed => ?_) refused
    exact unchanged (.choose choiceId) fault trivial refusal
      (Turn.as_outcome_error .. |>.mpr failed)
  case responding =>
    exact fun _ _ _ _ _ _ _ _ idle refused refusal => respond_untouched idle refused refusal
  case loading => exact fun _ _ _ invalid => loadDocument_untouched invalid

end Engine

end VisualNovel
