import VisualNovel.Proofs.Transitions

/-! What a host can do with a playthrough, and all that a single action can come to. An action
first completes the state and then arrives at a node: `act_step` tells the two parts apart for
every action, and `enter_entry` lists what an arrival can do. What is said of a playthrough later on
follows from these two; only where two playthroughs are compared are the actions opened again. -/
namespace VisualNovel

/-- Everything that a host can do with a playthrough. -/
inductive Action where
  | start (name : String)
  | advance
  | choose (choiceId : String)
  | submit (value : String)
  | beginGrading (value : String)
  | finishGrading (ticket : Ticket) (result : GradingResult)
  | cancelGrading
  | restart
  | load (state : GameState)
  | showFeedback (visible : Bool)
  deriving DecidableEq

/-- An action by which the player goes on. -/
def Action.GoesOn : Action → Prop
  | .start _ | .advance | .choose _ | .submit _ | .beginGrading _ => True
  | .finishGrading _ _ | .cancelGrading | .restart | .load _ | .showFeedback _ => False

/-- What an action that is carried out is answered with. -/
inductive Answer where
  | done
  | ticket (ticket : Ticket)
  | verdict (applied : Bool)
  deriving DecidableEq

/-- The answer to an action that has led to a node. -/
def Action.answer : Action → Answer
  | .finishGrading _ _ => .verdict true
  | _ => .done

/-- Puts the outcome of an action into another form. -/
def Turn.map {α β : Type} (turn : Turn α) (f : α → β) : Turn β :=
  ⟨turn.outcome.map f, turn.engine⟩

@[simp] theorem Turn.as_engine {α β : Type} (turn : Turn α) (value : β) :
    (turn.as value).engine = turn.engine := rfl

@[simp] theorem Turn.as_outcome_ok {α β : Type} (turn : Turn α) (value other : β) :
    (turn.as value).outcome = .ok other ↔ (∃ came, turn.outcome = .ok came) ∧ value = other := by
  obtain ⟨outcome, engine⟩ := turn
  cases outcome <;> simp [Turn.as, Except.map]

@[simp] theorem Turn.as_outcome_error {α β : Type} (turn : Turn α) (value : β) (fault : Fault) :
    (turn.as value).outcome = .error fault ↔ turn.outcome = .error fault := by
  obtain ⟨outcome, engine⟩ := turn
  cases outcome <;> simp [Turn.as, Except.map]

@[simp] theorem Turn.andThen_outcome {α : Type} (turn : Turn α) (change : Engine → Engine) :
    (turn.andThen change).outcome = turn.outcome := by
  obtain ⟨outcome, engine⟩ := turn
  cases outcome <;> rfl

theorem Turn.map_as {α β γ : Type} (turn : Turn α) (value : β) (f : β → γ) :
    (turn.as value).map f = turn.as (f value) := by
  obtain ⟨outcome, engine⟩ := turn
  cases outcome <;> rfl

namespace Engine

/-- Carries out an action. -/
def act (engine : Engine) : Action → Turn Answer
  | .start name => (engine.start name).as .done
  | .advance => engine.advance.as .done
  | .choose choiceId => (engine.choose choiceId).as .done
  | .submit value => (engine.submit value).as .done
  | .beginGrading value => (engine.beginGrading value).map .ticket
  | .finishGrading ticket result => (engine.finishGrading ticket result).map .verdict
  | .cancelGrading => ⟨.ok .done, engine.cancelGrading⟩
  | .restart => engine.restart.as .done
  | .load state => ⟨.ok .done, engine.load state⟩
  | .showFeedback visible => ⟨.ok .done, engine.showFeedback visible⟩

/-! ## Arrivals -/

/-- The node that the player is at, if there is one. -/
def node? (engine : Engine) : Option Node :=
  engine.story.node? engine.state.currentSceneId engine.state.currentNodeId

/-- Whether the player has arrived somewhere without any effects yet. -/
def Due (engine : Engine) : Prop :=
  engine.state.gameStarted = true ∧ engine.entered ≠ some engine.state.arrival

/-- The same playthrough with the current arrival on record. -/
def marked (engine : Engine) : Engine := { engine with entered := some engine.state.arrival }

/-- The playthrough once its node has been entered and has left these variables. -/
def settled (engine : Engine) (node : Node) (vars : Variables) : Engine :=
  let (playback, effects) := engine.story.entryEffects node engine.playback engine.background
  { engine.marked with
    state := { engine.state with vars }
    playback, effects
    background := effects.background
    endings := engine.endings ++ if node.body.kind = .ending then [engine.state.position] else [] }

/-- All that an arrival can come to. -/
inductive Entry (engine : Engine) : Turn Unit → Prop
  | quiet (quiet : ¬engine.Due) : Entry engine engine.done
  | nowhere (due : engine.Due) (missing : engine.node? = none) :
      Entry engine { engine.marked with effects := .still engine.background }.done
  | beyond {node : Node} (due : engine.Due) (found : engine.node? = some node)
      (sum : engine.state.vars.mutate node.setVariables node.addVariables = none) :
      Entry engine
        ⟨.error .overflow, { engine.marked with playback := (engine.playback.play node.audio).1 }⟩
  | entered {node : Node} {vars : Variables} (due : engine.Due)
      (found : engine.node? = some node)
      (sum : engine.state.vars.mutate node.setVariables node.addVariables = some vars) :
      Entry engine (engine.settled node vars).done

/-- Entering a node does one of the four things and nothing else. -/
theorem enter_entry (engine : Engine) : Entry engine engine.enter := by
  by_cases due : engine.Due
  · have unmarked : (!engine.state.gameStarted || engine.entered == some engine.state.arrival) =
        false := by
      simp [due.1, due.2]
    cases found : engine.node? with
    | none =>
      have missing := found
      unfold node? at found
      simp only [enter, unmarked, Bool.false_eq_true, ↓reduceIte, Story.currentNode_eq, found]
      exact .nowhere due missing
    | some node =>
      have present := found
      unfold node? at found
      simp only [enter, unmarked, Bool.false_eq_true, ↓reduceIte, Story.currentNode_eq, found,
        Story.applyEntry_eq]
      cases sum : engine.state.vars.mutate node.setVariables node.addVariables with
      | none => exact .beyond due present sum
      | some vars =>
        have turn := Entry.entered due present sum
        simp only [settled, Story.entryEffects] at turn ⊢
        by_cases ending : node.body.kind = .ending
        · simpa [ending, GameState.position, marked] using turn
        · simpa [ending, marked] using turn
  · have quiet : (!engine.state.gameStarted || engine.entered == some engine.state.arrival) =
        true := by
      simpa [Due, Classical.or_iff_not_imp_left] using due
    simp only [enter, quiet, ↓reduceIte]
    exact .quiet due

/-! ## Actions -/

/-- A step that is not taken while a response is being graded. -/
def onceIdle {α : Type} (engine : Engine) (step : Except Fault α) : Except Fault α :=
  if engine.pending.isSome then .error .gradingInProgress else step

theorem onceIdle_eq_ok {α : Type} {engine : Engine} {step : Except Fault α} {value : α} :
    engine.onceIdle step = .ok value ↔ engine.pending = none ∧ step = .ok value := by
  unfold onceIdle
  cases engine.pending <;> simp

theorem onceIdle_map {α β : Type} (engine : Engine) (step : Except Fault α) (f : α → β) :
    engine.onceIdle (step.map f) = (engine.onceIdle step).map f := by
  unfold onceIdle
  split <;> rfl

/-- The state that an action itself comes to, before any node is entered. -/
def completed (engine : Engine) : Action → Except Fault GameState
  | .start name =>
    if engine.state.gameStarted then .error (.inapplicable .alreadyStarted)
    else engine.story.startGame engine.state name
  | .advance => engine.onceIdle (engine.story.acknowledge engine.state)
  | .choose choiceId => engine.onceIdle (engine.story.selectChoice engine.state choiceId)
  | .submit value => engine.onceIdle (engine.story.submitInput engine.state value)
  | .beginGrading value =>
    engine.onceIdle ((engine.story.validateResponse engine.state value).map fun _ => engine.state)
  | .finishGrading ticket result =>
    if engine.pending = some ticket ∧ ticket.arrival = engine.state.arrival then
      engine.story.applyGrading engine.state ticket.userInput result
    else .ok engine.state
  | .cancelGrading => .ok engine.state
  | .restart => .ok engine.story.newGame
  | .load state => .ok state
  | .showFeedback visible => .ok { engine.state with showFeedbackScreen := visible }

/-- The music that a story starts with, and the playback after it. -/
def overture (engine : Engine) : Playback × Option AudioCommand :=
  match nonempty? engine.story.settings.defaultBgm with
  | some src => engine.playback.playBgm (.str src) (.bool true)
  | none => (engine.playback, none)

/-- The playthrough as an action leaves it for the arrival. -/
def prepared (engine : Engine) : Action → Engine
  | .start _ => { engine with playback := engine.overture.1 }
  | .finishGrading _ _ => engine.cancelGrading
  | .restart =>
    { engine with
      pending := none, playback := engine.playback.stop.1, background := none, entered := none
      effects := .still none }
  | _ => engine

/-- What is heard of an action itself, before anything that its node asks for. -/
def cue (engine : Engine) : Action → List AudioCommand
  | .start _ => engine.overture.2.toList
  | .choose _ =>
    match nonempty? engine.story.settings.clickSfx with
    | some src => [engine.playback.sfxCommand (.str src)]
    | none => []
  | .restart => engine.playback.stop.2.toList
  | _ => []

/-- The ticket for a response that is entered now. -/
def nextTicket (engine : Engine) (userInput : String) : Ticket :=
  ⟨engine.issued, engine.state.arrival, userInput⟩

/-- The playthrough once that ticket has been handed out. -/
def asking (engine : Engine) (userInput : String) : Engine :=
  { engine with pending := some (engine.nextTicket userInput), issued := engine.issued + 1 }

/-- Whether an action that is not turned down puts a completed state in place and arrives. -/
def Completes (engine : Engine) : Action → Prop
  | .start _ | .advance | .choose _ | .submit _ | .restart => True
  | .finishGrading ticket _ =>
    engine.pending = some ticket ∧ ticket.arrival = engine.state.arrival
  | .beginGrading _ | .cancelGrading | .load _ | .showFeedback _ => False

/-- All that an action can come to. -/
inductive Step (engine : Engine) : Action → Turn Answer → Prop
  | refused {action : Action} {fault : Fault}
      (other : ∀ ticket result, action ≠ .finishGrading ticket result)
      (why : engine.completed action = .error fault) : Step engine action (engine.refuse fault)
  | completed {action : Action} {carried : GameState} {turn : Turn Unit}
      (completes : engine.Completes action) (led : engine.completed action = .ok carried)
      (entry : Entry { engine.prepared action with state := carried } turn) :
      Step engine action ((turn.andThen (prependAudio (engine.cue action))).as action.answer)
  | ungraded {ticket : Ticket} {result : GradingResult} {fault : Fault}
      (waiting : engine.pending = some ticket)
      (why : engine.completed (.finishGrading ticket result) = .error fault) :
      Step engine (.finishGrading ticket result) ⟨.error fault, engine.cancelGrading⟩
  | movedOn {ticket : Ticket} {result : GradingResult} (waiting : engine.pending = some ticket)
      (moved : ticket.arrival ≠ engine.state.arrival) :
      Step engine (.finishGrading ticket result) ⟨.ok (.verdict false), engine.cancelGrading⟩
  | discarded {ticket : Ticket} {result : GradingResult} (stale : engine.pending ≠ some ticket) :
      Step engine (.finishGrading ticket result) ⟨.ok (.verdict false), engine⟩
  | handedOut {value userInput : String} {node : Node} {config : GradedConfig}
      (idle : engine.pending = none)
      (valid : engine.story.validateResponse engine.state value = .ok (node, config, userInput)) :
      Step engine (.beginGrading value)
        ⟨.ok (.ticket (engine.nextTicket userInput)), engine.asking userInput⟩
  | cancelled : Step engine .cancelGrading ⟨.ok .done, engine.cancelGrading⟩
  | loaded {state : GameState} : Step engine (.load state) ⟨.ok .done, engine.load state⟩
  | shown {visible : Bool} :
      Step engine (.showFeedback visible) ⟨.ok .done, engine.showFeedback visible⟩

theorem andThen_prepend_nil {α : Type} (turn : Turn α) :
    turn.andThen (prependAudio []) = turn := by
  obtain ⟨outcome, engine⟩ := turn
  cases outcome <;> rfl

theorem play_keeps_loudness (playback : Playback) (directive : Option AudioDirective) :
    (playback.play directive).1.sfxVolume = playback.sfxVolume ∧
      (playback.play directive).1.bgmVolume = playback.bgmVolume ∧
      (playback.play directive).1.muted = playback.muted := by
  cases directive with
  | none => exact ⟨rfl, rfl, rfl⟩
  | some directive =>
    cases kind : directive.kind with
    | sfx => simp [Playback.play, kind]
    | bgm =>
      simp only [Playback.play, kind, Playback.playBgm]
      split
      · exact ⟨rfl, rfl, rfl⟩
      · split <;> exact ⟨rfl, rfl, rfl⟩

/-- What an arrival leaves as it was. -/
structure Follows (engine after : Engine) : Prop where
  story : after.story = engine.story
  pending : after.pending = engine.pending
  issued : after.issued = engine.issued
  state : ∃ vars, after.state = { engine.state with vars }
  playback : ∃ directive, after.playback = (engine.playback.play directive).1

theorem entry_follows {engine : Engine} {turn : Turn Unit} (entry : Entry engine turn) :
    Follows engine turn.engine := by
  cases entry with
  | quiet => exact ⟨rfl, rfl, rfl, ⟨_, rfl⟩, ⟨none, rfl⟩⟩
  | nowhere => exact ⟨rfl, rfl, rfl, ⟨_, rfl⟩, ⟨none, rfl⟩⟩
  | beyond => exact ⟨rfl, rfl, rfl, ⟨_, rfl⟩, ⟨_, rfl⟩⟩
  | entered => exact ⟨rfl, rfl, rfl, ⟨_, rfl⟩, ⟨_, rfl⟩⟩

/-- Only a sum beyond the range can stop an arrival. -/
theorem entry_outcome {engine : Engine} {turn : Turn Unit} (entry : Entry engine turn) :
    turn.outcome = .ok () ∨ turn.outcome = .error .overflow := by
  cases entry with
  | quiet | nowhere | entered => exact .inl rfl
  | beyond => exact .inr rfl

theorem Follows.sfxCommand {engine after : Engine} (follows : Follows engine after) (src : Json) :
    after.playback.sfxCommand src = engine.playback.sfxCommand src := by
  obtain ⟨directive, playback⟩ := follows.playback
  simp only [playback, Playback.sfxCommand, Playback.sfxLevel, play_keeps_loudness]

/-- Commands put before those of an arrival change nothing but its effects. -/
theorem andThen_prepend_follows {turn : Turn Unit} (commands : List AudioCommand) {engine : Engine}
    (follows : Follows engine turn.engine) :
    Follows engine (turn.andThen (prependAudio commands)).engine := by
  obtain ⟨outcome, after⟩ := turn
  cases outcome with
  | ok value =>
    exact ⟨follows.story, follows.pending, follows.issued, follows.state, follows.playback⟩
  | error fault => exact follows

private theorem whenIdle_commit (engine : Engine) (next : Except Fault GameState) :
    engine.whenIdle (engine.commitResult next) = engine.commitResult (engine.onceIdle next) := by
  unfold whenIdle onceIdle
  split <;> rfl

/-- An action that puts a completed state in place is turned down or arrives. -/
private theorem completing_step (engine : Engine) (action : Action)
    (completes : engine.Completes action)
    (other : ∀ ticket result, action ≠ .finishGrading ticket result) :
    Step engine action
      (match engine.completed action with
      | .ok carried =>
        (((engine.prepared action).commit carried).andThen
          (prependAudio (engine.cue action))).as action.answer
      | .error fault => engine.refuse fault) := by
  cases led : engine.completed action with
  | ok carried => exact .completed completes led (enter_entry _)
  | error fault => exact .refused other led

private theorem start_act (engine : Engine) (name : String) :
    engine.act (.start name) =
      match engine.completed (.start name) with
      | .ok carried =>
        (((engine.prepared (.start name)).commit carried).andThen
          (prependAudio (engine.cue (.start name)))).as .done
      | .error fault => engine.refuse fault := by
  simp only [act, start, completed, prepared, cue, overture]
  split
  · rfl
  · cases engine.story.startGame engine.state name with
    | error fault => rfl
    | ok carried => cases nonempty? engine.story.settings.defaultBgm <;> rfl

private theorem choose_act (engine : Engine) (choiceId : String) :
    engine.act (.choose choiceId) =
      match engine.completed (.choose choiceId) with
      | .ok carried =>
        ((engine.commit carried).andThen (prependAudio (engine.cue (.choose choiceId)))).as .done
      | .error fault => engine.refuse fault := by
  simp only [act, choose, completed, cue, onceIdle, whenIdle]
  split
  · rfl
  · cases engine.story.selectChoice engine.state choiceId with
    | error fault => rfl
    | ok carried =>
      -- The click is taken from the playback after the arrival, which is as loud as before.
      have follows := entry_follows (enter_entry { engine with state := carried })
      simp only [commitResult, commit, Turn.andThen]
      split
      · simp only [follows.story, follows.sfxCommand]
        cases nonempty? engine.story.settings.clickSfx <;> rfl
      · rfl

/-- Going on and entering a text complete the node without anything besides. -/
private theorem plain_act {engine : Engine} {action : Action} {next : Except Fault GameState}
    (acts : engine.act action = (engine.whenIdle (engine.commitResult next)).as .done)
    (led : engine.completed action = engine.onceIdle next) (completes : engine.Completes action)
    (other : ∀ ticket result, action ≠ .finishGrading ticket result)
    (ready : engine.prepared action = engine) (silent : engine.cue action = [])
    (answer : action.answer = .done) : Step engine action (engine.act action) := by
  have step := completing_step engine action completes other
  simp only [ready, silent, answer, andThen_prepend_nil] at step
  rw [acts, whenIdle_commit, ← led]
  cases outcome : engine.completed action with
  | error fault =>
    rw [outcome] at step
    exact step
  | ok carried =>
    rw [outcome] at step
    exact step

variable {engine : Engine}

/-- A ticket is handed out if nothing is being graded and the response is taken in. -/
theorem beginGrading_eq (engine : Engine) (value : String) :
    engine.beginGrading value =
      match engine.onceIdle (engine.story.validateResponse engine.state value) with
      | .ok (_, _, userInput) => ⟨.ok (engine.nextTicket userInput), engine.asking userInput⟩
      | .error fault => engine.refuse fault := by
  simp only [beginGrading, whenIdle, onceIdle]
  split
  · rfl
  · cases engine.story.validateResponse engine.state value <;> rfl

/-- A ticket is handed out for a response that has been taken in. -/
theorem beginGrading_takes_in {value : String} {ticket : Ticket}
    (handedOut : (engine.beginGrading value).outcome = .ok ticket) :
    (engine.beginGrading value).engine = engine.asking ticket.userInput ∧
      ∃ node config, engine.story.validateResponse engine.state value =
        .ok (node, config, ticket.userInput) := by
  rw [beginGrading_eq] at handedOut ⊢
  cases checked : engine.onceIdle (engine.story.validateResponse engine.state value) with
  | error fault =>
    rw [checked] at handedOut
    cases handedOut
  | ok taken =>
    obtain ⟨node, config, userInput⟩ := taken
    rw [checked] at handedOut
    cases handedOut
    exact ⟨rfl, node, config, (onceIdle_eq_ok.mp checked).2⟩

theorem beginGrading_refused {value : String} {fault : Fault}
    (why : engine.completed (.beginGrading value) = .error fault) :
    engine.beginGrading value = engine.refuse fault := by
  rw [completed, onceIdle_map] at why
  rw [beginGrading_eq]
  cases checked : engine.onceIdle (engine.story.validateResponse engine.state value) with
  | error other =>
    rw [checked] at why
    cases why
    rfl
  | ok taken =>
    rw [checked] at why
    cases why

/-- A grade for the pending ticket is taken into the state of the node that asked for it. -/
theorem finish_pending {ticket : Ticket} {result : GradingResult}
    (waiting : engine.pending = some ticket) (still : ticket.arrival = engine.state.arrival) :
    engine.finishGrading ticket result =
      (engine.cancelGrading.commitResult
        (engine.story.applyGrading engine.state ticket.userInput result)).as true := by
  simp only [finishGrading, waiting, still, ne_eq, not_true_eq_false, ↓reduceIte]
  rfl

theorem finish_stale {ticket : Ticket} {result : GradingResult}
    (stale : engine.pending ≠ some ticket) :
    engine.finishGrading ticket result = ⟨.ok false, engine⟩ := by
  simp only [finishGrading, ne_eq, stale, not_false_eq_true, ↓reduceIte]

theorem finish_moved {ticket : Ticket} {result : GradingResult}
    (waiting : engine.pending = some ticket) (moved : ticket.arrival ≠ engine.state.arrival) :
    engine.finishGrading ticket result = ⟨.ok false, engine.cancelGrading⟩ := by
  simp only [finishGrading, ne_eq, waiting, moved, not_true_eq_false, not_false_eq_true,
    ↓reduceIte]
  rfl

private theorem finish_act {ticket : Ticket} {result : GradingResult}
    (waiting : engine.pending = some ticket) (still : ticket.arrival = engine.state.arrival) :
    Step engine (.finishGrading ticket result) (engine.act (.finishGrading ticket result)) := by
  have led : engine.completed (.finishGrading ticket result) =
      engine.story.applyGrading engine.state ticket.userInput result :=
    if_pos ⟨waiting, still⟩
  have completes : engine.Completes (.finishGrading ticket result) := ⟨waiting, still⟩
  simp only [act, finish_pending waiting still]
  cases graded : engine.story.applyGrading engine.state ticket.userInput result with
  | error fault => exact .ungraded waiting (led.trans graded)
  | ok carried =>
    have step := Step.completed completes (led.trans graded) (enter_entry _)
    simp only [cue, andThen_prepend_nil] at step
    rw [Turn.map_as]
    exact step

/-- Carrying out an action does one of the listed things and nothing else. -/
theorem act_step (engine : Engine) (action : Action) : Step engine action (engine.act action) := by
  cases action with
  | start name => exact start_act engine name ▸ completing_step _ _ trivial (by simp)
  | advance => exact plain_act rfl rfl trivial (by simp) rfl rfl rfl
  | choose choiceId => exact choose_act engine choiceId ▸ completing_step _ _ trivial (by simp)
  | submit value => exact plain_act rfl rfl trivial (by simp) rfl rfl rfl
  | beginGrading value =>
    simp only [act, beginGrading_eq]
    cases checked : engine.onceIdle (engine.story.validateResponse engine.state value) with
    | error fault =>
      exact .refused (by simp) (by rw [completed, onceIdle_map, checked]; rfl)
    | ok taken =>
      obtain ⟨idle, valid⟩ := onceIdle_eq_ok.mp checked
      exact .handedOut idle valid
  | finishGrading ticket result =>
    by_cases waiting : engine.pending = some ticket
    · by_cases still : ticket.arrival = engine.state.arrival
      · exact finish_act waiting still
      · simp only [act, finish_moved waiting still]
        exact .movedOn waiting still
    · simp only [act, finish_stale waiting]
      exact .discarded waiting
  | cancelGrading => exact .cancelled
  | restart => exact completing_step engine .restart trivial (by simp)
  | load state => exact .loaded
  | showFeedback visible => exact .shown

end Engine

end VisualNovel
