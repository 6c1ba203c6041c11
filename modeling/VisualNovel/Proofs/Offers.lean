import VisualNovel.Playthrough.View
import VisualNovel.Proofs.Refusals

/-! What the player is shown and what the player can do. A view is computed without trying any
action, and an action without looking at the view; both are told here from the body of the current
node, so that whoever reads the view knows which actions are accepted. That a response is being
graded makes no difference to anything but the request for another grade, because it is waited for
only at a node that offers nothing else. -/
namespace VisualNovel

/-- What is listed of a choice. -/
def Choice.listed (state : GameState) (choice : Choice) : ChoiceView :=
  ⟨choice.id, Story.shown state choice.text⟩

/-- What a view says of how the player can go on from a node. -/
def NodeView.Asks (view : NodeView) (state : GameState) (pending : Bool) : NodeBody → Prop
  | .choice choices => ∃ available, Story.availableChoices state.vars choices = .ok available ∧
    view.choices = available.map (Choice.listed state) ∧ view.input = none
  | .input config => view.choices = [] ∧ view.input =
    some ⟨false, config.placeholder, config.minLength, config.maxLength, config.inputKind, false⟩
  | .graded config => view.choices = [] ∧ view.input =
    some ⟨true, config.placeholder, config.minLength, config.maxLength, .text, pending⟩
  | .dialogue | .narration | .ending => view.choices = [] ∧ view.input = none

namespace Story

variable {story : Story} {state : GameState} {node : Node} {background : Option String}
  {pending : Bool}

theorem nodeView_asks {view : NodeView}
    (viewed : story.nodeView state background pending node = .ok view) :
    view.kind = node.body.kind ∧ view.Asks state pending node.body := by
  simp only [nodeView] at viewed
  cases body : node.body with
  | choice choices =>
    simp only [body, Outcome.bind_eq_ok, Outcome.pure_eq_ok] at viewed
    obtain ⟨available, offered, rfl⟩ := viewed
    exact ⟨congrArg NodeBody.kind body, available, offered, rfl, rfl⟩
  | _ =>
    simp only [body, Outcome.pure_eq_ok] at viewed
    subst viewed
    exact ⟨congrArg NodeBody.kind body, rfl, rfl⟩

theorem nodeView_fault {fault : Fault}
    (failed : story.nodeView state background pending node = .error fault) :
    fault = .overflow := by
  simp only [nodeView] at failed
  cases body : node.body with
  | choice choices =>
    simp only [body, Outcome.bind_eq_error, Outcome.pure_ne_error, and_false, exists_false,
      or_false] at failed
    exact availableChoices_fault failed
  | _ => simp only [body, Outcome.pure_ne_error] at failed

/-- Where a node is shown, only its kind can keep choices from being offered. -/
theorem offeredChoices_fault {view : NodeView} {fault : Fault}
    (active : story.activeNode state = .ok node)
    (viewed : story.nodeView state background pending node = .ok view)
    (failed : story.offeredChoices state = .error fault) : fault.isRefusal = true := by
  have asks := (nodeView_asks viewed).2
  simp only [offeredChoices, Outcome.bind_eq_error, active, reduceCtorEq, false_or,
    Except.ok.injEq, exists_eq_left'] at failed
  cases body : node.body with
  | choice choices =>
    rw [body] at asks failed
    obtain ⟨available, offered, _⟩ := asks
    cases offered.symm.trans failed
  | _ =>
    rw [body] at failed
    cases failed
    rfl

end Story

namespace Engine

variable {story : Story} {engine first : Engine} {events : List Event} {node : Node}

/-! ## Views -/

/-- The player sees a node. -/
structure Shows (engine : Engine) (node : Node) (shown : NodeView) : Prop where
  started : engine.state.gameStarted = true
  found : engine.node? = some node
  viewed : engine.story.nodeView engine.state engine.background engine.pending.isSome node =
    .ok shown

theorem Shows.active {shown : NodeView} (shows : engine.Shows node shown) :
    engine.story.activeNode engine.state = .ok node :=
  Story.activeNode_eq_ok.mpr ⟨shows.started, shows.found⟩

/-- Before the game has started a name is asked for, and afterwards the current node is shown. -/
theorem view_eq_ok {view : View} :
    engine.view = .ok view ↔
      (engine.state.gameStarted = false ∧ view = ⟨engine.state.position,
          .nameEntry engine.story.nameEntryView, engine.state.showFeedbackScreen⟩) ∨
        ∃ node shown, engine.Shows node shown ∧
          view = ⟨engine.state.position, .node shown, engine.state.showFeedbackScreen⟩ := by
  have split (node : Node) (shown : NodeView) : engine.Shows node shown ↔
      engine.state.gameStarted = true ∧ engine.node? = some node ∧
        engine.story.nodeView engine.state engine.background engine.pending.isSome node =
          .ok shown :=
    ⟨fun shows => ⟨shows.started, shows.found, shows.viewed⟩,
      fun ⟨started, found, viewed⟩ => ⟨started, found, viewed⟩⟩
  simp only [Engine.view, Story.view, node?, split]
  cases engine.state.gameStarted <;> simp [eq_comm (a := view), and_assoc]

/-- If the view is without a node, so is the player. -/
theorem view_without_node {sceneId nodeId : String}
    (missing : engine.view = .error (.nodeNotFound sceneId nodeId)) :
    engine.story.activeNode engine.state = .error (.nodeNotFound sceneId nodeId) := by
  simp only [Engine.view, Story.view] at missing
  cases started : engine.state.gameStarted with
  | false => simp [started] at missing
  | true =>
    simp only [started, if_true, Outcome.bind_eq_error, Outcome.pure_ne_error, or_false,
      and_false, exists_false] at missing
    rcases missing with nowhere | ⟨node, _, failed⟩
    · simp [Story.activeNode, Story.requireStarted, started, nowhere]
    · cases Story.nodeView_fault failed

/-! ## Acceptance -/

/-- An action is accepted if nothing is refused; a sum beyond the range may still stop it. -/
def Accepts (engine : Engine) (action : Action) : Prop := Unrefused (engine.act action).outcome

/-- Whether an action is accepted is decided before anything is put in place. -/
theorem accepts_iff (action : Action) (goesOn : action.GoesOn) :
    engine.Accepts action ↔ Unrefused (engine.completed action) := by
  unfold Accepts
  have step := act_step engine action
  generalize engine.act action = turn at step ⊢
  cases step with
  | refused other why => simp [refuse, why]
  | completed completes led entry =>
    rename_i carried turn
    rw [led]
    refine iff_of_true (fun fault failed => ?_) (unrefused_ok _)
    rw [Turn.as_outcome_error, Turn.andThen_outcome] at failed
    rcases entry_outcome entry with came | overflow
    · cases came.symm.trans failed
    · cases overflow.symm.trans failed
      rfl
  | ungraded | movedOn | discarded | loaded | cancelled | shown => exact goesOn.elim
  | handedOut idle valid =>
    refine iff_of_true (unrefused_ok _) ?_
    simp [completed, onceIdle, idle, valid, Except.map]

theorem unrefused_onceIdle {α : Type} {step : Except Fault α} :
    Unrefused (engine.onceIdle step) ↔ engine.pending = none ∧ Unrefused step := by
  unfold onceIdle
  cases engine.pending <;> simp [Fault.isRefusal]

/-- Only where a response is graded can one be waited for. -/
theorem idle_unless_graded (sound : Sound story engine) (found : engine.node? = some node)
    (ungraded : ∀ config, node.body ≠ .graded config) : engine.pending = none := by
  cases waiting : engine.pending with
  | none => rfl
  | some ticket =>
    obtain ⟨other, config, there, graded⟩ := (sound.awaits ticket waiting).graded
    cases found.symm.trans there
    exact absurd graded (ungraded config)

/-- Without an active node, nothing is waited for. -/
theorem idle_unless_active {why : Fault} (sound : Sound story engine)
    (inactive : engine.story.activeNode engine.state = .error why) : engine.pending = none := by
  cases waiting : engine.pending with
  | none => rfl
  | some ticket =>
    have awaits := sound.awaits ticket waiting
    obtain ⟨node, _, found, _⟩ := awaits.graded
    cases inactive.symm.trans (Story.activeNode_eq_ok.mpr ⟨awaits.started, found⟩)

/-! ## Where there is no active node -/

/-- However the player tries to go on with the story, it is turned down for the same reason. -/
structure TurnsDown (engine : Engine) (why : Fault) : Prop where
  acting : ∀ action, action.GoesOn → (∀ name, action ≠ .start name) →
    engine.act action = engine.refuse why
  /-- The same actions, by any documents in place of texts. -/
  choosing : ∀ document, engine.choosing document = (.error (.fault why), engine)
  submitting : ∀ document, engine.entering engine.submit document = (.error (.fault why), engine)
  asking : ∀ document,
    engine.entering engine.beginGrading document = (.error (.fault why), engine)

theorem inactive_turns_down {why : Fault} (sound : Sound story engine)
    (inactive : engine.story.activeNode engine.state = .error why) : engine.TurnsDown why := by
  have idle := idle_unless_active sound inactive
  obtain ⟨acknowledge, select, submit, validate⟩ := Story.steps_inactive inactive
  have advances : engine.advance = engine.refuse why := by
    simp only [Engine.advance, whenIdle, idle, acknowledge]
    rfl
  have chooses (choiceId : String) : engine.choose choiceId = engine.refuse why := by
    simp only [Engine.choose, whenIdle, idle, select]
    rfl
  have submits (value : String) : engine.submit value = engine.refuse why := by
    simp only [Engine.submit, whenIdle, idle, submit]
    rfl
  have asks (value : String) : engine.beginGrading value = engine.refuse why := by
    simp only [Engine.beginGrading, whenIdle, idle, validate]
    rfl
  -- A document that is no text is never looked at, as there is nothing to enter it for.
  have entered {α : Type} {action : String → Turn α}
      (refuses : ∀ value, action value = engine.refuse why) (document : Json) :
      engine.entering action document = (.error (.fault why), engine) := by
    cases document with
    | str value =>
      simp only [entering, refuses]
      rfl
    | _ =>
      simp only [entering, refuses, refuse]
      rcases Story.activeNode_fault inactive with rfl | rfl <;> rfl
  constructor
  case acting =>
    intro action goesOn other
    cases action with
    | start name => exact absurd rfl (other name)
    | advance => simp only [act, advances]; rfl
    | choose choiceId => simp only [act, chooses]; rfl
    | submit value => simp only [act, submits]; rfl
    | beginGrading value => simp only [act, asks]; rfl
    | finishGrading | cancelGrading | restart | load | showFeedback => exact goesOn.elim
  case choosing =>
    intro document
    cases document with
    | str choiceId =>
      simp only [choosing, chooses]
      rfl
    | _ =>
      simp only [choosing, whenIdle, idle, Story.unnamed, Story.offeredChoices, inactive]
      rfl
  case submitting => exact entered submits
  case asking => exact entered asks

/-! ## At a node -/

/-- A choice has been taken: its changes are made and its way is gone, and the node that this leads
to may change variables further. -/
def Takes (engine : Engine) (choice : Choice) (now : Engine) : Prop :=
  ∃ vars entered, engine.state.vars.mutate choice.setVariables choice.addVariables = some vars ∧
    now.state = { engine.state.navigate (some choice.nextNodeId) (some choice.id)
      (fun left => { left with vars }) with vars := entered }

/-- What the screen that asks for a name tells the player. -/
structure OffersStart (engine : Engine) (asked : NameEntryView) : Prop where
  start : ∀ name, engine.Accepts (.start name) ↔
    asked.minLength ≤ strippedLength name ∧ strippedLength name ≤ asked.maxLength
  nothingElse : engine.TurnsDown (.inapplicable .notStarted)

/-- What the screen of a node tells the player. -/
structure OffersWay (engine : Engine) (node : Node) (shown : NodeView) : Prop where
  /-- A game that is being played cannot be started. -/
  start : ∀ name, engine.act (.start name) = engine.refuse (.inapplicable .alreadyStarted)
  advance : engine.Accepts .advance ↔ shown.kind.isInteractive = false
  choose : ∀ choiceId, engine.Accepts (.choose choiceId) ↔ choiceId ∈ shown.choices.map (·.id)
  /-- Of the choices that are listed, the first one with the given id is taken. -/
  takes : ∀ choiceId answer, (engine.act (.choose choiceId)).outcome = .ok answer →
    ∃ choices available choice, node.body = .choice choices ∧
      Story.availableChoices engine.state.vars choices = .ok available ∧
      shown.choices = available.map (Choice.listed engine.state) ∧
      available.find? (fun choice => choice.id == choiceId) = some choice ∧
      engine.Takes choice (engine.act (.choose choiceId)).engine
  /-- What is no text is the id of no choice. -/
  chooseNothing : ∀ document, (∀ choiceId, document ≠ .str choiceId) →
    ∃ fault, fault.isRefusal = true ∧ engine.choosing document = (.error (.fault fault), engine)
  submit : ∀ value, engine.Accepts (.submit value) ↔
    (∃ field, shown.input = some field ∧ field.graded = false) ∧
      ∃ config, node.body = .input config ∧ Unrefused ((TextRule.ofInput config).check value)
  /-- A text that is not found right in some other way is not entered either. -/
  submitFails : ∀ value config fault, node.body = .input config →
    (TextRule.ofInput config).check value = .error fault →
      engine.act (.submit value) = engine.refuse fault
  beginGrading : ∀ value, engine.Accepts (.beginGrading value) ↔
    ∃ field, shown.input = some field ∧ field.graded = true ∧ field.pending = false ∧
      field.minLength ≤ strippedLength value ∧ strippedLength value ≤ field.maxLength

/-- A view tells which actions are accepted. -/
structure ViewTells (engine : Engine) : Prop where
  atGate : ∀ view asked, engine.view = .ok view → view.screen = .nameEntry asked →
    engine.OffersStart asked
  atNode : ∀ view shown, engine.view = .ok view → view.screen = .node shown →
    ∃ node, engine.node? = some node ∧ engine.OffersWay node shown
  nowhere : ∀ sceneId nodeId, engine.view = .error (.nodeNotFound sceneId nodeId) →
    engine.TurnsDown (.nodeNotFound sceneId nodeId)

theorem gate_offers_start (sound : Sound story engine) (gate : engine.state.gameStarted = false) :
    engine.OffersStart engine.story.nameEntryView where
  start name := by
    rw [accepts_iff (.start name) trivial]
    simp only [completed, gate, Bool.false_eq_true, if_false, Story.unrefused_startGame,
      Story.nameEntryView]
  nothingElse := inactive_turns_down sound (Story.activeNode_gate gate)

/-- A choice that an action has taken is the first one that is offered under its id. -/
theorem choose_takes {choiceId : String} {answer : Answer}
    (came : (engine.act (.choose choiceId)).outcome = .ok answer) :
    ∃ node, engine.node? = some node ∧ ∃ choices, node.body = .choice choices ∧
      ∃ available, Story.availableChoices engine.state.vars choices = .ok available ∧
        ∃ choice, available.find? (fun choice => choice.id == choiceId) = some choice ∧
          engine.Takes choice (engine.act (.choose choiceId)).engine := by
  have step := act_step engine (.choose choiceId)
  generalize engine.act (.choose choiceId) = turn at step came ⊢
  cases step with
  | refused => cases came
  | completed completes led entry =>
    rename_i carried turn
    have follows := andThen_prepend_follows (engine.cue (.choose choiceId)) (entry_follows entry)
    obtain ⟨entered, state⟩ := follows.state
    obtain ⟨_, node, found, choices, body, available, offered, choice, first, vars, sum, rfl⟩ :=
      Story.selectChoice_eq_ok.mp (onceIdle_eq_ok.mp led).2
    exact ⟨node, found, choices, body, available, offered, choice, first, vars, entered, sum, state⟩

section Shows

variable {shown : NodeView}

theorem advance_accepted_iff (sound : Sound story engine) (shows : engine.Shows node shown) :
    engine.Accepts .advance ↔ shown.kind.isInteractive = false := by
  have idle := idle_unless_graded sound shows.found
  rw [accepts_iff .advance trivial, completed, unrefused_onceIdle,
    Story.unrefused_acknowledge shows.active, (Story.nodeView_asks shows.viewed).1,
    NodeKind.isInteractive]
  cases body : node.body with
  | graded config => simp [NodeBody.kind, NodeKind.isAcknowledged]
  | _ =>
    rw [idle (by simp [body])]
    simp

theorem choose_accepted_iff (sound : Sound story engine) (shows : engine.Shows node shown)
    (choiceId : String) :
    engine.Accepts (.choose choiceId) ↔ choiceId ∈ shown.choices.map (·.id) := by
  have idle := idle_unless_graded sound shows.found
  have asks := (Story.nodeView_asks shows.viewed).2
  rw [accepts_iff (.choose choiceId) trivial, completed, unrefused_onceIdle]
  cases body : node.body with
  | choice choices =>
    rw [body] at asks
    obtain ⟨available, offered, listed, _⟩ := asks
    rw [idle (by simp [body]), Story.unrefused_selectChoice shows.active body offered, listed,
      List.map_map]
    simp only [true_and]
    rfl
  | _ =>
    -- No other node lists choices or takes one.
    rw [body] at asks
    rw [Story.selectChoice_elsewhere shows.active (by simp [body]), asks.1]
    simp [Fault.isRefusal]

theorem submit_accepted_iff (sound : Sound story engine) (shows : engine.Shows node shown)
    (value : String) :
    engine.Accepts (.submit value) ↔
      (∃ field, shown.input = some field ∧ field.graded = false) ∧
        ∃ config, node.body = .input config ∧
          Unrefused ((TextRule.ofInput config).check value) := by
  have idle := idle_unless_graded sound shows.found
  have asks := (Story.nodeView_asks shows.viewed).2
  rw [accepts_iff (.submit value) trivial, completed, unrefused_onceIdle,
    Story.unrefused_submitInput shows.active]
  cases body : node.body with
  | input config =>
    rw [body] at asks
    simp [idle (by simp [body]), asks.2]
  | _ => simp

theorem beginGrading_accepted_iff (shows : engine.Shows node shown) (value : String) :
    engine.Accepts (.beginGrading value) ↔
      ∃ field, shown.input = some field ∧ field.graded = true ∧ field.pending = false ∧
        field.minLength ≤ strippedLength value ∧ strippedLength value ≤ field.maxLength := by
  have asks := (Story.nodeView_asks shows.viewed).2
  rw [accepts_iff (.beginGrading value) trivial, completed, unrefused_onceIdle]
  change engine.pending = none ∧
    Unrefused ((fun _ => engine.state) <$> engine.story.validateResponse engine.state value) ↔ _
  rw [unrefused_map, Story.unrefused_validateResponse shows.active]
  cases body : node.body with
  | graded config =>
    rw [body] at asks
    simp [asks.2]
  | choice choices =>
    rw [body] at asks
    obtain ⟨_, _, _, nothing⟩ := asks
    simp [nothing]
  | _ =>
    rw [body] at asks
    simp [asks.2]

/-- A document that is no text is the id of no choice that is offered. -/
theorem chooses_nothing (shows : engine.Shows node shown) {document : Json}
    (other : ∀ choiceId, document ≠ .str choiceId) :
    ∃ fault, fault.isRefusal = true ∧
      engine.choosing document = (.error (.fault fault), engine) := by
  have refused : (engine.story.unnamed engine.state document).isRefusal = true := by
    unfold Story.unnamed
    cases offering : engine.story.offeredChoices engine.state with
    | ok available => rfl
    | error fault => exact Story.offeredChoices_fault shows.active shows.viewed offering
  have nothing : engine.choosing document =
      plainly (engine.whenIdle (engine.refuse (engine.story.unnamed engine.state document))) := by
    cases document with
    | str choiceId => exact absurd rfl (other choiceId)
    | _ => rfl
  rw [nothing]
  unfold whenIdle
  split
  · exact ⟨.gradingInProgress, rfl, rfl⟩
  · exact ⟨_, refused, rfl⟩

theorem node_offers_way (sound : Sound story engine) (shows : engine.Shows node shown) :
    engine.OffersWay node shown := by
  constructor
  case start =>
    intro name
    simp only [act, Engine.start, shows.started, if_true]
    rfl
  case advance => exact advance_accepted_iff sound shows
  case choose => exact choose_accepted_iff sound shows
  case takes =>
    intro choiceId answer came
    obtain ⟨there, found, choices, body, available, offered, choice, first⟩ := choose_takes came
    cases shows.found.symm.trans found
    have asks := (Story.nodeView_asks shows.viewed).2
    rw [body] at asks
    obtain ⟨_, offered', listed, _⟩ := asks
    cases offered.symm.trans offered'
    exact ⟨choices, available, choice, body, offered, listed, first⟩
  case chooseNothing => exact fun _ other => chooses_nothing shows other
  case submit => exact submit_accepted_iff sound shows
  case submitFails =>
    intro value config fault body wrong
    have idle := idle_unless_graded sound shows.found (by simp [body])
    simp only [act, Engine.submit, whenIdle, idle, Story.submitInput_fault shows.active body wrong]
    rfl
  case beginGrading => exact beginGrading_accepted_iff shows

end Shows

/-- In every playthrough, what the player sees tells which actions are accepted. -/
theorem view_tells_what_is_accepted (opening : Opening story first)
    (played : Played first events engine) : engine.ViewTells := by
  have sound := played_sound opening played
  constructor
  case atGate =>
    intro view asked viewed screen
    rcases view_eq_ok.mp viewed with ⟨gate, rfl⟩ | ⟨node, shown, _, rfl⟩
    · cases screen
      exact gate_offers_start sound gate
    · cases screen
  case atNode =>
    intro view shown viewed screen
    rcases view_eq_ok.mp viewed with ⟨_, rfl⟩ | ⟨node, _, shows, rfl⟩
    · cases screen
    · cases screen
      exact ⟨node, shows.found, node_offers_way sound shows⟩
  case nowhere => exact fun _ _ missing => inactive_turns_down sound (view_without_node missing)

/-- A house that serves two kinds of tea under one name. -/
def teahouse : Engine :=
  (begin (.lone (.bare "menu" (.choice
    [⟨"tea", "Green tea", "menu", none, some (.ofList [("cup", .text "green")]), none⟩,
      ⟨"tea", "Black tea", "menu", none, some (.ofList [("cup", .text "black")]), none⟩])))
    .standard none).engine

theorem teahouse_lists_what_it_serves :
    teahouse.ViewTells ∧
      ((teahouse.view.toOption.bind (·.screen.shownNode)).map (·.choices)) =
        some [⟨"tea", "Green tea"⟩, ⟨"tea", "Black tea"⟩] ∧
      (teahouse.act (.choose "tea")).engine.state.vars.get? "cup" = some (.text "green") :=
  ⟨view_tells_what_is_accepted (.fresh rfl) .opened, by decide +kernel, by decide⟩

end Engine

end VisualNovel
