import Mathlib.Algebra.Ring.Int.Defs
import VisualNovel.Proofs.Documents
import VisualNovel.Proofs.Failures
import VisualNovel.Proofs.Mutations
import VisualNovel.Proofs.Ways

/-! What is added to a variable in the course of a game. A variable that a story does nothing to but
add integers is a tally: it holds what it held at first and what has been added since by nodes that
were entered, by choices that were taken and by grades that counted. Each of these counts once, also
if the playthrough is given up in between and taken up again from what was saved of it. -/
namespace VisualNovel

/-- The integer that a number is; any other number counts as zero. -/
def Number.whole : Number → Int
  | int n => n
  | float _ => 0

/-- A number is an exact integer. -/
def Number.Exact (number : Number) : Prop := number = .int number.whole

instance (number : Number) : Decidable number.Exact := inferInstanceAs (Decidable (_ = _))

/-! ## Adding to variables -/

namespace Variables

variable {vars changed : Variables} {name given : String} {increment : Number} {count delta : Int}

/-- The integer that a variable holds, zero if there is no such variable; nothing if its value is of
another kind. -/
def count? (vars : Variables) (name : String) : Option Int :=
  match vars.get? name with
  | none => some 0
  | some (.number (.int count)) => some count
  | some _ => none

theorem count?_congr (same : changed.get? name = vars.get? name) :
    changed.count? name = vars.count? name := by
  rw [count?, same, count?]

/-- A variable that counts has its count added to. -/
theorem addend_of_count (counts : vars.count? name = some count) :
    Value.addend (vars.get? name) = .int count := by
  unfold count? at counts
  split at counts <;> rename_i held
  · cases counts
    rw [held]
    rfl
  · cases counts
    rw [held]
    rfl
  · cases counts

theorem addTo_other (sum : vars.addTo given increment = some changed) (other : given ≠ name) :
    changed.count? name = vars.count? name := by
  obtain ⟨total, _, inserted⟩ := Option.bind_eq_some_iff.mp sum
  cases inserted
  exact count?_congr (by simp [other])

theorem addTo_whole (counts : vars.count? name = some count)
    (sum : vars.addTo name (.int delta) = some changed) :
    changed.count? name = some (count + delta) := by
  rw [addTo_eq, sum?, addend_of_count counts] at sum
  cases sum
  simp [count?]

end Variables

/-- What a set of increments adds to a variable. -/
def Increments.addedTo (add : Option Increments) (name : String) : Int :=
  ((add.bind fun increments => increments.get? name).map Number.whole).getD 0

/-- A change of variables does nothing to a variable but add an integer to it. -/
structure AddsOnly (name : String) (set : Option Variables) (add : Option Increments) : Prop where
  unset : ∀ values ∈ set, values.get? name = none
  exact : ∀ increments ∈ add, ∀ increment ∈ increments.get? name, increment.Exact

instance {name : String} {set : Option Variables} {add : Option Increments} :
    Decidable (AddsOnly name set add) :=
  decidable_of_iff (_ ∧ _) ⟨fun only => ⟨only.1, only.2⟩, fun only => ⟨only.unset, only.exact⟩⟩

theorem AddsOnly.mutate_count {name : String} {set : Option Variables} {add : Option Increments}
    {vars changed : Variables} {count : Int} (only : AddsOnly name set add)
    (counts : vars.count? name = some count) (sum : vars.mutate set add = some changed) :
    changed.count? name = some (count + Increments.addedTo add name) := by
  have unset : given? set name = none := by
    cases set with
    | none => rfl
    | some values => exact only.unset values rfl
  have final := Variables.get?_mutate sum name
  simp only [Variables.total?, Variables.settled?, unset, Option.none_or,
    Variables.addend_of_count counts] at final
  cases add with
  | none => simpa [Increments.addedTo] using (Variables.count?_congr final).trans counts
  | some increments =>
    cases added : increments.get? name with
    | none =>
      rw [show given? (some increments) name = none from added] at final
      simpa [Increments.addedTo, added] using (Variables.count?_congr final).trans counts
    | some increment =>
      have exact : increment.Exact := only.exact increments rfl increment added
      rw [show given? (some increments) name = some increment from added, exact] at final
      simp [Variables.count?, final, Number.add?, Increments.addedTo, added]

/-! ## Stories that only add -/

/-- The variables into which a graded response and what is made of it are written. -/
def GradedConfig.textVariables (config : GradedConfig) : List String :=
  [config.userInputVariable, config.characterResponseVariable, config.emotionVariable,
    config.evaluationVariable]

/-- What a rating adds to a variable. -/
def GradedConfig.addedTo (config : GradedConfig) (rating : Rating) (name : String) : Int :=
  match config.ratingConfig with
  | some points =>
    if points.variableToModify = name then (points.pointsFor rating).whole else 0
  | none => 0

/-- Whatever the player does at a node, all that it does to a variable is adding integers to it. -/
def NodeBody.OnlyAddsTo (name : String) : NodeBody → Prop
  | .choice choices =>
    ∀ choice ∈ choices, AddsOnly name choice.setVariables choice.addVariables
  | .input config => config.variableName ≠ name
  | .graded config => name ∉ config.textVariables ∧ ∀ points ∈ config.ratingConfig,
    points.variableToModify = name → ∀ rating, (points.pointsFor rating).Exact
  | .dialogue | .narration | .ending => True

/-- All that a node does to a variable is adding integers to it. -/
structure Node.OnlyAddsTo (node : Node) (name : String) : Prop where
  entered : AddsOnly name node.setVariables node.addVariables
  completed : node.body.OnlyAddsTo name

instance {condition : Rating → Prop} [DecidablePred condition] :
    Decidable (∀ rating, condition rating) :=
  decidable_of_iff (condition .good ∧ condition .neutral ∧ condition .bad)
    ⟨fun ⟨good, neutral, bad⟩ rating => by cases rating <;> assumption,
      fun all => ⟨all .good, all .neutral, all .bad⟩⟩

instance {name : String} {body : NodeBody} : Decidable (body.OnlyAddsTo name) :=
  match body with
  | .choice choices =>
    inferInstanceAs (Decidable (∀ choice ∈ choices,
      AddsOnly name choice.setVariables choice.addVariables))
  | .input config => inferInstanceAs (Decidable (config.variableName ≠ name))
  | .graded config =>
    inferInstanceAs (Decidable (name ∉ config.textVariables ∧ ∀ points ∈ config.ratingConfig,
      points.variableToModify = name → ∀ rating, (points.pointsFor rating).Exact))
  | .dialogue | .narration | .ending => .isTrue trivial

instance {name : String} {node : Node} : Decidable (node.OnlyAddsTo name) :=
  decidable_of_iff (_ ∧ _)
    ⟨fun only => ⟨only.1, only.2⟩, fun only => ⟨only.entered, only.completed⟩⟩

namespace Story

variable {story : Story} {name : String}

/-- All that a story does to a variable is adding integers to it. -/
def OnlyAddsTo (story : Story) (name : String) : Prop :=
  ∀ scene ∈ story.scenes, ∀ node ∈ scene.nodes, node.OnlyAddsTo name

instance : Decidable (story.OnlyAddsTo name) :=
  inferInstanceAs (Decidable (∀ scene ∈ story.scenes, ∀ node ∈ scene.nodes, node.OnlyAddsTo name))

theorem OnlyAddsTo.node {sceneId nodeId : String} {node : Node} (only : story.OnlyAddsTo name)
    (found : story.node? sceneId nodeId = some node) : node.OnlyAddsTo name := by
  obtain ⟨scene, inStory, inScene⟩ := Option.bind_eq_some_iff.mp found
  exact only scene (List.mem_of_find?_eq_some inStory) node (List.mem_of_find?_eq_some inScene)

theorem OnlyAddsTo.body {sceneId nodeId : String} {node : Node} {body : NodeBody}
    (only : story.OnlyAddsTo name) (found : story.node? sceneId nodeId = some node)
    (asks : node.body = body) : body.OnlyAddsTo name :=
  asks ▸ (only.node found).completed

/-- A grade adds the points for its rating, and its texts go elsewhere. -/
theorem gradedVariables_count {config : GradedConfig} {vars changed : Variables}
    {userInput : String} {result : GradingResult} {count : Int}
    (only : (NodeBody.graded config).OnlyAddsTo name) (counts : vars.count? name = some count)
    (taken : gradedVariables config vars userInput result = .ok changed) :
    changed.count? name = some (count + config.addedTo result.rating name) := by
  have told : Variables.count? (vars.insertAll
      [(config.userInputVariable, .text userInput),
       (config.characterResponseVariable, .text result.characterResponse),
       (config.emotionVariable, .text result.emotion),
       (config.evaluationVariable, .text result.evaluation)]) name = some count :=
    (Variables.count?_congr (Named.get?_insertAll_other _ only.1)).trans counts
  unfold gradedVariables at taken
  unfold GradedConfig.addedTo
  cases rated : config.ratingConfig with
  | none =>
    rw [rated] at taken
    cases taken
    simpa using told
  | some points =>
    rw [rated] at taken
    have sum := Outcome.needed_eq_ok.mp taken
    by_cases same : points.variableToModify = name
    · have exact := only.2 points rated same result.rating
      rw [exact, same] at sum
      simpa [same] using Variables.addTo_whole told sum
    · simpa [same] using (Variables.addTo_other sum same).trans told

end Story

/-! ## What events add -/

/-- The first choice with an id that is offered where the player is. -/
def Engine.choice? (engine : Engine) (choiceId : String) : Option Choice :=
  match engine.node?.map Node.body with
  | some (.choice choices) =>
    match Story.availableChoices engine.state.vars choices with
    | .ok available => available.find? fun choice => choice.id == choiceId
    | .error _ => none
  | _ => none

/-- The rules for a graded response where the player is. -/
def Engine.config? (engine : Engine) : Option GradedConfig :=
  match engine.node?.map Node.body with
  | some (.graded config) => some config
  | _ => none

namespace Event

/-- The node that an event enters. -/
def entered? (event : Event) : Option Node :=
  match event.turn.outcome with
  | .ok _ =>
    if event.action.Arrives event.before.state event.turn.engine.state then event.turn.engine.node?
    else none
  | .error _ => none

/-- The choice that an event takes. -/
def taken? (event : Event) : Option Choice :=
  match event.action, event.turn.outcome with
  | .choose choiceId, .ok _ => event.before.choice? choiceId
  | _, _ => none

/-- The rules and the rating of a grade that counts. -/
def graded? (event : Event) : Option (GradedConfig × Rating) :=
  match event.action, event.turn.outcome with
  | .finishGrading _ result, .ok (.verdict true) =>
    event.before.config?.map fun config => (config, result.rating)
  | _, _ => none

end Event

/-- The nodes that are entered at first and in the course of the events. -/
def nodesEntered (first : Engine) (events : List Event) : List Node :=
  (if first.state.gameStarted then first.node? else none).toList ++
    events.filterMap Event.entered?

/-- What a node adds to a variable of whoever enters it. -/
def Node.addedTo (node : Node) (name : String) : Int := Increments.addedTo node.addVariables name

/-- What a choice adds to a variable of whoever takes it. -/
def Choice.addedTo (choice : Choice) (name : String) : Int :=
  Increments.addedTo choice.addVariables name

namespace Event

/-- What an event adds to a variable before a node is entered: by a choice or by a grade. -/
def completionAdds (event : Event) (name : String) : Int :=
  (event.taken?.map fun choice => choice.addedTo name).getD 0 +
    (event.graded?.map fun (config, rating) => config.addedTo rating name).getD 0

/-- What an event adds to a variable by entering a node. -/
def entryAdds (event : Event) (name : String) : Int :=
  (event.entered?.map fun node => node.addedTo name).getD 0

variable {event : Event} {name : String}

/-- Only choices and grades add to variables before a node is entered. -/
theorem completionAdds_other (choice : ∀ choiceId, event.action ≠ .choose choiceId)
    (grade : ∀ ticket result, event.action ≠ .finishGrading ticket result) :
    event.completionAdds name = 0 := by
  obtain ⟨before, action⟩ := event
  cases action with
  | choose choiceId => exact absurd rfl (choice choiceId)
  | finishGrading ticket result => exact absurd rfl (grade ticket result)
  | _ => rfl

/-- An event that fails adds nothing. -/
theorem adds_nothing_of_error {before : Engine} {action : Action} {fault : Fault}
    (failed : (before.act action).outcome = .error fault) :
    completionAdds ⟨before, action⟩ name = 0 ∧ entryAdds ⟨before, action⟩ name = 0 := by
  constructor
  · cases action <;> simp [completionAdds, taken?, graded?, turn, failed]
  · simp [entryAdds, entered?, turn, failed]

theorem entered?_of_ok {before : Engine} {action : Action} {answer : Answer}
    (came : (before.act action).outcome = .ok answer) :
    entered? ⟨before, action⟩ =
      if action.Arrives before.state (before.act action).engine.state then
        (before.act action).engine.node?
      else none := by
  simp only [entered?, turn, came]
  rfl

end Event

namespace Engine

variable {story : Story} {engine first now : Engine} {events : List Event} {name : String}
  {count : Int}

/-- A grade is said to count exactly if it is put in place. -/
theorem verdict_iff {ticket : Ticket} {result : GradingResult} {turn : Turn Answer}
    {answer : Answer} (step : Step engine (.finishGrading ticket result) turn)
    (came : turn.outcome = .ok answer) :
    answer = .verdict true ↔ engine.Completes (.finishGrading ticket result) := by
  cases step with
  | refused other => exact absurd rfl (other ticket result)
  | ungraded => cases came
  | completed completes =>
    rw [Turn.as_outcome_ok] at came
    exact iff_of_true came.2.symm completes
  | movedOn waiting moved =>
    cases came
    exact iff_of_false (by simp) fun completes => moved completes.2
  | discarded stale =>
    cases came
    exact iff_of_false (by simp) fun completes => stale completes.1

/-- What a choice completes differs by what the choice has added. -/
theorem choose_count {choiceId : String} {answer : Answer} {carried : GameState}
    (only : engine.story.OnlyAddsTo name) (counts : engine.state.vars.count? name = some count)
    (came : (engine.act (.choose choiceId)).outcome = .ok answer)
    (led : engine.completed (.choose choiceId) = .ok carried) :
    carried.vars.count? name =
      some (count + Event.completionAdds ⟨engine, .choose choiceId⟩ name) := by
  obtain ⟨_, node, found, choices, body, available, offered, choice, taken, vars, sum, rfl⟩ :=
    Story.selectChoice_eq_ok.mp (onceIdle_eq_ok.mp led).2
  have among := Story.offered_among offered (List.mem_of_find?_eq_some taken)
  have counted := (only.body found body choice among).mutate_count counts sum
  have picked : engine.choice? choiceId = some choice := by
    simp only [choice?, node?, found, Option.map_some, body, offered, taken]
  simpa [Event.completionAdds, Event.taken?, Event.graded?, Event.turn, came, picked,
    GameState.navigate_vars, Choice.addedTo] using counted

/-- What a grade completes differs by its points if it counts, and by nothing if it is discarded. -/
theorem grade_count {ticket : Ticket} {result : GradingResult} {answer : Answer}
    {carried : GameState} (only : engine.story.OnlyAddsTo name)
    (counts : engine.state.vars.count? name = some count)
    (came : (engine.act (.finishGrading ticket result)).outcome = .ok answer)
    (led : engine.completed (.finishGrading ticket result) = .ok carried) :
    carried.vars.count? name =
      some (count + Event.completionAdds ⟨engine, .finishGrading ticket result⟩ name) := by
  have verdict := verdict_iff (act_step engine _) came
  by_cases completes : engine.Completes (.finishGrading ticket result)
  · have graded : engine.story.applyGrading engine.state ticket.userInput result = .ok carried :=
      (if_pos completes).symm.trans led
    obtain ⟨node, found, config, body, vars, taken, rfl⟩ := Story.applyGrading_eq_ok.mp graded
    have counted := Story.gradedVariables_count (only.body found body) counts taken
    have ruled : engine.config? = some config := by
      simp only [config?, node?, found, Option.map_some, body]
    cases verdict.mpr completes
    simpa [Event.completionAdds, Event.taken?, Event.graded?, Event.turn, came, ruled,
      GameState.navigate_vars] using counted
  · cases (if_neg completes).symm.trans led
    have discarded : answer ≠ .verdict true := mt verdict.mp completes
    have ungraded : Event.graded? ⟨engine, .finishGrading ticket result⟩ = none := by
      simp only [Event.graded?, Event.turn, came]
      split
      · rename_i counted
        exact absurd (Except.ok.inj counted) discarded
      · rfl
    simpa [Event.completionAdds, Event.taken?, ungraded] using counts

/-- What an action completes differs by what a choice or a grade has added. -/
theorem completed_count {action : Action} {answer : Answer} {carried : GameState}
    (sound : Sound story engine) (only : story.OnlyAddsTo name)
    (counts : engine.state.vars.count? name = some count)
    (onward : action ≠ .restart ∧ action.Unloaded)
    (came : (engine.act action).outcome = .ok answer)
    (led : engine.completed action = .ok carried) :
    carried.vars.count? name = some (count + Event.completionAdds ⟨engine, action⟩ name) := by
  cases sound.story
  -- Most actions leave the variable alone, and nothing is counted for them.
  have kept (choice : ∀ choiceId, action ≠ .choose choiceId)
      (grade : ∀ ticket result, action ≠ .finishGrading ticket result)
      (same : carried.vars.get? name = engine.state.vars.get? name) :
      carried.vars.count? name = some (count + Event.completionAdds ⟨engine, action⟩ name) := by
    rw [Event.completionAdds_other choice grade, Int.add_zero, Variables.count?_congr same, counts]
  cases action with
  | start value =>
    simp only [completed] at led
    split at led
    · cases led
    · obtain ⟨_, _, rfl⟩ := Story.startGame_eq_ok.mp led
      exact kept (by simp) (by simp) rfl
  | advance =>
    obtain ⟨_, _, _, ⟨_, rfl⟩ | ⟨_, rfl⟩⟩ :=
      Story.acknowledge_eq_ok.mp (onceIdle_eq_ok.mp led).2
    · exact kept (by simp) (by simp) rfl
    · exact kept (by simp) (by simp) (by rw [GameState.navigate_vars]; rfl)
  | choose choiceId => exact choose_count only counts came led
  | submit value =>
    obtain ⟨_, node, found, config, body, trimmed, _, rfl⟩ :=
      Story.submitInput_eq_ok.mp (onceIdle_eq_ok.mp led).2
    have elsewhere : config.variableName ≠ name := only.body found body
    exact kept (by simp) (by simp) (by simp [GameState.navigate_vars, elsewhere])
  | finishGrading ticket result => exact grade_count only counts came led
  | beginGrading value =>
    obtain ⟨_, _, same⟩ := Outcome.map_eq_ok.mp (onceIdle_eq_ok.mp led).2
    exact kept (by simp) (by simp) (by rw [same])
  | cancelGrading | showFeedback =>
    cases led
    exact kept (by simp) (by simp) rfl
  | restart => exact absurd rfl onward.1
  | load saved => exact absurd rfl (onward.2 saved)

/-- An action that does not end in a sum beyond the range changes the variable by what it adds. -/
theorem act_count {action : Action} (sound : Sound story engine) (only : story.OnlyAddsTo name)
    (counts : engine.state.vars.count? name = some count)
    (onward : action ≠ .restart ∧ action.Unloaded)
    (within : (engine.act action).outcome ≠ .error .overflow) :
    (engine.act action).engine.state.vars.count? name =
      some (count + Event.completionAdds ⟨engine, action⟩ name +
        Event.entryAdds ⟨engine, action⟩ name) := by
  cases came : (engine.act action).outcome with
  | error fault =>
    obtain ⟨completion, entry⟩ := Event.adds_nothing_of_error came
    cases step_failed sound (act_step engine action) came with
    | byItself why kept => rw [kept, counts, completion, entry, Int.add_zero, Int.add_zero]
    | arriving => exact absurd came within
  | ok answer =>
    obtain ⟨carried, enters⟩ := step_enters sound (act_step engine action) came
    have completed := completed_count sound only counts onward came enters.led
    have entry := Event.entered?_of_ok came
    by_cases arrives : action.Arrives engine.state (engine.act action).engine.state
    · rw [if_pos arrives] at entry
      cases found : (engine.act action).engine.node? with
      | none =>
        rw [(enters.otherwise (.inr found)).unchanged, completed, Event.entryAdds, entry, found]
        simp
      | some node =>
        obtain ⟨vars, sum, state⟩ := (enters.once arrives node found).changed
        have here := found
        rw [node?, (step_sound sound (act_step engine action)).story] at here
        have counted := (only.node here).entered.mutate_count completed sum
        rw [state, counted, Event.entryAdds, entry, found]
        rfl
    · rw [if_neg arrives] at entry
      rw [(enters.otherwise (.inl arrives)).unchanged, completed, Event.entryAdds, entry]
      simp

/-! ## Games with breaks -/

/-- The events that lead from one moment of a game to another. At any moment at which no response is
being graded, the playthrough may be given up, and taken up again from its own snapshot. -/
inductive PlayedOn (first : Engine) : List Event → Engine → Prop
  | opened : PlayedOn first [] first
  | acted {events : List Event} {engine : Engine} (played : PlayedOn first events engine)
      (action : Action) :
      PlayedOn first (events ++ [⟨engine, action⟩]) (engine.act action).engine
  | takenUp {events : List Event} {engine : Engine} {state : GameState}
      (played : PlayedOn first events engine) (idle : engine.pending = none)
      (read : GameState.ofJson engine.snapshot = .valid state) (playback : Playback)
      (background : Option String) :
      PlayedOn first events (resume engine.story state playback background)

/-- What is read from a snapshot is the state of which it was taken. -/
theorem snapshot_read {state : GameState} (read : GameState.ofJson engine.snapshot = .valid state) :
    state = engine.state := by
  cases (GameState.faithful engine.state).symm.trans read
  rfl

theorem playedOn_sound (sound : Sound story first) (played : PlayedOn first events engine) :
    Sound story engine := by
  induction played with
  | opened => exact sound
  | acted played action sound => exact step_sound sound (act_step _ action)
  | takenUp played idle read playback background sound =>
    cases sound.story
    exact opening_sound .resumed

/-- At first, all that has been added is what the node has added where the game has started. -/
theorem first_count {node : Option Node} (started : first.state.gameStarted = true)
    (found : first.node? = node)
    (held : first.state.vars.count? name =
      some (count + (node.map fun node => node.addedTo name).getD 0)) :
    first.state.vars.count? name =
      some (count + ((nodesEntered first []).map fun node => node.addedTo name).sum) := by
  rw [held, nodesEntered, if_pos started, found]
  cases node <;> simp

/-- A new game holds what the story gives it and what its first node adds, if it is entered. -/
theorem begin_count {playback : Playback} {background : Option String}
    (begun : (begin story playback background).outcome = .ok ()) (only : story.OnlyAddsTo name)
    (counts : story.vars.count? name = some count) :
    (begin story playback background).engine.state.vars.count? name =
      some (count + ((nodesEntered (begin story playback background).engine []).map
        fun node => node.addedTo name).sum) := by
  have entry := enter_entry (initial story playback background)
  simp only [begin] at begun ⊢
  generalize (initial story playback background).enter = turn at begun entry ⊢
  cases entry with
  | quiet quiet =>
    have gate : (initial story playback background).state.gameStarted = false := by
      simpa [Due, initial] using quiet
    have held : (initial story playback background).state.vars.count? name = some count := counts
    simp [nodesEntered, done, gate, held]
  | nowhere due missing =>
    exact first_count due.1 missing (counts.trans (by simp))
  | beyond => cases begun
  | @entered node vars due found sum =>
    exact first_count due.1 found ((only.node found).entered.mutate_count counts sum)

/-- What is picked from the events adds up event by event. -/
theorem sum_picked_snoc {α : Type} (pick : Event → Option α) (adds : α → Int) (last : Event) :
    (((events ++ [last]).filterMap pick).map adds).sum =
      ((events.filterMap pick).map adds).sum + ((pick last).map adds).getD 0 := by
  cases picked : pick last <;> simp [picked]

/-- In a game in which nothing is begun again or loaded and no sum goes beyond the range, a variable
to which the story only ever adds holds what it held at first, what the nodes that were entered have
added, what the choices that were taken have added, and the points for the grades that counted. -/
theorem tallies_add_up {playback : Playback} {background : Option String}
    (begun : (begin story playback background).outcome = .ok ())
    (played : PlayedOn (begin story playback background).engine events engine)
    (onward : ∀ event ∈ events, event.action ≠ .restart ∧ event.action.Unloaded)
    (within : ∀ event ∈ events, event.turn.outcome ≠ .error .overflow)
    (only : story.OnlyAddsTo name) (counts : story.vars.count? name = some count) :
    engine.state.vars.count? name =
      some (count +
        ((nodesEntered (begin story playback background).engine events).map
          fun node => node.addedTo name).sum +
        ((events.filterMap Event.taken?).map fun choice => choice.addedTo name).sum +
        ((events.filterMap Event.graded?).map
          fun (config, rating) => config.addedTo rating name).sum) := by
  have opened := opening_sound (.fresh begun)
  induction played with
  | opened => simpa using begin_count begun only counts
  | @acted earlier middle played action ih =>
    have before := ih (fun event among => onward event (List.mem_append_left _ among))
      fun event among => within event (List.mem_append_left _ among)
    -- Each of the three sums grows by what the last event adds.
    have goesOn : action ≠ .restart ∧ action.Unloaded := onward ⟨middle, action⟩ (by simp)
    have fits : (middle.act action).outcome ≠ .error .overflow :=
      within ⟨middle, action⟩ (by simp)
    rw [act_count (playedOn_sound opened played) only before goesOn fits]
    simp only [nodesEntered, List.map_append, List.sum_append, sum_picked_snoc,
      Event.completionAdds, Event.entryAdds, Option.some.injEq]
    omega
  | takenUp played idle read playback background ih =>
    rw [resume, snapshot_read read]
    exact ih onward within

/-- A quiz that goes round in circles: every node gives a point, a good answer gives ten, and going
on gives a hundred. -/
def quiz : Story :=
  { Story.lone (.bare "ask" .narration) with
    scenes :=
      [⟨"scene", "Scene", "ask",
        [{ Node.bare "ask" (.graded ⟨"answer", "reply", "mood", "verdict", [], "", "", 1, 99,
              some ⟨"points", .int 10, .int 0, .int (-10)⟩⟩) with
            addVariables := some (.ofList [("points", .int 1)]), nextNodeId := some "again" },
          { Node.bare "again" (.choice [⟨"yes", "Yes", "ask", none, none,
              some (.ofList [("points", .int 100)])⟩]) with
            addVariables := some (.ofList [("points", .int 1)]) }]⟩]
    vars := .ofList [("points", .number (.int 1000))] }

/-- The quiz when it asks its first question. -/
def question : Engine := (begin quiz .standard none).engine

/-- A good grade for the answer to it. -/
def grade : Action :=
  .finishGrading (question.nextTicket "rain") ⟨"Yes!", "happy", "Right", .good, 1, "", "", none⟩

/-- The quiz after that answer. -/
def answered : Engine := ((question.act (.beginGrading "rain")).engine.act grade).engine

/-- The quiz when it is taken up again. -/
def askedAgain : Engine := resume answered.story answered.state .standard none

theorem points_add_up :
    PlayedOn question [⟨question, .beginGrading "rain"⟩,
        ⟨(question.act (.beginGrading "rain")).engine, grade⟩, ⟨askedAgain, .choose "yes"⟩]
        (askedAgain.act (.choose "yes")).engine ∧
      quiz.OnlyAddsTo "points" ∧
      (askedAgain.act (.choose "yes")).engine.state.vars.count? "points" =
        some (1000 + (1 + 1 + 1) + 100 + 10) := by
  have toAnswer : PlayedOn question _ answered :=
    .acted (.acted .opened (.beginGrading "rain")) grade
  have played := (toAnswer.takenUp (by decide) (GameState.faithful _) .standard none).acted
    (.choose "yes")
  have only : quiz.OnlyAddsTo "points" := by decide
  have sums := tallies_add_up (by decide) played (by simp [Action.Unloaded, grade]) (by decide) only
    (show quiz.vars.count? "points" = some 1000 by decide)
  exact ⟨played, only, sums.trans (by decide)⟩

end Engine

end VisualNovel
