import Mathlib.Data.List.DropRight
import VisualNovel.Playthrough.Engine
import VisualNovel.Proofs.Outcomes

/-! What the steps of a playthrough come to. Each lemma says exactly when a step is taken and which
state it leads to, so that nothing after this module has to open a step. -/
namespace VisualNovel

/-- The state that leaves a node for a target: the change and, if there is a target, the move. -/
theorem GameState.navigate_eq (state : GameState) (target choiceId : Option String)
    (change : GameState → GameState) :
    state.navigate target choiceId change =
      match nonempty? target with
      | none => change state
      | some target =>
        { change state with
          currentSceneId := (resolve target state.currentSceneId).sceneId
          currentNodeId := (resolve target state.currentSceneId).nodeId
          history := state.recordHistory choiceId } := by
  rfl

/-- Moving leaves the feedback log as the change has made it. -/
theorem GameState.navigate_feedback (state : GameState) (target choiceId : Option String)
    (change : GameState → GameState) :
    (state.navigate target choiceId change).feedback = (change state).feedback := by
  rw [navigate_eq]
  cases nonempty? target <;> rfl

/-- Moving leaves the variables as the change has made them. -/
theorem GameState.navigate_vars (state : GameState) (target choiceId : Option String)
    (change : GameState → GameState) :
    (state.navigate target choiceId change).vars = (change state).vars := by
  rw [navigate_eq]
  cases nonempty? target <;> rfl

/-- A text that satisfies a rule is taken in without the white space around it. -/
theorem TextRule.check_trims {rule : TextRule} {value trimmed : String}
    (checked : rule.check value = .ok trimmed) :
    trimmed = String.ofList (Text.trimChars value.toList) := by
  simp only [check] at checked
  repeat' split at checked
  all_goals cases checked
  rfl

/-- Once the white space around a text has been dropped, it begins with none. -/
theorem Text.dropWhile_trimChars (text : List Char) :
    (trimChars text).dropWhile isBlank = trimChars text := by
  -- It begins with what the text without the white space before it begins with.
  have start : trimChars text <+: text.dropWhile isBlank := List.rdropWhile_prefix ..
  rw [List.dropWhile_eq_self_iff]
  intro some
  rw [start.getElem some]
  exact List.dropWhile_get_zero_not isBlank text _

theorem Text.rdropWhile_trimChars (text : List Char) :
    (trimChars text).rdropWhile isBlank = trimChars text :=
  List.rdropWhile_idempotent ..

/-- There is none left to be dropped. -/
theorem Text.trimChars_trimChars (text : List Char) :
    trimChars (trimChars text) = trimChars text :=
  calc trimChars (trimChars text)
      = ((trimChars text).dropWhile isBlank).rdropWhile isBlank := rfl
    _ = trimChars text := by rw [dropWhile_trimChars, rdropWhile_trimChars]

/-- A text that satisfies a rule still does so as it is taken in. -/
theorem TextRule.check_again {rule : TextRule} {value trimmed : String}
    (checked : rule.check value = .ok trimmed) : rule.check trimmed = .ok trimmed := by
  obtain rfl := check_trims checked
  rw [← checked]
  simp only [check, String.toList_ofList, Text.trimChars_trimChars]

namespace Story

variable {story : Story} {state next : GameState}

theorem currentNode_eq (story : Story) (state : GameState) :
    story.currentNode state =
      match story.node? state.currentSceneId state.currentNodeId with
      | some node => .ok node
      | none => .error (.nodeNotFound state.currentSceneId state.currentNodeId) := by
  rfl

@[simp] theorem currentNode_eq_ok {node : Node} :
    story.currentNode state = .ok node ↔
      story.node? state.currentSceneId state.currentNodeId = some node := by
  rw [currentNode_eq]
  cases story.node? state.currentSceneId state.currentNodeId <;> simp

/-- A node that is found is found under its own id. -/
theorem found_node_id {sceneId nodeId : String} {node : Node}
    (found : story.node? sceneId nodeId = some node) : node.id = nodeId := by
  obtain ⟨scene, _, inScene⟩ := Option.bind_eq_some_iff.mp found
  simpa using List.find?_some inScene

/-- The active node is the current node of a game that has started. -/
@[simp] theorem activeNode_eq_ok {node : Node} :
    story.activeNode state = .ok node ↔
      state.gameStarted = true ∧
        story.node? state.currentSceneId state.currentNodeId = some node := by
  unfold activeNode requireStarted
  cases state.gameStarted <;> simp

@[simp] theorem mutate_eq_ok {vars changed : Variables} {set : Option Variables}
    {add : Option Increments} :
    mutate vars set add = .ok changed ↔ vars.mutate set add = some changed :=
  Outcome.needed_eq_ok

theorem applyEntry_eq (node : Node) (state : GameState) :
    applyEntry node state =
      match state.vars.mutate node.setVariables node.addVariables with
      | some vars => .ok { state with vars }
      | none => .error .overflow := by
  unfold applyEntry mutate
  cases state.vars.mutate node.setVariables node.addVariables <;> rfl

theorem startGame_eq_ok {name : String} :
    story.startGame state name = .ok next ↔
      ∃ userName, (TextRule.lengths story.settings.nameMinLength
          story.settings.nameMaxLength).check name = .ok userName ∧
        next = { state with userName, gameStarted := true } := by
  simp [startGame, eq_comm (a := next)]

/-- Acknowledging leads on from dialogue and narration, and stays at an ending. -/
theorem acknowledge_eq_ok :
    story.acknowledge state = .ok next ↔
      state.gameStarted = true ∧
        ∃ node, story.node? state.currentSceneId state.currentNodeId = some node ∧
          (node.body = .ending ∧ next = state ∨
            (node.body = .dialogue ∨ node.body = .narration) ∧
              next = state.navigate node.nextNodeId none id) := by
  simp only [acknowledge, Outcome.bind_eq_ok, activeNode_eq_ok, and_assoc, exists_and_left]
  refine and_congr_right fun _ => exists_congr fun node => and_congr_right fun _ => ?_
  cases node.body <;> simp [eq_comm (a := next)]

/-- A choice is taken if it is the first one with its id among those that are offered. -/
theorem selectChoice_eq_ok {choiceId : String} :
    story.selectChoice state choiceId = .ok next ↔
      state.gameStarted = true ∧
        ∃ node, story.node? state.currentSceneId state.currentNodeId = some node ∧
          ∃ choices, node.body = .choice choices ∧
            ∃ available, availableChoices state.vars choices = .ok available ∧
              ∃ choice, available.find? (fun choice => choice.id == choiceId) = some choice ∧
                ∃ vars, state.vars.mutate choice.setVariables choice.addVariables = some vars ∧
                  next = state.navigate (some choice.nextNodeId) (some choice.id)
                    fun left => { left with vars } := by
  simp only [selectChoice, Outcome.bind_eq_ok, activeNode_eq_ok, and_assoc, exists_and_left]
  refine and_congr_right fun _ => exists_congr fun node => and_congr_right fun _ => ?_
  cases node.body with
  | choice choices =>
    simp only [Outcome.bind_eq_ok, NodeBody.choice.injEq, exists_eq_left']
    refine exists_congr fun available => and_congr_right fun _ => ?_
    cases available.find? fun choice => choice.id == choiceId <;> simp [eq_comm (a := next)]
  | _ => simp

theorem submitInput_eq_ok {value : String} :
    story.submitInput state value = .ok next ↔
      state.gameStarted = true ∧
        ∃ node, story.node? state.currentSceneId state.currentNodeId = some node ∧
          ∃ config, node.body = .input config ∧
            ∃ trimmed, (TextRule.ofInput config).check value = .ok trimmed ∧
              next = state.navigate node.nextNodeId none fun left =>
                { left with vars := state.vars.insert config.variableName (.text trimmed) } := by
  simp only [submitInput, Outcome.bind_eq_ok, activeNode_eq_ok, and_assoc, exists_and_left]
  refine and_congr_right fun _ => exists_congr fun node => and_congr_right fun _ => ?_
  cases node.body <;> simp [eq_comm (a := next)]

@[simp] theorem gradedConfig_eq_ok {node : Node} {config : GradedConfig} :
    gradedConfig node = .ok config ↔ node.body = .graded config := by
  unfold gradedConfig
  cases node.body <;> simp

theorem validateResponse_eq_ok {value trimmed : String} {node : Node} {config : GradedConfig} :
    story.validateResponse state value = .ok (node, config, trimmed) ↔
      state.gameStarted = true ∧
        story.node? state.currentSceneId state.currentNodeId = some node ∧
          node.body = .graded config ∧
            (TextRule.lengths config.minLength config.maxLength).check value = .ok trimmed := by
  simp only [validateResponse, Outcome.bind_eq_ok, activeNode_eq_ok, gradedConfig_eq_ok,
    Outcome.pure_eq_ok, Prod.mk.injEq]
  constructor
  · rintro ⟨_, ⟨started, found⟩, _, graded, _, checked, rfl, rfl, rfl⟩
    exact ⟨started, found, graded, checked⟩
  · rintro ⟨started, found, graded, checked⟩
    exact ⟨node, ⟨started, found⟩, config, graded, trimmed, checked, rfl, rfl, rfl⟩

/-- A response is taken in again as it has been taken in. -/
theorem validateResponse_again {value trimmed : String} {node : Node} {config : GradedConfig}
    (valid : story.validateResponse state value = .ok (node, config, trimmed)) :
    story.validateResponse state trimmed = .ok (node, config, trimmed) := by
  obtain ⟨started, found, graded, checked⟩ := validateResponse_eq_ok.mp valid
  exact validateResponse_eq_ok.mpr ⟨started, found, graded, TextRule.check_again checked⟩

/-- The entry in the feedback log for a response that has been graded at a node. -/
def feedbackOn (node : Node) (state : GameState) (userInput : String) (result : GradingResult) :
    FeedbackEntry where
  nodeId := node.id
  sceneId := state.currentSceneId
  userInput
  evaluation := result.evaluation
  rating := result.rating
  context := (nonempty? (nodeText node state)).getD unnamedInteraction

theorem applyGrading_eq_ok {userInput : String} {result : GradingResult} :
    story.applyGrading state userInput result = .ok next ↔
      ∃ node, story.node? state.currentSceneId state.currentNodeId = some node ∧
        ∃ config, node.body = .graded config ∧
          ∃ vars, gradedVariables config state.vars userInput result = .ok vars ∧
            next = state.navigate node.nextNodeId none fun left =>
              { left with
                vars, feedback := left.feedback ++ [feedbackOn node state userInput result] } := by
  simp only [applyGrading, Outcome.bind_eq_ok, currentNode_eq_ok, gradedConfig_eq_ok,
    Outcome.pure_eq_ok, feedbackOn, eq_comm (a := next)]

theorem gradedVariables_fault {config : GradedConfig} {vars : Variables} {userInput : String}
    {result : GradingResult} {fault : Fault}
    (failed : gradedVariables config vars userInput result = .error fault) :
    fault = .overflow := by
  unfold gradedVariables at failed
  split at failed
  · cases failed
  · exact (Outcome.needed_eq_error.mp failed).2.symm

/-- At a node that grades, only a sum beyond the range keeps a grade from being taken in. -/
theorem applyGrading_fault {node : Node} {config : GradedConfig} {userInput : String}
    {result : GradingResult} {fault : Fault}
    (found : story.node? state.currentSceneId state.currentNodeId = some node)
    (graded : node.body = .graded config)
    (failed : story.applyGrading state userInput result = .error fault) : fault = .overflow := by
  rw [applyGrading, currentNode_eq_ok.mpr found] at failed
  simp only [Outcome.bind_eq_error, reduceCtorEq, Except.ok.injEq, exists_eq_left', false_or,
    gradedConfig_eq_ok.mpr graded, Outcome.pure_ne_error, and_false, exists_false,
    or_false] at failed
  exact gradedVariables_fault failed

end Story

/-! ## What is refused -/

/-- Nothing is refused: a step is taken, or fails on the way to an answer. -/
def Unrefused {α : Type} (outcome : Except Fault α) : Prop :=
  ∀ fault, outcome = .error fault → fault.isRefusal = false

section Unrefused

variable {α β : Type}

@[simp] theorem unrefused_ok (value : α) : Unrefused (.ok value) := fun _ failed => nomatch failed

@[simp] theorem unrefused_pure (value : α) : Unrefused (pure value) := unrefused_ok value

@[simp] theorem unrefused_error {fault : Fault} :
    Unrefused (.error fault : Except Fault α) ↔ fault.isRefusal = false := by
  simp [Unrefused]

@[simp] theorem unrefused_throw {fault : Fault} :
    Unrefused (throw fault : Except Fault α) ↔ fault.isRefusal = false := unrefused_error

@[simp] theorem unrefused_bind {first : Except Fault α} {rest : α → Except Fault β} :
    Unrefused (first >>= rest) ↔
      Unrefused first ∧ ∀ value, first = .ok value → Unrefused (rest value) := by
  cases first <;> simp [Unrefused, bind, Except.bind]

@[simp] theorem unrefused_map {first : Except Fault α} {f : α → β} :
    Unrefused (f <$> first) ↔ Unrefused first := by
  cases first <;> simp [Unrefused, Functor.map, Except.map]

end Unrefused

/-- How long a text is without the white space around it. -/
def strippedLength (value : String) : Int := (Text.trimChars value.toList).length

/-- A rule on the length alone is satisfied exactly by the texts that are neither too short nor too
long. -/
theorem TextRule.unrefused_lengths {least most : Int} {value : String} :
    Unrefused ((lengths least most).check value) ↔
      least ≤ strippedLength value ∧ strippedLength value ≤ most := by
  simp only [check, lengths, strippedLength, matchesPattern, nonempty?]
  by_cases short : (Text.trimChars value.toList).length < least
  · simp [short, Fault.isRefusal, Int.not_le.mpr short]
  · by_cases long : most < (Text.trimChars value.toList).length
    · simp [short, long, Fault.isRefusal, Int.not_le.mpr long]
    · simp [short, long, Int.not_lt.mp short, Int.not_lt.mp long]

namespace Story

variable {story : Story} {state : GameState} {node : Node}

theorem activeNode_gate (gate : state.gameStarted = false) :
    story.activeNode state = .error (.inapplicable .notStarted) := by
  simp only [activeNode, requireStarted, gate]
  rfl

/-- Without an active node, the game has not started or its node does not exist. -/
theorem activeNode_fault {fault : Fault} (failed : story.activeNode state = .error fault) :
    fault = .inapplicable .notStarted ∨
      fault = .nodeNotFound state.currentSceneId state.currentNodeId := by
  rw [activeNode, requireStarted, currentNode_eq, Outcome.bind_eq_error] at failed
  rcases failed with gate | ⟨_, _, nowhere⟩
  · split at gate <;> cases gate
    exact .inl rfl
  · split at nowhere <;> cases nowhere
    exact .inr rfl

/-- Without an active node, no step is taken. -/
theorem steps_inactive {fault : Fault} (inactive : story.activeNode state = .error fault) :
    story.acknowledge state = .error fault ∧
      (∀ choiceId, story.selectChoice state choiceId = .error fault) ∧
      (∀ value, story.submitInput state value = .error fault) ∧
      ∀ value, story.validateResponse state value = .error fault := by
  refine ⟨?_, fun _ => ?_, fun _ => ?_, fun _ => ?_⟩
  · rw [acknowledge, inactive]
    rfl
  · rw [selectChoice, inactive]
    rfl
  · rw [submitInput, inactive]
    rfl
  · rw [validateResponse, inactive]
    rfl

theorem unrefused_startGame {name : String} :
    Unrefused (story.startGame state name) ↔
      story.settings.nameMinLength ≤ strippedLength name ∧
        strippedLength name ≤ story.settings.nameMaxLength := by
  simp [startGame, TextRule.unrefused_lengths]

theorem unrefused_acknowledge (active : story.activeNode state = .ok node) :
    Unrefused (story.acknowledge state) ↔ node.body.kind.isAcknowledged = true := by
  simp only [acknowledge, unrefused_bind, active, unrefused_ok, true_and, Except.ok.injEq,
    forall_eq']
  cases node.body <;> simp [NodeBody.kind, NodeKind.isAcknowledged, Fault.isRefusal]

theorem unrefused_mutate (vars : Variables) (set : Option Variables) (add : Option Increments) :
    Unrefused (mutate vars set add) := by
  intro fault failed
  rw [← (Outcome.needed_eq_error.mp failed).2]
  rfl

/-- A choice is taken if its id is among those that are offered; at most a sum beyond the range can
stop it then. -/
theorem unrefused_selectChoice {choices available : List Choice} {choiceId : String}
    (active : story.activeNode state = .ok node) (body : node.body = .choice choices)
    (offered : availableChoices state.vars choices = .ok available) :
    Unrefused (story.selectChoice state choiceId) ↔ choiceId ∈ available.map (·.id) := by
  simp only [selectChoice, unrefused_bind, active, unrefused_ok, true_and, Except.ok.injEq,
    forall_eq', body, offered]
  cases found : available.find? fun choice => choice.id == choiceId with
  | some choice =>
    have named : choice.id = choiceId := by simpa using List.find?_some found
    simp only [unrefused_mutate, unrefused_bind, unrefused_pure, implies_true, and_self, true_iff]
    exact List.mem_map.mpr ⟨choice, List.mem_of_find?_eq_some found, named⟩
  | none => simpa [Fault.isRefusal] using found

theorem selectChoice_elsewhere (active : story.activeNode state = .ok node)
    (body : ∀ choices, node.body ≠ .choice choices) (choiceId : String) :
    story.selectChoice state choiceId = .error (.inapplicable (.noChoices node.body.kind)) := by
  rw [selectChoice, Outcome.bind_eq_error]
  refine .inr ⟨node, active, ?_⟩
  cases is : node.body with
  | choice choices => exact absurd is (body choices)
  | _ => rfl

theorem unrefused_submitInput {value : String} (active : story.activeNode state = .ok node) :
    Unrefused (story.submitInput state value) ↔
      ∃ config, node.body = .input config ∧ Unrefused ((TextRule.ofInput config).check value) := by
  simp only [submitInput, unrefused_bind, active, unrefused_ok, true_and, Except.ok.injEq,
    forall_eq']
  cases node.body <;> simp [Fault.isRefusal]

/-- What is wrong with a text keeps it from being entered, whatever that is. -/
theorem submitInput_fault {value : String} {config : InputConfig} {fault : Fault}
    (active : story.activeNode state = .ok node) (body : node.body = .input config)
    (wrong : (TextRule.ofInput config).check value = .error fault) :
    story.submitInput state value = .error fault := by
  rw [submitInput, Outcome.bind_eq_error]
  refine .inr ⟨node, active, ?_⟩
  simp only [body, wrong]
  rfl

theorem unrefused_validateResponse {value : String} (active : story.activeNode state = .ok node) :
    Unrefused (story.validateResponse state value) ↔
      ∃ config, node.body = .graded config ∧ config.minLength ≤ strippedLength value ∧
        strippedLength value ≤ config.maxLength := by
  simp only [validateResponse, unrefused_bind, active, unrefused_ok, true_and, Except.ok.injEq,
    forall_eq', gradedConfig]
  cases node.body <;> simp [Fault.isRefusal, TextRule.unrefused_lengths]

/-- What is offered is among the choices of the node. -/
theorem offered_among {vars : Variables} {choices available : List Choice} {choice : Choice}
    (offered : availableChoices vars choices = .ok available) (among : choice ∈ available) :
    choice ∈ choices := by
  induction choices generalizing available with
  | nil =>
    cases offered
    cases among
  | cons first rest ih =>
    simp only [availableChoices, Outcome.bind_eq_ok, Outcome.pure_eq_ok] at offered
    obtain ⟨holds, _, others, restOffered, rfl⟩ := offered
    cases holds with
    | false => exact List.mem_cons_of_mem _ (ih restOffered among)
    | true =>
      rcases List.mem_cons.mp among with rfl | among
      · exact List.mem_cons_self
      · exact List.mem_cons_of_mem _ (ih restOffered among)

/-- Working out which choices are offered fails only on a comparison beyond the range. -/
theorem availableChoices_fault {vars : Variables} {choices : List Choice} {fault : Fault}
    (failed : availableChoices vars choices = .error fault) : fault = .overflow := by
  induction choices with
  | nil => cases failed
  | cons choice rest ih =>
    simp only [availableChoices, Outcome.bind_eq_error, Outcome.pure_ne_error, and_false,
      exists_false, or_false] at failed
    rcases failed with condition | ⟨_, _, others⟩
    · unfold isOffered at condition
      split at condition
      · cases condition
      · exact (Outcome.needed_eq_error.mp condition).2.symm
    · exact ih others

end Story

end VisualNovel
