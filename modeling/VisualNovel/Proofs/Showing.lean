import VisualNovel.Proofs.Offers
import VisualNovel.Proofs.Ranges

/-! Whether the current node can be shown. Its texts are written out whatever the variables hold,
numbers with as many digits as they have, but each of its choices may have a condition, and an order
puts both of its sides into double precision: what is no number makes it false, and only an integer
that is too large for that keeps the node from being shown. -/
namespace VisualNovel

/-- An integer that no order can be asked about. -/
def Value.Beyond : Value → Prop
  | .number (.int n) => Binary64.reach ≤ n.natAbs
  | _ => False

theorem Value.toNumber?_eq_none {value : Value} : value.toNumber? = none ↔ value.Beyond := by
  cases value with
  | bool value => exact iff_of_false nofun id
  | number number =>
    cases number with
    | int n => simp only [toNumber?, Number.toBinary64?, Beyond, Binary64.ofInt?_eq_none]
    | float x => exact iff_of_false nofun id
  | text value =>
    refine iff_of_false ?_ id
    simp only [toNumber?]
    split <;> exact nofun

namespace Comparison

/-- Whether the two sides are compared as numbers. -/
def IsOrder : Comparison → Prop
  | equal | different => False
  | greater | less | greaterOrEqual | lessOrEqual => True

variable {comparison : Comparison} {left right : Option Value}

/-- An absent value is no number, but not beyond the range. -/
theorem toNumber?_eq_none {side : Option Value} :
    toNumber? side = none ↔ ∃ value, side = some value ∧ value.Beyond := by
  cases side with
  | none => exact iff_of_false nofun (by simp)
  | some value => simp [toNumber?, Value.toNumber?_eq_none]

theorem order_eq_none {holds : Binary64 → Binary64 → Bool} :
    order holds left right = none ↔ toNumber? left = none ∨ toNumber? right = none := by
  simp only [order]
  cases toNumber? left <;> cases toNumber? right <;> simp

theorem holds?_eq_none : comparison.holds? left right = none ↔
    comparison.IsOrder ∧ ∃ value, (left = some value ∨ right = some value) ∧ value.Beyond := by
  have sides : (∃ value, (left = some value ∨ right = some value) ∧ value.Beyond) ↔
      toNumber? left = none ∨ toNumber? right = none := by
    simp only [toNumber?_eq_none, or_and_right, exists_or]
  cases comparison with
  | equal | different => exact iff_of_false nofun And.left
  | greater | less | greaterOrEqual | lessOrEqual =>
    rw [sides, holds?, order_eq_none]
    exact (and_iff_right trivial).symm

/-- No order holds of what is no number. -/
theorem not_of_nan (orders : comparison.IsOrder)
    (nothing : toNumber? left = some .nan ∨ toNumber? right = some .nan) :
    comparison.holds? left right ≠ some true := by
  have incomparable (a b : Binary64) (nan : a = .nan ∨ b = .nan) : a.compare? b = none := by
    rcases nan with rfl | rfl
    · rfl
    · cases a <;> rfl
  have refuted {holds : Binary64 → Binary64 → Bool}
      (fails : ∀ a b, a = .nan ∨ b = .nan → holds a b = false) :
      order holds left right ≠ some true := by
    intro verdict
    simp only [order, Option.bind_eq_bind, Option.bind_eq_some_iff, Option.pure_def,
      Option.some.injEq] at verdict
    obtain ⟨a, isA, b, isB, holding⟩ := verdict
    have nan : a = .nan ∨ b = .nan := by simpa [isA, isB] using nothing
    rw [fails a b nan] at holding
    cases holding
  cases comparison with
  | equal | different => exact orders.elim
  | greater => exact refuted fun a b nan => by simp [Binary64.lt, incomparable b a nan.symm]
  | less => exact refuted fun a b nan => by simp [Binary64.lt, incomparable a b nan]
  | greaterOrEqual => exact refuted fun a b nan => by simp [Binary64.le, incomparable b a nan.symm]
  | lessOrEqual => exact refuted fun a b nan => by simp [Binary64.le, incomparable a b nan]

end Comparison

namespace Condition

/-- A condition whose order cannot be asked about one of its sides. -/
def Overflows (condition : Condition) (vars : Variables) : Prop :=
  ∃ comparison, Comparison.ofOperator? condition.operator = some comparison ∧
    comparison.IsOrder ∧
    ∃ value, (vars.get? condition.name = some value ∨ condition.value = some value) ∧ value.Beyond

theorem holds?_eq_none {condition : Condition} {vars : Variables} :
    condition.holds? vars = none ↔ condition.Overflows vars := by
  unfold holds? Overflows
  cases Comparison.ofOperator? condition.operator with
  | none => exact iff_of_false nofun (by simp)
  | some comparison => simp [Comparison.holds?_eq_none]

end Condition

/-- The conditions of the choices that are offered at a node. -/
def NodeBody.conditions : NodeBody → List Condition
  | .choice choices => choices.filterMap (·.condition)
  | _ => []

namespace Story

variable {story : Story} {state : GameState} {node : Node} {background : Option String}
  {pending : Bool}

theorem isOffered_eq_ok {vars : Variables} {choice : Choice} :
    (∃ offered, isOffered vars choice = .ok offered) ↔
      ∀ condition, choice.condition = some condition → ¬condition.Overflows vars := by
  unfold isOffered
  cases choice.condition with
  | none => simp
  | some condition =>
    simp only [← Condition.holds?_eq_none, Option.some.injEq, forall_eq']
    cases condition.holds? vars <;> simp

/-- It comes out which choices are offered exactly if it comes out of each condition. -/
theorem availableChoices_eq_ok {vars : Variables} {choices : List Choice} :
    (∃ available, availableChoices vars choices = .ok available) ↔
      ∀ condition ∈ choices.filterMap (·.condition), ¬condition.Overflows vars := by
  induction choices with
  | nil => simp [availableChoices]
  | cons choice rest ih =>
    have parts : (∃ available, availableChoices vars (choice :: rest) = .ok available) ↔
        (∃ offered, isOffered vars choice = .ok offered) ∧
          ∃ others, availableChoices vars rest = .ok others := by
      simp only [availableChoices, Outcome.bind_eq_ok, Outcome.pure_eq_ok]
      constructor
      · rintro ⟨_, offered, first, others, second, _⟩
        exact ⟨⟨offered, first⟩, others, second⟩
      · rintro ⟨⟨offered, first⟩, others, second⟩
        exact ⟨_, offered, first, others, second, rfl⟩
    rw [parts, ih, isOffered_eq_ok]
    cases conditioned : choice.condition with
    | none => simp [conditioned]
    | some condition => simp [conditioned]

/-- What is shown of a node comes out exactly if it comes out which choices are offered. -/
theorem nodeView_eq_ok :
    (∃ shown, story.nodeView state background pending node = .ok shown) ↔
      ∀ condition ∈ node.body.conditions, ¬condition.Overflows state.vars := by
  cases body : node.body with
  | choice choices =>
    rw [NodeBody.conditions, ← availableChoices_eq_ok]
    simp only [nodeView, body, Outcome.bind_eq_ok, Outcome.pure_eq_ok]
    constructor
    · rintro ⟨_, available, offered, _⟩
      exact ⟨available, offered⟩
    · rintro ⟨available, offered⟩
      exact ⟨_, available, offered, rfl⟩
  | _ => simp [nodeView, body, NodeBody.conditions]

end Story

namespace Engine

theorem view_nowhere {engine : Engine} (started : engine.state.gameStarted = true)
    (missing : engine.node? = none) : engine.view =
      .error (.nodeNotFound engine.state.currentSceneId engine.state.currentNodeId) := by
  unfold node? at missing
  simp only [Engine.view, Story.view, started, ↓reduceIte, Story.currentNode_eq, missing]
  rfl

/-- Only a game that has begun can come to a node that is not there. -/
theorem nowhere_of_view {engine : Engine} {sceneId nodeId : String}
    (viewed : engine.view = .error (.nodeNotFound sceneId nodeId)) :
    engine.state.gameStarted = true ∧ engine.node? = none := by
  have inactive := view_without_node viewed
  cases started : engine.state.gameStarted with
  | false => cases (Story.activeNode_gate started).symm.trans inactive
  | true =>
    refine ⟨rfl, Option.eq_none_iff_forall_ne_some.mpr fun node found => ?_⟩
    cases (Story.activeNode_eq_ok.mpr ⟨started, found⟩).symm.trans inactive

/-- What the view of a playthrough comes to. -/
structure Showing (engine : Engine) : Prop where
  gate : engine.state.gameStarted = false → engine.view =
    .ok ⟨engine.state.position, .nameEntry engine.story.nameEntryView,
      engine.state.showFeedbackScreen⟩
  nowhere : engine.state.gameStarted = true → engine.node? = none → engine.view =
    .error (.nodeNotFound engine.state.currentSceneId engine.state.currentNodeId)
  /-- A node is shown if no order among its conditions is asked of an integer beyond the range. -/
  shown : ∀ node, engine.state.gameStarted = true → engine.node? = some node →
    (∀ condition ∈ node.body.conditions, ¬condition.Overflows engine.state.vars) →
      ∃ shown, engine.Shows node shown ∧ engine.view =
        .ok ⟨engine.state.position, .node shown, engine.state.showFeedbackScreen⟩
  /-- Otherwise the order fails, and the view with it. -/
  hidden : ∀ node, engine.state.gameStarted = true → engine.node? = some node →
    (∃ condition ∈ node.body.conditions, condition.Overflows engine.state.vars) →
      engine.view = .error .overflow
  /-- What is no number only makes an order false. -/
  unordered : ∀ (condition : Condition) comparison,
    Comparison.ofOperator? condition.operator = some comparison → comparison.IsOrder →
      (Comparison.toNumber? (engine.state.vars.get? condition.name) = some .nan ∨
          Comparison.toNumber? condition.value = some .nan) →
        condition.holds? engine.state.vars ≠ some true

/-- A choice that is offered to whoever has more than one piece of gold, and has far more. -/
def strongroom : Story :=
  { Story.lone (.bare "door" (.choice [{
      id := "open", text := "Open it", nextNodeId := "door", setVariables := none
      addVariables := none, condition := some ⟨"gold", ">", some (.number (.int 1))⟩ }])) with
    vars := .ofList [("gold", .number (.int (Int.pow 10 400)))] }

end Engine

end VisualNovel
