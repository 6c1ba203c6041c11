import VisualNovel.Proofs.Runs

/-! The history as a way through the story. Each node that has been left leads to the node that was
left next, and the last one to where the player is. An action stays, goes one step further, or goes
back to the beginning; so an ending, and a node that does not exist, are left only by restarting. -/
namespace VisualNovel

/-- The position of the node that has been left. -/
def HistoryEntry.position (entry : HistoryEntry) : Position := ⟨entry.sceneId, entry.nodeId⟩

namespace Story

/-- A node names a target for whoever leaves it in a certain way. -/
inductive Names (story : Story) (entry : HistoryEntry) : String → Prop
  | next {node : Node} {target : String}
      (found : story.node? entry.sceneId entry.nodeId = some node)
      (kind : node.body.kind ∈ [.dialogue, .narration, .input, .graded])
      (unchosen : entry.choiceId = none) (named : node.nextNodeId = some target) :
      Names story entry target
  | chosen {node : Node} {choices : List Choice} {choice : Choice}
      (found : story.node? entry.sceneId entry.nodeId = some node)
      (body : node.body = .choice choices) (among : choice ∈ choices)
      (taken : entry.choiceId = some choice.id) : Names story entry choice.nextNodeId

/-- A node that has been left leads to a position. -/
def LeadsTo (story : Story) (entry : HistoryEntry) (next : Position) : Prop :=
  ∃ target, story.Names entry target ∧ target ≠ "" ∧ next = resolve target entry.sceneId

/-- The nodes that have been left make up a way from one position to another. -/
def Way (story : Story) (start : Position) : List HistoryEntry → Position → Prop
  | [], now => now = start
  | entry :: later, now =>
    entry.position = start ∧ ∃ next, story.LeadsTo entry next ∧ story.Way next later now

/-- Where a story begins: at the first node of its first scene, if that scene exists. -/
def beginning (story : Story) : Position where
  sceneId := story.startSceneId
  nodeId := match story.scene? story.startSceneId with
    | some scene => scene.startNodeId
    | none => ""

variable {story : Story} {start now next : Position} {entry : HistoryEntry}

theorem newGame_position (story : Story) : story.newGame.position = story.beginning := by
  unfold newGame beginning
  cases story.scene? story.startSceneId <;> rfl

/-- A way goes on from where it has led. -/
theorem Way.onward {history : List HistoryEntry} (way : story.Way start history now)
    (left : entry.position = now) (leads : story.LeadsTo entry next) :
    story.Way start (history ++ [entry]) next := by
  induction history generalizing start with
  | nil => exact ⟨left.trans way, next, leads, rfl⟩
  | cons first later ih =>
    obtain ⟨at_start, middle, to_middle, rest⟩ := way
    exact ⟨at_start, middle, to_middle, ih rest⟩

/-- Only nodes that exist are left, and no endings. -/
theorem LeadsTo.passable (leads : story.LeadsTo entry next) :
    ∃ node, story.node? entry.sceneId entry.nodeId = some node ∧ node.body ≠ .ending := by
  obtain ⟨_, names, _⟩ := leads
  cases names with
  | next found kind =>
    refine ⟨_, found, fun ending => ?_⟩
    simp [ending, NodeBody.kind] at kind
  | chosen found body =>
    refine ⟨_, found, fun ending => ?_⟩
    cases body.symm.trans ending

theorem Way.passable {history : List HistoryEntry} (way : story.Way start history now) :
    ∀ entry ∈ history,
      ∃ node, story.node? entry.sceneId entry.nodeId = some node ∧ node.body ≠ .ending := by
  induction history generalizing start with
  | nil => exact fun _ among => nomatch among
  | cons first later ih =>
    obtain ⟨_, middle, leads, rest⟩ := way
    intro entry among
    rcases List.mem_cons.mp among with rfl | among
    · exact leads.passable
    · exact ih rest entry among

end Story

/-- How an action changes where the player is: not at all, by a step, or by beginning again. -/
inductive Travels (story : Story) (action : Action) (before now : GameState) : Prop
  | stays (history : now.history = before.history) (position : now.position = before.position)
  | steps {entry : HistoryEntry} (left : entry.position = before.position)
      (history : now.history = before.history ++ [entry])
      (leads : story.LeadsTo entry now.position)
  | returns (again : action = .restart) (history : now.history = [])
      (position : now.position = story.beginning)

/-- An action that loads no state. -/
def Action.Unloaded (action : Action) : Prop := ∀ saved, action ≠ .load saved

namespace Engine

variable {story : Story} {engine first now : Engine} {events : List Event}

/-- Whoever is sent to a target gets there by a step, if it is a target at all. -/
theorem navigate_travels {action : Action} {state : GameState} {target choiceId : Option String}
    {change : GameState → GameState} (position : (change state).position = state.position)
    (history : (change state).history = state.history)
    (names : ∀ goal, target = some goal →
      story.Names ⟨state.currentSceneId, state.currentNodeId, choiceId⟩ goal) :
    Travels story action state (state.navigate target choiceId change) := by
  rw [GameState.navigate_eq]
  cases target with
  | none => exact .stays history position
  | some goal =>
    by_cases empty : goal = ""
    · simp only [nonempty?, empty, if_true]
      exact .stays history position
    · simp only [nonempty?, empty, if_false]
      exact .steps rfl rfl ⟨goal, names goal rfl, empty, rfl⟩

/-- What an action completes is a stay, a step or a new beginning. -/
theorem completed_travels {action : Action} {carried : GameState} (sound : Sound story engine)
    (completes : engine.Completes action) (led : engine.completed action = .ok carried) :
    Travels story action engine.state carried := by
  cases sound.story
  cases action with
  | start name =>
    simp only [completed] at led
    split at led
    · cases led
    · obtain ⟨_, _, rfl⟩ := Story.startGame_eq_ok.mp led
      exact .stays rfl rfl
  | advance =>
    obtain ⟨_, node, found, ⟨_, rfl⟩ | ⟨plain, rfl⟩⟩ :=
      Story.acknowledge_eq_ok.mp (onceIdle_eq_ok.mp led).2
    · exact .stays rfl rfl
    · refine navigate_travels rfl rfl fun goal named => .next found ?_ rfl named
      rcases plain with body | body <;> simp [body, NodeBody.kind]
  | choose choiceId =>
    obtain ⟨_, node, found, choices, body, available, offered, choice, first, _, _, rfl⟩ :=
      Story.selectChoice_eq_ok.mp (onceIdle_eq_ok.mp led).2
    refine navigate_travels rfl rfl fun goal named => ?_
    cases named
    exact .chosen found body (Story.offered_among offered (List.mem_of_find?_eq_some first)) rfl
  | submit value =>
    obtain ⟨_, node, found, config, body, _, _, rfl⟩ :=
      Story.submitInput_eq_ok.mp (onceIdle_eq_ok.mp led).2
    exact navigate_travels rfl rfl fun goal named =>
      .next found (by simp [body, NodeBody.kind]) rfl named
  | finishGrading ticket result =>
    have graded : engine.story.applyGrading engine.state ticket.userInput result = .ok carried :=
      (if_pos completes).symm.trans led
    obtain ⟨node, found, config, body, _, _, rfl⟩ := Story.applyGrading_eq_ok.mp graded
    exact navigate_travels rfl rfl fun goal named =>
      .next found (by simp [body, NodeBody.kind]) rfl named
  | restart =>
    cases led
    exact .returns rfl rfl (Story.newGame_position _)
  | beginGrading | cancelGrading | load | showFeedback => exact completes.elim

/-- Any action is a stay, a step or a new beginning, even if it fails. -/
theorem step_travels {action : Action} {turn : Turn Answer} (sound : Sound story engine)
    (step : Step engine action turn) (unloaded : action.Unloaded) :
    Travels story action engine.state turn.engine.state := by
  cases step with
  | refused | ungraded | movedOn | discarded | handedOut | cancelled | shown =>
    exact .stays rfl rfl
  | @loaded saved => exact absurd rfl (unloaded saved)
  | completed completes led entry =>
    rename_i carried turn
    have follows := andThen_prepend_follows (engine.cue action) (entry_follows entry)
    obtain ⟨vars, state⟩ := follows.state
    rw [Turn.as_engine, state]
    cases completed_travels sound completes led with
    | stays history position => exact .stays history position
    | steps left history leads => exact .steps left history leads
    | returns again history position => exact .returns again history position

/-- Nothing but a step lengthens the way, and only by the node that has been left. -/
theorem travels_way {action : Action} {before now : GameState}
    (way : story.Way story.beginning before.history before.position)
    (travels : Travels story action before now) :
    story.Way story.beginning now.history now.position := by
  cases travels with
  | stays history position => rwa [history, position]
  | steps left history leads =>
    rw [history]
    exact way.onward left leads
  | returns again history position =>
    rw [history]
    exact position

/-- There is no way on: the player is at an ending or at no node at all. -/
def AtEnd (engine : Engine) : Prop :=
  engine.node? = none ∨ ∃ node, engine.node? = some node ∧ node.body = .ending

/-- Whoever has come to an end stays there. -/
theorem end_stays {action : Action} {state : GameState} (sound : Sound story engine)
    (ended : engine.AtEnd) (once : action ≠ .restart)
    (travels : Travels story action engine.state state) :
    state.position = engine.state.position ∧ state.history = engine.state.history := by
  cases travels with
  | stays history position => exact ⟨position, history⟩
  | returns again => exact absurd again once
  | @steps entry left history leads =>
    obtain ⟨node, found, passable⟩ := leads.passable
    have scene : entry.sceneId = engine.state.currentSceneId := congrArg Position.sceneId left
    have place : entry.nodeId = engine.state.currentNodeId := congrArg Position.nodeId left
    rw [scene, place, ← sound.story] at found
    rcases ended with missing | ⟨other, there, ending⟩
    · cases missing.symm.trans found
    · cases there.symm.trans found
      exact absurd ending passable

/-- Being at an end depends on the story and the position alone. -/
theorem AtEnd.there (ended : engine.AtEnd) (sound : Sound story engine) (sound' : Sound story now)
    (position : now.state.position = engine.state.position) : now.AtEnd := by
  have same : now.node? = engine.node? := by
    rw [node?, node?, sound.story, sound'.story]
    exact congrArg₂ story.node? (congrArg Position.sceneId position)
      (congrArg Position.nodeId position)
  rwa [AtEnd, same]

/-- An end that has been reached is left only by restarting or by loading another state. -/
theorem end_lasts (sound : Sound story engine) (ended : engine.AtEnd)
    (played : Played engine events now)
    (onward : ∀ event ∈ events, event.action ≠ .restart ∧ event.action.Unloaded) :
    now.state.position = engine.state.position ∧ now.state.history = engine.state.history := by
  induction played with
  | opened => exact ⟨rfl, rfl⟩
  | @acted earlier middle played action stayed =>
    obtain ⟨position, history⟩ := stayed fun event among =>
      onward event (List.mem_append_left _ among)
    obtain ⟨once, unloaded⟩ := onward ⟨middle, action⟩ (by simp)
    have soundThere := sound_played sound played
    have travels := step_travels soundThere (act_step middle action) unloaded
    obtain ⟨stays, keeps⟩ :=
      end_stays soundThere (ended.there sound soundThere position) once travels
    exact ⟨stays.trans position, keeps.trans history⟩

/-- What the history says of how the player has come to be where the player is. -/
structure KeepsToWays (story : Story) (engine : Engine) : Prop where
  /-- The nodes that have been left lead from the beginning of the story to the player. -/
  way : story.Way story.beginning engine.state.history engine.state.position
  /-- They exist, and none of them is an ending. -/
  passable : ∀ entry ∈ engine.state.history,
    ∃ node, story.node? entry.sceneId entry.nodeId = some node ∧ node.body ≠ .ending
  /-- Where there is no way on, the player stays until the game is restarted. -/
  final : engine.AtEnd → ∀ later now, Played engine later now →
    (∀ event ∈ later, event.action ≠ .restart ∧ event.action.Unloaded) →
      now.state.position = engine.state.position ∧ now.state.history = engine.state.history

/-- In every playthrough that is begun anew and in which nothing is loaded, the history is a way
from the beginning of the story to where the player is. -/
theorem history_is_a_way {playback : Playback} {background : Option String}
    (begun : (begin story playback background).outcome = .ok ())
    (played : Played (begin story playback background).engine events engine)
    (unloaded : ∀ event ∈ events, event.action.Unloaded) : KeepsToWays story engine := by
  have opened := opening_sound (.fresh begun)
  have way : story.Way story.beginning engine.state.history engine.state.position := by
    induction played with
    | opened =>
      obtain ⟨vars, state⟩ :=
        (entry_follows (enter_entry (initial story playback background))).state
      rw [begin, state]
      exact Story.newGame_position story
    | @acted earlier middle played action way =>
      have travels := step_travels (sound_played opened played) (act_step middle action)
        (unloaded ⟨middle, action⟩ (by simp))
      exact travels_way (way fun event among => unloaded event (List.mem_append_left _ among))
        travels
  refine ⟨way, way.passable, fun ended later now onward still => ?_⟩
  exact end_lasts (sound_played opened played) ended onward still

/-- A story of a fork in the road, of which one branch leads into another scene. -/
def fork : Story :=
  { Story.lone (.bare "road" .narration) with
    scenes :=
      [⟨"day", "Day", "road", [{ Node.bare "road" .narration with nextNodeId := some "fork" },
          .bare "fork" (.choice [⟨"left", "Left", "night/inn", none, none, none⟩])]⟩,
        ⟨"night", "Night", "inn", [.bare "inn" .ending]⟩]
    startSceneId := "day" }

/-- The traveller on that road, who goes on and then to the left. -/
def traveller : Engine :=
  (((begin fork .standard none).engine.act .advance).engine.act (.choose "left")).engine

theorem traveller_has_come_by_the_fork :
    KeepsToWays fork traveller ∧ traveller.AtEnd ∧
      traveller.state.history = [⟨"day", "road", none⟩, ⟨"day", "fork", some "left"⟩] ∧
      traveller.state.position = ⟨"night", "inn"⟩ :=
  ⟨history_is_a_way rfl (.acted (.acted .opened .advance) (.choose "left"))
    (by simp [Action.Unloaded]), .inr ⟨_, rfl, rfl⟩, by decide, by decide⟩

end Engine

end VisualNovel
