import VisualNovel.Proofs.Failures
import VisualNovel.Proofs.Reloading
import VisualNovel.Proofs.Sounds
import VisualNovel.Proofs.Ways

/-! Which background the player is in front of. A background stays until a node names another one
that the story knows, so it is the last one that has been named on the way to where the player is.
The exception is a node that could not be entered because a sum of it goes beyond the range: the
player stands there, but its background has been missed. -/
namespace VisualNovel

/-- The arrivals at the nodes that have been left. -/
def GameState.departures (state : GameState) : List Arrival :=
  state.history.mapIdx fun count entry => ⟨entry.sceneId, entry.nodeId, count⟩

/-- The arrivals on the way to where the player is: at the nodes that have been left, and then at
the current one. -/
def GameState.arrivals (state : GameState) : List Arrival := state.departures ++ [state.arrival]

/-- The picture that is named by the node at which a player arrives, if there is such a node and the
story knows its background. -/
def Story.picture? (story : Story) (arrival : Arrival) : Option String := do
  let node ← story.node? arrival.sceneId arrival.nodeId
  let background ← (nonempty? node.background).bind story.background?
  return background.src

/-- The last picture that is named on a way. -/
def Story.lastPicture? (story : Story) (arrivals : List Arrival) : Option String :=
  (arrivals.filterMap story.picture?).getLast?

/-- Where a turn leaves the player that fails. -/
def Turn.failedAt? {α : Type} (turn : Turn α) : Option Arrival :=
  match turn.outcome with
  | .ok _ => none
  | .error _ => some turn.engine.state.arrival

/-- The arrival that has failed in an event: the player has got somewhere, but could not enter the
node. -/
def Event.missed? (event : Event) : Option Arrival :=
  match event.before.completed event.action with
  | .ok _ => event.turn.failedAt?
  | .error _ => none

/-- The arrivals that have failed since the game began or began again. -/
def missedIn (events : List Event) : List Arrival :=
  events.foldl (fun missed event =>
    (if event.action = .restart then [] else missed) ++ event.missed?.toList) []

theorem missedIn_snoc (events : List Event) (event : Event) :
    missedIn (events ++ [event]) =
      (if event.action = .restart then [] else missedIn events) ++ event.missed?.toList := by
  rw [missedIn, List.foldl_append]
  rfl

/-- An arrival has failed in an event exactly if the event has failed inside. -/
theorem Event.missed?_eq_none {event : Event} : event.missed? = none ↔ ¬event.FailsInside := by
  unfold missed? FailsInside Turn.failedAt?
  cases event.before.completed event.action with
  | error fault => simp
  | ok carried => cases event.turn.outcome <;> simp

/-- Where no event has failed inside, nothing has been missed. -/
theorem missedIn_eq_nil {events : List Event} (fine : ∀ event ∈ events, ¬event.FailsInside) :
    missedIn events = [] := by
  induction events using List.reverseRecOn with
  | nil => rfl
  | append_singleton events event ih =>
    rw [missedIn_snoc, ih fun event among => fine event (List.mem_append_left _ among),
      Event.missed?_eq_none.mpr (fine event (by simp))]
    simp

variable {state now : GameState} {entry : HistoryEntry} {arrival : Arrival}

/-- Whoever takes a step leaves the node where they were. -/
theorem departures_step (left : entry.position = state.position)
    (history : now.history = state.history ++ [entry]) : now.departures = state.arrivals := by
  have scene : entry.sceneId = state.currentSceneId := congrArg Position.sceneId left
  have node : entry.nodeId = state.currentNodeId := congrArg Position.nodeId left
  simp only [GameState.departures, history, List.mapIdx_append, List.mapIdx_cons, List.mapIdx_nil,
    Nat.zero_add, scene, node]
  rfl

theorem departure_earlier (departed : arrival ∈ state.departures) :
    arrival.historyLength < state.history.length := by
  obtain ⟨count, bound, rfl⟩ := List.mem_mapIdx.mp departed
  exact bound

/-- The way is told by the history and the position alone. -/
theorem arrivals_congr (history : now.history = state.history)
    (position : now.position = state.position) : now.arrivals = state.arrivals := by
  have scene : now.currentSceneId = state.currentSceneId := congrArg Position.sceneId position
  have node : now.currentNodeId = state.currentNodeId := congrArg Position.nodeId position
  simp only [GameState.arrivals, GameState.departures, GameState.arrival, history, scene, node]

/-- Where the player has been able to enter the node, it is the end of the way. -/
theorem filter_arrivals_entered {missed : List Arrival} (entered : state.arrival ∉ missed) :
    state.arrivals.filter (· ∉ missed) =
      state.departures.filter (· ∉ missed) ++ [state.arrival] := by
  rw [GameState.arrivals, List.filter_append, List.filter_singleton]
  simp [entered]

/-- Where the arrival has failed, the way ends with the nodes that have been left: none of these is
missed now. -/
theorem filter_arrivals_missed (state : GameState) (missed : List Arrival) :
    state.arrivals.filter (· ∉ missed ++ [state.arrival]) =
      state.departures.filter (· ∉ missed) := by
  have others : state.departures.filter (· ∉ missed ++ [state.arrival]) =
      state.departures.filter (· ∉ missed) := by
    refine List.filter_congr fun departed among => ?_
    have other : departed ≠ state.arrival := by
      rintro rfl
      exact Nat.lt_irrefl _ (departure_earlier among)
    simp [other]
  rw [GameState.arrivals, List.filter_append, List.filter_singleton, others]
  simp

namespace Story

variable {story : Story}

theorem lastPicture?_snoc (story : Story) (arrivals : List Arrival) (arrival : Arrival) :
    story.lastPicture? (arrivals ++ [arrival]) =
      (story.picture? arrival).or (story.lastPicture? arrivals) := by
  unfold lastPicture?
  rw [List.filterMap_append]
  cases named : story.picture? arrival with
  | none => simp [named]
  | some picture => simp [named]

/-- A node has its own picture if it names one, and otherwise the one that was there. -/
theorem resolveBackground_eq {node : Node}
    (found : story.node? arrival.sceneId arrival.nodeId = some node) (previous : Option String) :
    story.resolveBackground node previous = (story.picture? arrival).or previous := by
  simp only [resolveBackground, picture?, found, Option.bind_eq_bind, Option.bind_some]
  cases (nonempty? node.background).bind story.background? <;> rfl

theorem picture?_nowhere (missing : story.node? arrival.sceneId arrival.nodeId = none) :
    story.picture? arrival = none := by
  simp [picture?, missing]

end Story

namespace Engine

variable {story : Story} {engine first : Engine} {events : List Event} {action : Action}

/-- Whoever arrives is in front of the picture of the node, if it names one; but if the arrival
fails, everything is as it was before. -/
theorem entry_background {turn : Turn Unit} (entry : Entry engine turn) (due : engine.Due) :
    turn.failedAt? = none ∧ turn.engine.background =
        (engine.story.picture? engine.state.arrival).or engine.background ∨
      turn.failedAt? = some engine.state.arrival ∧ turn.engine.background = engine.background := by
  cases entry with
  | quiet quiet => exact absurd due quiet
  | nowhere _ missing =>
    have unnamed : engine.story.picture? engine.state.arrival = none := Story.picture?_nowhere missing
    rw [unnamed, Option.none_or]
    exact .inl ⟨rfl, rfl⟩
  | beyond => exact .inr ⟨rfl, rfl⟩
  | entered _ found =>
    have there : engine.story.node? engine.state.arrival.sceneId engine.state.arrival.nodeId =
      some _ := found
    exact .inl ⟨rfl, Story.resolveBackground_eq there engine.background⟩

/-- What holds of the background at every moment: at the gate there is none and nothing has been
left or missed, and later on it is the last picture on the way, apart from what has been missed. -/
structure Framed (story : Story) (missed : List Arrival) (state : GameState)
    (background : Option String) : Prop where
  gate : state.gameStarted = false → background = none ∧ state.history = [] ∧ missed = []
  kept : state.gameStarted = true →
    background = story.lastPicture? (state.arrivals.filter (· ∉ missed))
  past : ∀ arrival ∈ missed, arrival.historyLength ≤ state.history.length

/-- What holds of the background just before an arrival takes place. -/
structure Approached (story : Story) (missed : List Arrival) (engine : Engine) : Prop where
  same : engine.story = story
  behind : engine.background =
    story.lastPicture? (engine.state.departures.filter (· ∉ missed))
  past : ∀ arrival ∈ missed, arrival.historyLength < engine.state.history.length

variable {missed : List Arrival}

theorem entry_framed {turn : Turn Unit} (entry : Entry engine turn) (due : engine.Due)
    (approached : Approached story missed engine) :
    Framed story (missed ++ turn.failedAt?.toList) turn.engine.state turn.engine.background := by
  obtain ⟨rfl, behind, past⟩ := approached
  obtain ⟨vars, state⟩ := (entry_follows entry).state
  have arrivals : turn.engine.state.arrivals = engine.state.arrivals := by
    rw [state]
    rfl
  have history : turn.engine.state.history = engine.state.history := by rw [state]
  have started : turn.engine.state.gameStarted = true := by
    rw [state]
    exact due.1
  have new : engine.state.arrival ∉ missed := fun old => Nat.lt_irrefl _ (past _ old)
  rcases entry_background entry due with ⟨fine, background⟩ | ⟨failed, background⟩
  · rw [fine, background, Option.toList_none, List.append_nil]
    refine ⟨fun gate => by simp [started] at gate, fun _ => ?_, fun arrival old => ?_⟩
    · rw [arrivals, filter_arrivals_entered new, Story.lastPicture?_snoc, behind]
    · rw [history]
      exact Nat.le_of_lt (past _ old)
  · rw [failed, background, Option.toList_some]
    refine ⟨fun gate => by simp [started] at gate, fun _ => ?_, fun arrival old => ?_⟩
    · rw [arrivals, filter_arrivals_missed, behind]
    · rw [history]
      rcases List.mem_append.mp old with old | now
      · exact Nat.le_of_lt (past _ old)
      · rw [List.mem_singleton.mp now]
        exact Nat.le_refl _

theorem Framed.congr {state now : GameState} {background : Option String}
    (framed : Framed story missed state background) (started : now.gameStarted = state.gameStarted)
    (history : now.history = state.history) (position : now.position = state.position) :
    Framed story missed now background := by
  obtain ⟨gate, kept, past⟩ := framed
  rw [← started, ← history] at gate
  rw [← started, ← arrivals_congr history position] at kept
  rw [← history] at past
  exact ⟨gate, kept, past⟩

theorem approached_anew (same : engine.story = story) (nowhere : engine.background = none)
    (nothing : engine.state.history = []) : Approached story [] engine := by
  refine ⟨same, ?_, by simp⟩
  rw [nowhere, GameState.departures, nothing]
  rfl

theorem prepared_background (once : action ≠ .restart) :
    (engine.prepared action).background = engine.background := by
  cases action with
  | restart => exact absurd rfl once
  | _ => rfl

/-- Whoever leaves a node by completing it arrives somewhere. -/
theorem arrives_of_step {carried : GameState} {entry : HistoryEntry}
    (completes : engine.Completes action) (once : action ≠ .restart)
    (history : carried.history = engine.state.history ++ [entry]) :
    action.Arrives engine.state carried := by
  cases action with
  | start => trivial
  | restart => exact absurd rfl once
  | load => exact completes.elim
  | _ => exact ⟨entry, history⟩

theorem entry_quiet {turn : Turn Unit} (entry : Entry engine turn) (quiet : ¬engine.Due) :
    turn = engine.done := by
  cases entry with
  | quiet => rfl
  | nowhere due | beyond due | entered due => exact absurd due quiet

/-- Where no arrival is on record, the first one is due as soon as the game has started. -/
theorem due_of_unmarked (started : engine.state.gameStarted = true)
    (unmarked : engine.entered = none) : engine.Due :=
  ⟨started, by simp [unmarked]⟩

/-- A game that begins again has no background until its first node is entered. -/
theorem restart_framed {turn : Turn Unit} (same : engine.story = story)
    (entry : Entry { engine.prepared .restart with state := engine.story.newGame } turn) :
    Framed story turn.failedAt?.toList turn.engine.state turn.engine.background := by
  by_cases due : Due { engine.prepared .restart with state := engine.story.newGame }
  · exact entry_framed entry due (approached_anew same rfl rfl)
  · have gate : engine.story.newGame.gameStarted ≠ true := fun started =>
      due (due_of_unmarked started rfl)
    rw [entry_quiet entry due]
    exact ⟨fun _ => ⟨rfl, rfl, rfl⟩, fun started => absurd started gate,
      by simp [Turn.failedAt?, done]⟩

/-- An action that completes the state keeps the background the last picture on the way, whether or
not it arrives anywhere. -/
theorem completed_framed {carried : GameState} {turn : Turn Unit} (sound : Sound story engine)
    (framed : Framed story missed engine.state engine.background)
    (completes : engine.Completes action) (once : action ≠ .restart)
    (led : engine.completed action = .ok carried)
    (entry : Entry { engine.prepared action with state := carried } turn) :
    Framed story (missed ++ turn.failedAt?.toList) turn.engine.state turn.engine.background := by
  have same : (engine.prepared action).story = story :=
    (prepared_story engine action).trans sound.story
  have arrives := due_iff_arrives sound completes led
  rcases completed_leads_on sound completes led with ⟨name, rfl⟩ | again | onward
  · -- At the gate there is no way behind the player.
    simp only [completed] at led
    split at led
    · cases led
    · rename_i gate
      obtain ⟨nowhere, nothing, rfl⟩ := framed.gate (Bool.eq_false_iff.mpr gate)
      obtain ⟨userName, _, rfl⟩ := Story.startGame_eq_ok.mp led
      exact entry_framed entry (arrives.mpr trivial) (approached_anew same nowhere nothing)
  · exact absurd again once
  · have start : ∀ name, action ≠ .start name := by
      rintro name rfl
      simp [completed, onward.before] at led
    cases completed_travels sound completes led with
    | returns again => exact absurd again once
    | stays history position =>
      have quiet := mt arrives.mp (not_arrives_of_history history start once)
      rw [entry_quiet entry quiet, Turn.failedAt?, done]
      simp only [Option.toList_none, List.append_nil, prepared_background once]
      exact framed.congr (onward.after.trans onward.before.symm) history position
    | steps left history =>
      have due := arrives.mpr (arrives_of_step completes once history)
      have departures := departures_step left history
      have behind := framed.kept onward.before
      refine entry_framed entry due ⟨same, ?_, fun arrival old => ?_⟩
      · dsimp only
        rw [prepared_background once, departures, behind]
      · have earlier := framed.past arrival old
        simp only [history, List.length_append, List.length_singleton]
        exact Nat.lt_succ_of_le earlier

theorem step_framed {turn : Turn Answer} {lost : Option Arrival} (sound : Sound story engine)
    (framed : Framed story missed engine.state engine.background)
    (step : Step engine action turn) (unloaded : action.Unloaded)
    (loses : lost = match engine.completed action with
      | .ok _ => turn.failedAt?
      | .error _ => none) :
    Framed story ((if action = .restart then [] else missed) ++ lost.toList)
      turn.engine.state turn.engine.background := by
  have still {now : Engine} (once : action ≠ .restart) (nothing : lost = none)
      (started : now.state.gameStarted = engine.state.gameStarted)
      (history : now.state.history = engine.state.history)
      (position : now.state.position = engine.state.position)
      (background : now.background = engine.background) :
      Framed story ((if action = .restart then [] else missed) ++ lost.toList)
        now.state now.background := by
    rw [if_neg once, nothing, Option.toList_none, List.append_nil, background]
    exact framed.congr started history position
  cases step with
  | @loaded saved => exact absurd rfl (unloaded saved)
  | refused other why =>
    have once : action ≠ .restart := by
      rintro rfl
      cases why
    exact still once (by rw [loses, why]) rfl rfl rfl rfl
  | ungraded waiting why => exact still (by simp) (by rw [loses, why]) rfl rfl rfl rfl
  | movedOn | discarded | handedOut | cancelled | shown =>
    refine still (by simp) ?_ rfl rfl rfl rfl
    rw [loses]
    split <;> rfl
  | completed completes led entry =>
    rename_i carried turn
    have same : (turn.andThen (prependAudio (engine.cue action))).engine.state =
          turn.engine.state ∧
        (turn.andThen (prependAudio (engine.cue action))).engine.background =
          turn.engine.background := by
      obtain ⟨outcome, after⟩ := turn
      cases outcome <;> exact ⟨rfl, rfl⟩
    have failed : lost = turn.failedAt? := by
      rw [loses, led]
      obtain ⟨outcome, after⟩ := turn
      cases outcome <;> rfl
    rw [Turn.as_engine, same.1, same.2, failed]
    by_cases again : action = .restart
    · subst again
      cases led
      exact restart_framed sound.story entry
    · rw [if_neg again]
      exact completed_framed sound framed completes again led entry

/-- A new game begins without a background. -/
theorem begin_framed {playback : Playback}
    (begun : (begin story playback none).outcome = .ok ()) :
    Framed story [] (begin story playback none).engine.state
      (begin story playback none).engine.background := by
  have entry := enter_entry (initial story playback none)
  by_cases due : (initial story playback none).Due
  · have framed := entry_framed entry due (approached_anew rfl rfl rfl)
    have fine : (initial story playback none).enter.failedAt? = none := by
      rw [Turn.failedAt?, show (initial story playback none).enter.outcome = .ok () from begun]
    rwa [fine] at framed
  · have gate : story.newGame.gameStarted ≠ true := fun started =>
      due (due_of_unmarked started rfl)
    rw [begin, entry_quiet entry due]
    exact ⟨fun _ => ⟨rfl, rfl, rfl⟩, fun started => absurd started gate, by simp⟩

theorem played_framed {playback : Playback}
    (begun : (begin story playback none).outcome = .ok ())
    (played : Played (begin story playback none).engine events engine)
    (unloaded : ∀ event ∈ events, event.action.Unloaded) :
    Framed story (missedIn events) engine.state engine.background := by
  induction played with
  | opened => exact begin_framed begun
  | @acted earlier middle played action framed =>
    have sound := played_sound (.fresh begun) played
    have before := framed fun event among => unloaded event (List.mem_append_left _ among)
    rw [missedIn_snoc]
    exact step_framed sound before (act_step middle action) (unloaded ⟨middle, action⟩ (by simp))
      rfl

/-- A node that has been entered is shown in front of the background that was found then. -/
theorem Framed.settled (framed : Framed story missed engine.state engine.background)
    (started : engine.state.gameStarted = true) (entered : engine.state.arrival ∉ missed) :
    (story.picture? engine.state.arrival).or engine.background = engine.background := by
  rw [framed.kept started, filter_arrivals_entered entered, Story.lastPicture?_snoc,
    ← Option.or_assoc, Option.or_self]

/-- How the background goes by the way on which the player has come. -/
structure Sticky (story : Story) (events : List Event) (engine : Engine) : Prop where
  gate : engine.state.gameStarted = false → engine.background = none
  /-- The background is the last one that is named by a node on the way, apart from the nodes that
  could not be entered. -/
  kept : engine.state.gameStarted = true →
    engine.background = story.lastPicture? (engine.state.arrivals.filter (· ∉ missedIn events))
  /-- What is shown of a node is in front of the picture that it names, or else of the
  background. -/
  seen : ∀ view shown, engine.view = .ok view → view.screen = .node shown →
    shown.background = (story.picture? engine.state.arrival).or engine.background
  /-- That is the background itself wherever the node could be entered. -/
  same : engine.state.arrival ∉ missedIn events → ∀ view shown, engine.view = .ok view →
    view.screen = .node shown → shown.background = engine.background
  /-- As long as no arrival has failed, nothing is left out on the way. -/
  whole : (∀ event ∈ events, ¬event.FailsInside) →
    (engine.state.gameStarted = true →
      engine.background = story.lastPicture? engine.state.arrivals) ∧
    ∀ view shown, engine.view = .ok view → view.screen = .node shown →
      shown.background = engine.background

/-- In every playthrough that is begun anew and in which nothing is loaded, the background is the
last one that has been named on the way to where the player is, apart from what has been missed. -/
theorem backgrounds_stay_unless_missed {playback : Playback}
    (begun : (begin story playback none).outcome = .ok ())
    (played : Played (begin story playback none).engine events engine)
    (unloaded : ∀ event ∈ events, event.action.Unloaded) : Sticky story events engine := by
  have framed := played_framed begun played unloaded
  have same := (played_sound (.fresh begun) played).story
  have seen (view : View) (shown : NodeView) (viewed : engine.view = .ok view)
      (screen : view.screen = .node shown) : engine.state.gameStarted = true ∧
        shown.background = (story.picture? engine.state.arrival).or engine.background := by
    rcases view_eq_ok.mp viewed with ⟨_, rfl⟩ | ⟨node, _, shows, rfl⟩
    · cases screen
    · cases screen
      have found : engine.story.node? engine.state.arrival.sceneId engine.state.arrival.nodeId =
        some node := shows.found
      rw [Story.nodeView_background shows.viewed, Story.resolveBackground_eq found, same]
      exact ⟨shows.started, rfl⟩
  have settled (entered : engine.state.arrival ∉ missedIn events) (view : View) (shown : NodeView)
      (viewed : engine.view = .ok view) (screen : view.screen = .node shown) :
      shown.background = engine.background := by
    obtain ⟨started, own⟩ := seen view shown viewed screen
    rw [own, framed.settled started entered]
  refine ⟨fun gate => (framed.gate gate).1, framed.kept,
    fun view shown viewed screen => (seen view shown viewed screen).2, settled, fun fine => ?_⟩
  have nothing := missedIn_eq_nil fine
  refine ⟨fun started => ?_, settled (by simp [nothing])⟩
  rw [framed.kept started, nothing]
  simp

/-- The reader in the nook is still in front of the picture of the hall. -/
theorem hall_stays_in_the_nook :
    Sticky house [⟨guest, .advance⟩] reader ∧ reader.background = some "hall.jpg" ∧
      house.picture? reader.state.arrival = none :=
  ⟨backgrounds_stay_unless_missed rfl (.acted .opened .advance) (by simp [Action.Unloaded]),
    by decide +kernel, by decide +kernel⟩

/-- The hoard with a picture of its vault. -/
def gallery : Story :=
  { hoard with
    backgrounds := [⟨"vault", "Vault", "vault.jpg"⟩]
    scenes :=
      [⟨"scene", "Scene", "gate", [{ Node.bare "gate" .narration with nextNodeId := some "vault" },
          { Node.bare "vault" .ending with
            background := some "vault"
            addVariables := some (.ofList [("gold", .float (.ofUnits false Binary64.one 2))]) }]⟩] }

/-- A visitor before the gate. -/
def visitor : Engine := (begin gallery .standard none).engine

/-- The background is not always the last one that is named on the way. -/
theorem a_background_may_be_missed :
    ¬∀ (story : Story) (playback : Playback) (events : List Event) (engine : Engine),
      (begin story playback none).outcome = .ok () →
        Played (begin story playback none).engine events engine →
          (∀ event ∈ events, event.action.Unloaded) → engine.state.gameStarted = true →
            engine.background = story.lastPicture? engine.state.arrivals := by
  intro last
  have same := last gallery .standard [⟨visitor, .advance⟩] (visitor.act .advance).engine rfl
    (.acted .opened .advance) (by simp [Action.Unloaded]) (by decide +kernel)
  exact absurd same (by decide +kernel)

end Engine

end VisualNovel
