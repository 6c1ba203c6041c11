import Mathlib.Data.List.Perm.Subperm
import VisualNovel.Proofs.Arrivals

/-! What is heard of a playthrough. An action tells the playback a few things in a row, and each may
bring about a command. The effects report these commands once: whoever carries them out after every
action that renews the effects carries out no command twice and hears the track that the playback
takes to be playing. An action that enters no node leaves the effects of the last arrival, so what
they say is not to be carried out again. -/
namespace VisualNovel

/-- Something that the playback is told. -/
inductive PlaybackCall where
  | track (src : String)
  | directive (directive : Option AudioDirective)
  | effect (src : String)
  | stop

/-- The track that is heard once a command has been carried out. -/
def AudioCommand.leaves (heard : Json) : AudioCommand → Json
  | .playBgm src _ _ => src
  | .stopBgm => .null
  | .playSfx _ _ => heard

/-- The track that is heard once some commands have been carried out. -/
def trackAfter (heard : Json) (commands : List AudioCommand) : Json :=
  commands.foldl AudioCommand.leaves heard

theorem trackAfter_append (heard : Json) (commands more : List AudioCommand) :
    trackAfter heard (commands ++ more) = trackAfter (trackAfter heard commands) more :=
  List.foldl_append

/-- The music that a story starts with. -/
def Story.ownMusic? (story : Story) : Option String := nonempty? story.settings.defaultBgm

namespace Playback

/-- What comes of a call. -/
def tell (p : Playback) : PlaybackCall → Playback × Option AudioCommand
  | .track src => p.playBgm (.str src) (.bool true)
  | .directive directive => p.play directive
  | .effect src => (p, some (p.sfxCommand (.str src)))
  | .stop => p.stop

/-- The playback after some calls, and the commands that they have brought about. -/
def calls (p : Playback) : List PlaybackCall → Playback × List AudioCommand
  | [] => (p, [])
  | call :: rest =>
    (((p.tell call).1.calls rest).1, (p.tell call).2.toList ++ ((p.tell call).1.calls rest).2)

theorem calls_append (p : Playback) (calls more : List PlaybackCall) :
    p.calls (calls ++ more) =
      (((p.calls calls).1.calls more).1,
        (p.calls calls).2 ++ ((p.calls calls).1.calls more).2) := by
  induction calls generalizing p with
  | nil => rfl
  | cons call rest ih => simp only [List.cons_append, Playback.calls, ih, List.append_assoc]

@[simp] theorem calls_singleton (p : Playback) (call : PlaybackCall) :
    p.calls [call] = ((p.tell call).1, (p.tell call).2.toList) := by
  simp only [calls, List.append_nil]

theorem playBgm_track (p : Playback) (src loop : Json) :
    trackAfter p.current (p.playBgm src loop).2.toList = (p.playBgm src loop).1.current := by
  unfold playBgm
  split <;> rfl

/-- Whoever hears what is playing and carries out the command of a call hears what is playing. -/
theorem tell_track (p : Playback) (call : PlaybackCall) :
    trackAfter p.current (p.tell call).2.toList = (p.tell call).1.current := by
  cases call with
  | track src => exact playBgm_track p _ _
  | effect src => rfl
  | stop =>
    simp only [Playback.tell, stop]
    split <;> rfl
  | directive directive =>
    cases directive with
    | none => rfl
    | some directive =>
      cases kind : directive.kind with
      | sfx => simp only [Playback.tell, play, kind]; rfl
      | bgm =>
        simp only [Playback.tell, play, kind]
        split
        · rfl
        · exact playBgm_track { p with lastDirective := .str directive.src } _ _

theorem calls_track (p : Playback) (calls : List PlaybackCall) :
    trackAfter p.current (p.calls calls).2 = (p.calls calls).1.current := by
  induction calls generalizing p with
  | nil => rfl
  | cons call rest ih => rw [Playback.calls, trackAfter_append, tell_track, ih]

theorem tell_sfxLevel (p : Playback) (call : PlaybackCall) :
    (p.tell call).1.sfxLevel = p.sfxLevel := by
  cases call with
  | track src =>
    simp only [Playback.tell, playBgm]
    split <;> rfl
  | directive directive =>
    obtain ⟨sfxVolume, _, muted⟩ := Engine.play_keeps_loudness p directive
    simp only [Playback.tell, sfxLevel, sfxVolume, muted]
  | effect src => rfl
  | stop =>
    simp only [Playback.tell, stop]
    split <;> rfl

/-- No call changes how loudly effects are heard. -/
theorem calls_sfxLevel (p : Playback) (calls : List PlaybackCall) :
    (p.calls calls).1.sfxLevel = p.sfxLevel := by
  induction calls generalizing p with
  | nil => rfl
  | cons call rest ih => exact (ih _).trans (tell_sfxLevel p call)

end Playback

namespace Action

/-- Whether an action puts another state in place. -/
def isLoad : Action → Bool
  | .load _ => true
  | _ => false

/-- Whether an action that has led from one state to another reaches a node: it arrives there, or it
loads a state that is there. -/
def Reaches (before now : GameState) (action : Action) : Prop :=
  action.isLoad = true ∨ action.Arrives before now

/-- Whether an action that has come to its end renews the effects: it begins again, arrives
somewhere, or loads a state at a node that exists. -/
def Renews (before : GameState) (now : Engine) (action : Action) : Prop :=
  action = .restart ∨ action.Arrives before now.state ∨
    action.isLoad = true ∧ now.node?.isSome = true

instance {before now : GameState} {action : Action} : Decidable (action.Reaches before now) :=
  inferInstanceAs (Decidable (_ ∨ _))

instance {before : GameState} {now : Engine} {action : Action} :
    Decidable (action.Renews before now) :=
  inferInstanceAs (Decidable (_ ∨ _))

/-- What moves nobody and loads nothing leaves the effects of the last arrival. -/
theorem not_renews_of_history {before : GameState} {now : Engine} {action : Action}
    (history : now.state.history = before.history) (start : ∀ name, action ≠ .start name)
    (restart : action ≠ .restart) (load : action.isLoad = false) : ¬action.Renews before now := by
  rintro (again | arrives | ⟨loads, _⟩)
  · exact restart again
  · exact Engine.not_arrives_of_history history start restart arrives
  · rw [load] at loads
    cases loads

theorem not_isLoad_of_completes {engine : Engine} {action : Action}
    (completes : engine.Completes action) : action.isLoad = false := by
  cases action with
  | load => exact completes.elim
  | _ => rfl

end Action

namespace Engine

/-- The node that an action reaches, if it exists. -/
def reached? (engine : Engine) (action : Action) : Option Node :=
  match engine.completed action with
  | .ok carried =>
    if action.Reaches engine.state carried then
      engine.story.node? carried.currentSceneId carried.currentNodeId
    else none
  | .error _ => none

/-- What a node tells the playback. -/
def directives (node : Option Node) : List PlaybackCall :=
  (node.map fun node => .directive node.audio).toList

/-- What an action tells the playback before any node does. -/
def callsBefore (engine : Engine) : Action → List PlaybackCall
  | .start _ => engine.story.ownMusic?.toList.map .track
  | .restart => [.stop]
  | _ => []

/-- What an action tells the playback after any node has. -/
def callsAfter (engine : Engine) : Action → List PlaybackCall
  | .choose _ => (nonempty? engine.story.settings.clickSfx).toList.map .effect
  | _ => []

/-- What an action tells the playback until it comes to its end, unless it fails by itself. -/
def callsUpTo (engine : Engine) (action : Action) : List PlaybackCall :=
  match engine.completed action with
  | .ok _ => engine.callsBefore action ++ directives (engine.reached? action)
  | .error _ => []

/-- All that an action tells the playback, in this order. -/
def callsOf (engine : Engine) (action : Action) : List PlaybackCall :=
  engine.callsUpTo action ++
    if (engine.act action).outcome.isOk then engine.callsAfter action else []

/-- The commands that an action brings about. -/
def issues (engine : Engine) (action : Action) : List AudioCommand :=
  (engine.playback.calls (engine.callsOf action)).2

variable {story : Story} {engine first now : Engine} {events : List Event} {action : Action}
  {carried : GameState}

/-! ## The calls of an action -/

/-- A node is told to the playback if and only if the arrival at it is due. -/
theorem reached?_eq (sound : Sound story engine) (completes : engine.Completes action)
    (led : engine.completed action = .ok carried) :
    (Due { engine.prepared action with state := carried } →
        engine.reached? action = node? { engine.prepared action with state := carried }) ∧
      (¬Due { engine.prepared action with state := carried } → engine.reached? action = none) := by
  have due := due_iff_arrives sound completes led
  have reaches : action.Reaches engine.state carried ↔ action.Arrives engine.state carried := by
    simp only [Action.Reaches, Action.not_isLoad_of_completes completes, Bool.false_eq_true,
      false_or]
  rw [due, ← reaches]
  constructor
  · intro arrives
    simp only [reached?, led, if_pos arrives, node?, prepared_story]
  · intro stays
    simp only [reached?, led, if_neg stays]

theorem entry_calls {turn : Turn Unit} {node : Option Node} (entry : Entry engine turn)
    (there : engine.Due → node = engine.node?) (nowhere : ¬engine.Due → node = none) :
    turn.engine.playback = (engine.playback.calls (directives node)).1 ∧
      (turn.outcome = .ok () → engine.Due →
        turn.engine.effects.audio = (engine.playback.calls (directives node)).2) ∧
      (¬engine.Due → turn.engine.effects = engine.effects) := by
  cases entry with
  | quiet quiet =>
    rw [nowhere quiet]
    exact ⟨rfl, fun _ due => absurd due quiet, fun _ => rfl⟩
  | nowhere due missing =>
    rw [there due, missing]
    exact ⟨rfl, fun _ _ => rfl, fun quiet => absurd due quiet⟩
  | beyond due found =>
    rw [there due, found]
    simp only [directives, Option.map_some, Option.toList_some, Playback.calls_singleton]
    exact ⟨rfl, nofun, fun quiet => absurd due quiet⟩
  | entered due found =>
    rw [there due, found]
    simp only [directives, Option.map_some, Option.toList_some, Playback.calls_singleton]
    exact ⟨rfl, fun _ _ => rfl, fun quiet => absurd due quiet⟩

@[simp] theorem calls_directives_none (p : Playback) : p.calls (directives none) = (p, []) := rfl

theorem callsUpTo_eq (led : engine.completed action = .ok carried) :
    engine.callsUpTo action = engine.callsBefore action ++ directives (engine.reached? action) := by
  simp only [callsUpTo, led]

/-- Before any node is entered, the playback is as those calls leave it that come first. -/
theorem prepared_playback (engine : Engine) (action : Action) :
    (engine.prepared action).playback =
      (engine.playback.calls (engine.callsBefore action)).1 := by
  cases action with
  | start name =>
    simp only [prepared, overture, callsBefore, Story.ownMusic?]
    cases nonempty? engine.story.settings.defaultBgm <;> rfl
  | _ => rfl

/-- The calls that come last leave the playback as it is, and what they bring about goes by how
loudly effects are heard. -/
theorem callsAfter_calls (engine : Engine) (action : Action) {p q : Playback}
    (loudness : q.sfxLevel = p.sfxLevel) :
    q.calls (engine.callsAfter action) = (q, (p.calls (engine.callsAfter action)).2) := by
  cases action with
  | choose choiceId =>
    rw [callsAfter]
    cases nonempty? engine.story.settings.clickSfx with
    | none => rfl
    | some src => simp [Playback.tell, Playback.sfxCommand, loudness]
  | _ => rfl

/-- They start and stop no track. -/
theorem callsAfter_track (engine : Engine) (action : Action) (p : Playback) (heard : Json) :
    trackAfter heard (p.calls (engine.callsAfter action)).2 = heard := by
  cases action with
  | choose choiceId =>
    rw [callsAfter]
    cases nonempty? engine.story.settings.clickSfx <;> rfl
  | _ => rfl

/-- The commands of an action that comes to its end. -/
theorem issues_eq {answer : Answer} (came : (engine.act action).outcome = .ok answer) :
    engine.issues action = (engine.playback.calls (engine.callsUpTo action)).2 ++
      (engine.playback.calls (engine.callsAfter action)).2 := by
  have after := callsAfter_calls engine action
    (engine.playback.calls_sfxLevel (engine.callsUpTo action))
  rw [issues, callsOf, came, Playback.calls_append]
  simp only [Except.isOk, Except.toBool, ↓reduceIte, after]

/-- What is heard of an action itself is what its own calls bring about. -/
theorem cue_eq (engine : Engine) (action : Action) :
    engine.cue action = (engine.playback.calls (engine.callsAfter action)).2 ++
      (engine.playback.calls (engine.callsBefore action)).2 := by
  cases action with
  | start name =>
    simp only [cue, overture, callsBefore, callsAfter, Story.ownMusic?]
    cases nonempty? engine.story.settings.defaultBgm with
    | none => rfl
    | some src => simp [Playback.calls, Playback.tell]
  | choose choiceId =>
    simp only [cue, callsBefore, callsAfter]
    cases nonempty? engine.story.settings.clickSfx <;> rfl
  | restart => simp [cue, callsBefore, callsAfter, Playback.calls, Playback.tell]
  | _ => rfl

/-- An action that comes to its end and moves nobody tells the playback nothing. -/
theorem callsUpTo_of_stays {turn : Turn Answer} {answer : Answer} (sound : Sound story engine)
    (step : Step engine action turn) (came : turn.outcome = .ok answer)
    (history : turn.engine.state.history = engine.state.history)
    (start : ∀ name, action ≠ .start name) (restart : action ≠ .restart)
    (load : action.isLoad = false) : engine.callsUpTo action = [] := by
  obtain ⟨carried, enters⟩ := step_enters sound step came
  have nowhere := not_arrives_of_history history start restart
  have unchanged : turn.engine.state = carried := (enters.otherwise (.inl nowhere)).unchanged
  have stays : ¬action.Reaches engine.state carried := by
    rw [← unchanged]
    rintro (loads | arrives)
    · rw [load] at loads
      cases loads
    · exact nowhere arrives
  have before : engine.callsBefore action = [] := by
    cases action with
    | start name => exact absurd rfl (start name)
    | restart => exact absurd rfl restart
    | _ => rfl
  rw [callsUpTo_eq enters.led, before]
  simp only [reached?, enters.led, if_neg stays]
  rfl

/-- A state that is loaded tells its node to the playback. -/
theorem callsUpTo_load (engine : Engine) (state : GameState) :
    engine.callsUpTo (.load state) =
      directives (engine.story.node? state.currentSceneId state.currentNodeId) := by
  simp only [callsUpTo, completed, callsBefore, reached?, Action.Reaches, Action.isLoad, true_or,
    ↓reduceIte, List.nil_append]

/-- What loading a state does to what is heard. -/
theorem load_calls (engine : Engine) (state : GameState) :
    (engine.load state).playback = (engine.playback.calls (engine.callsUpTo (.load state))).1 ∧
      ((engine.load state).node?.isSome = true → (engine.load state).effects.audio =
        (engine.playback.calls (engine.callsUpTo (.load state))).2) ∧
      ((engine.load state).node?.isSome ≠ true →
        (engine.playback.calls (engine.callsUpTo (.load state))).2 = []) := by
  rw [callsUpTo_load]
  unfold load
  cases found : engine.story.node? state.currentSceneId state.currentNodeId with
  | none =>
    refine ⟨rfl, fun there => ?_, fun _ => rfl⟩
    rw [node?, found] at there
    cases there
  | some node =>
    simp only [directives, Option.map_some, Option.toList_some, Playback.calls_singleton]
    refine ⟨rfl, fun _ => rfl, fun missing => ?_⟩
    rw [node?, found] at missing
    exact absurd rfl missing

/-- Commands put before those of an arrival change nothing about what is playing. -/
theorem andThen_prepend_playback (turn : Turn Unit) (commands : List AudioCommand) :
    (turn.andThen (prependAudio commands)).engine.playback = turn.engine.playback := by
  obtain ⟨outcome, after⟩ := turn
  cases outcome <;> rfl

/-- What an action has told the playback, whatever it has come to. -/
theorem step_playback {turn : Turn Answer} (sound : Sound story engine)
    (step : Step engine action turn) :
    turn.engine.playback = (engine.playback.calls (engine.callsUpTo action)).1 := by
  have whole := step
  cases step with
  | refused _ why | ungraded _ why => simp only [callsUpTo, why]; rfl
  | completed completes led entry =>
    rename_i carried entering
    obtain ⟨due, quiet⟩ := reached?_eq sound completes led
    obtain ⟨playback, _⟩ := entry_calls entry due quiet
    rw [callsUpTo_eq led, Playback.calls_append, ← prepared_playback, Turn.as_engine,
      andThen_prepend_playback, playback]
  | movedOn | discarded | handedOut | cancelled | shown =>
    rw [callsUpTo_of_stays sound whole rfl rfl (by simp) (by simp) rfl]
    rfl
  | loaded => exact (load_calls engine _).1

/-- How the effects report what an action has brought about that has come to its end. -/
structure Reports (engine : Engine) (action : Action) (now : Engine) : Prop where
  playback : now.playback = (engine.playback.calls (engine.callsOf action)).1
  /-- Effects that are renewed list the commands, each one once. -/
  renewed : action.Renews engine.state now → now.effects.audio.Perm (engine.issues action)
  /-- Otherwise there are no commands, and the effects are those of the last arrival. -/
  kept : ¬action.Renews engine.state now → (∀ choiceId, action ≠ .choose choiceId) →
    action.isLoad = false → engine.issues action = [] ∧ now.effects = engine.effects

/-- Whether an action arrives is told from the completed state alone. -/
theorem arrives_congr {before now carried : GameState} {action : Action}
    (history : now.history = carried.history) (started : now.gameStarted = carried.gameStarted) :
    action.Arrives before now ↔ action.Arrives before carried := by
  cases action <;> simp only [Action.Arrives, history, started]

/-- What puts a completed state in place without arriving anywhere, and is no new beginning, has no
sound of its own unless it is a choice. -/
theorem quiet_prepared (completes : engine.Completes action)
    (start : ∀ name, action ≠ .start name) (restart : action ≠ .restart) :
    engine.callsBefore action = [] ∧ (engine.prepared action).effects = engine.effects ∧
      ((∀ choiceId, action ≠ .choose choiceId) →
        engine.callsAfter action = [] ∧ engine.cue action = []) := by
  cases action with
  | start name => exact absurd rfl (start name)
  | restart => exact absurd rfl restart
  | choose choiceId => exact ⟨rfl, rfl, fun other => absurd rfl (other choiceId)⟩
  | advance | submit | finishGrading => exact ⟨rfl, rfl, fun _ => ⟨rfl, rfl⟩⟩
  | beginGrading | cancelGrading | load | showFeedback => exact completes.elim

/-- An action that puts a completed state in place reports its commands if it renews the effects,
those that come last before the others. -/
theorem completed_reports {turn : Turn Unit} (sound : Sound story engine)
    (completes : engine.Completes action) (led : engine.completed action = .ok carried)
    (entry : Entry { engine.prepared action with state := carried } turn)
    (came : turn.outcome = .ok ()) :
    let now := (turn.andThen (prependAudio (engine.cue action))).engine
    let sooner := (engine.playback.calls (engine.callsUpTo action)).2
    let later := (engine.playback.calls (engine.callsAfter action)).2
    (action.Renews engine.state now → now.effects.audio = later ++ sooner) ∧
      (¬action.Renews engine.state now → sooner = [] ∧
        ((∀ choiceId, action ≠ .choose choiceId) → later = [] ∧ now.effects = engine.effects)) := by
  have arrives := due_iff_arrives sound completes led
  obtain ⟨due, quiet⟩ := reached?_eq sound completes led
  obtain ⟨_, renewed, kept⟩ := entry_calls entry due quiet
  have sooner : (engine.playback.calls (engine.callsUpTo action)).2 =
      (engine.playback.calls (engine.callsBefore action)).2 ++
        ((engine.prepared action).playback.calls (directives (engine.reached? action))).2 := by
    rw [callsUpTo_eq led, Playback.calls_append, prepared_playback]
  have cue := cue_eq engine action
  obtain ⟨vars, state⟩ := (entry_follows entry).state
  obtain ⟨outcome, inner⟩ := turn
  obtain rfl : outcome = .ok () := came
  have arrived : action.Arrives engine.state inner.state ↔
      Due { engine.prepared action with state := carried } := by
    rw [arrives]
    exact arrives_congr (by rw [state]) (by rw [state])
  simp only [Turn.andThen, prependAudio]
  by_cases arrival : Due { engine.prepared action with state := carried }
  · refine ⟨fun _ => ?_, fun stays => absurd (.inr (.inl (arrived.mpr arrival))) stays⟩
    rw [renewed rfl arrival, sooner, cue, List.append_assoc]
  · have same : inner.effects = (engine.prepared action).effects := kept arrival
    have start : ∀ name, action ≠ .start name := by
      rintro name rfl
      exact arrival (arrives.mpr trivial)
    rw [quiet arrival, calls_directives_none, List.append_nil] at sooner
    rw [sooner, same]
    constructor
    · rw [cue]
      rintro (rfl | arrives | ⟨load, _⟩)
      · exact List.append_nil _
      · exact absurd (arrived.mp arrives) arrival
      · rw [Action.not_isLoad_of_completes completes] at load
        cases load
    · intro stays
      have restart : action ≠ .restart := fun again => stays (.inl again)
      obtain ⟨before, effects, silent⟩ := quiet_prepared completes start restart
      refine ⟨by rw [before]; rfl, fun choose => ?_⟩
      obtain ⟨after, nothing⟩ := silent choose
      rw [after, nothing, effects]
      exact ⟨rfl, rfl⟩

/-- An action that comes to its end reports its commands if it renews the effects. -/
theorem step_reports {turn : Turn Answer} {answer : Answer} (sound : Sound story engine)
    (step : Step engine action turn) (came : turn.outcome = .ok answer) :
    let sooner := (engine.playback.calls (engine.callsUpTo action)).2
    let later := (engine.playback.calls (engine.callsAfter action)).2
    (action.Renews engine.state turn.engine → turn.engine.effects.audio = later ++ sooner) ∧
      (¬action.Renews engine.state turn.engine → sooner = [] ∧
        ((∀ choiceId, action ≠ .choose choiceId) → action.isLoad = false →
          later = [] ∧ turn.engine.effects = engine.effects)) := by
  have whole := step
  cases step with
  | refused | ungraded => cases came
  | completed completes led entry =>
    obtain ⟨⟨⟨⟩, entered⟩, _⟩ := Turn.as_outcome_ok .. |>.mp came
    rw [Turn.andThen_outcome] at entered
    obtain ⟨renewed, kept⟩ := completed_reports sound completes led entry entered
    exact ⟨renewed, fun stays => ⟨(kept stays).1, fun choose _ => (kept stays).2 choose⟩⟩
  | movedOn | discarded | handedOut | cancelled | shown =>
    have nothing := callsUpTo_of_stays sound whole rfl rfl (by simp) (by simp) rfl
    rw [nothing]
    refine ⟨fun renews => absurd renews ?_, fun _ => ⟨rfl, fun _ _ => ⟨rfl, rfl⟩⟩⟩
    exact Action.not_renews_of_history rfl (by simp) (by simp) rfl
  | @loaded state =>
    obtain ⟨_, audio, missing⟩ := load_calls engine state
    constructor
    · rintro (again | arrives | ⟨_, there⟩)
      · cases again
      · exact arrives.elim
      · exact audio there
    · intro stays
      exact ⟨missing fun there => stays (.inr (.inr ⟨rfl, there⟩)), fun _ load => nomatch load⟩

theorem act_playback (sound : Sound story engine) (action : Action) :
    (engine.act action).engine.playback = (engine.playback.calls (engine.callsOf action)).1 := by
  rw [step_playback sound (act_step engine action), callsOf, Playback.calls_append]
  split
  · rw [callsAfter_calls engine action rfl]
  · rfl

theorem act_reports {answer : Answer} (sound : Sound story engine)
    (came : (engine.act action).outcome = .ok answer) :
    Reports engine action (engine.act action).engine := by
  obtain ⟨renewed, kept⟩ := step_reports sound (act_step engine action) came
  have issued := issues_eq came
  refine ⟨act_playback sound action, fun renews => ?_, fun stays choose load => ?_⟩
  · rw [renewed renews, issued]
    exact List.perm_append_comm
  · obtain ⟨sooner, still⟩ := kept stays
    obtain ⟨later, effects⟩ := still choose load
    rw [issued, sooner, later]
    exact ⟨rfl, effects⟩

end Engine

namespace Event

/-- The commands that an event brings about. -/
def issues (event : Event) : List AudioCommand := event.before.issues event.action

/-- The commands that are carried out after an event: those that the effects report, if the event
has come to its end and has renewed them. -/
def carriesOut (event : Event) : List AudioCommand :=
  match event.turn.outcome with
  | .ok _ =>
    if event.action.Renews event.before.state event.turn.engine then
      event.turn.engine.effects.audio
    else []
  | .error _ => []

/-- An event fails although its action has completed the state: the node where it arrives cannot be
entered. -/
def FailsInside (event : Event) : Prop :=
  ∃ carried fault, event.before.completed event.action = .ok carried ∧
    event.turn.outcome = .error fault

end Event

namespace Engine

variable {story : Story} {engine first : Engine} {events : List Event} {action : Action}

/-- What is carried out after an action is among what it has brought about. -/
theorem carriesOut_subperm (sound : Sound story engine) (action : Action) :
    (Event.carriesOut ⟨engine, action⟩).Subperm (Event.issues ⟨engine, action⟩) := by
  unfold Event.carriesOut Event.turn
  cases came : (engine.act action).outcome with
  | error fault => exact List.nil_subperm
  | ok answer =>
    dsimp only
    split
    · rename_i renews
      exact ((act_reports sound came).renewed renews).subperm
    · exact List.nil_subperm

/-- Unless an action fails inside, whoever has heard the track that is playing hears it afterwards
too. -/
theorem carriesOut_track (sound : Sound story engine)
    (fine : ¬Event.FailsInside ⟨engine, action⟩) :
    trackAfter engine.playback.current (Event.carriesOut ⟨engine, action⟩) =
      (engine.act action).engine.playback.current := by
  have step := act_step engine action
  have playback := step_playback sound step
  unfold Event.carriesOut Event.turn
  cases came : (engine.act action).outcome with
  | error fault =>
    cases led : engine.completed action with
    | ok carried => exact absurd ⟨carried, fault, led, came⟩ fine
    | error why =>
      rw [playback, callsUpTo, led]
      rfl
  | ok answer =>
    dsimp only
    obtain ⟨renewed, kept⟩ := step_reports sound step came
    split
    · rename_i renews
      have audio : (engine.act action).engine.effects.audio = _ := renewed renews
      rw [audio, trackAfter_append, callsAfter_track, Playback.calls_track, playback]
    · rename_i stays
      have track := engine.playback.calls_track (engine.callsUpTo action)
      rwa [(kept stays).1, ← playback] at track

/-- Over a whole playthrough, what is carried out is among what has been brought about. -/
theorem played_subperm (opening : Opening story first) (played : Played first events engine) :
    (events.flatMap Event.carriesOut).Subperm (events.flatMap Event.issues) := by
  induction played with
  | opened => exact List.nil_subperm
  | @acted events engine played action among =>
    have last := carriesOut_subperm (played_sound opening played) action
    simp only [List.flatMap_append, List.flatMap_singleton]
    exact among.append last

theorem played_track (opening : Opening story first) (played : Played first events engine)
    (fine : ∀ event ∈ events, ¬event.FailsInside) :
    trackAfter first.playback.current (events.flatMap Event.carriesOut) =
      engine.playback.current := by
  induction played with
  | opened => rfl
  | @acted events engine played action heard =>
    have before := heard fun event among => fine event (List.mem_append_left _ among)
    have last := carriesOut_track (played_sound opening played) (fine ⟨engine, action⟩ (by simp))
    rw [List.flatMap_append, List.flatMap_singleton, trackAfter_append, before, last]

/-- Whoever hears nothing and carries out what the beginning of a game reports hears its track. -/
theorem begin_track {controller : Playback} {background : Option String}
    (silent : controller.current = .null)
    (begun : (begin story controller background).outcome = .ok ()) :
    trackAfter .null (begin story controller background).engine.effects.audio =
      (begin story controller background).engine.playback.current := by
  have entry := enter_entry (initial story controller background)
  by_cases due : (initial story controller background).Due
  · obtain ⟨playback, renewed, _⟩ :=
      entry_calls entry (fun _ => rfl) fun quiet => absurd due quiet
    rw [begin, renewed begun due, playback, ← silent]
    exact controller.calls_track _
  · obtain ⟨playback, _, kept⟩ :=
      entry_calls entry (fun arrived => absurd arrived due) fun _ => rfl
    rw [begin, kept due, playback]
    exact silent.symm

/-- At every moment of every playthrough, an action that renews the effects reports its commands
once, and any other leaves the effects of the last arrival. So whoever carries out what is reported
after the actions that renew the effects carries out nothing twice, and unless an arrival has failed
hears the track that is playing. -/
theorem commands_are_reported_once (opening : Opening story first)
    (played : Played first events engine) :
    (∀ action answer, (engine.act action).outcome = .ok answer →
        Reports engine action (engine.act action).engine) ∧
      (events.flatMap Event.carriesOut).Subperm (events.flatMap Event.issues) ∧
      ((∀ event ∈ events, ¬event.FailsInside) →
        trackAfter first.playback.current (events.flatMap Event.carriesOut) =
          engine.playback.current) ∧
      ∀ controller background, controller.current = .null →
        (begin story controller background).outcome = .ok () →
          trackAfter .null (begin story controller background).engine.effects.audio =
            (begin story controller background).engine.playback.current :=
  ⟨fun _ _ came => act_reports (played_sound opening played) came, played_subperm opening played,
    played_track opening played, fun _ _ silent begun => begin_track silent begun⟩

/-- A story of a single room with a bell, whose door clicks and leads back into the room. -/
def belfry : Story :=
  { Story.lone { Node.bare "room" (.choice [⟨"door", "Door", "room", none, none, none⟩]) with
      audio := some ⟨.sfx, "bell", none⟩ } with
    settings := { Settings.standard with askForName := false, clickSfx := some "click" } }

def ringer : Engine := (begin belfry .standard none).engine

/-- Whoever goes round hears the click, although it is given last, and then the bell. -/
theorem ringer_hears_the_click :
    Reports ringer (.choose "door") (ringer.act (.choose "door")).engine ∧
      ringer.issues (.choose "door") =
        [ringer.playback.sfxCommand (.str "bell"), ringer.playback.sfxCommand (.str "click")] ∧
      (ringer.act (.choose "door")).engine.effects.audio =
        [ringer.playback.sfxCommand (.str "click"), ringer.playback.sfxCommand (.str "bell")] :=
  ⟨(commands_are_reported_once (.fresh rfl) .opened).1 _ _ rfl, by decide +kernel,
    by decide +kernel⟩

/-- A story that is over as soon as it has begun. -/
def knell : Story := .lone { Node.bare "end" .ending with audio := some ⟨.sfx, "bell", none⟩ }

/-- An action that comes to its end may leave commands in the effects that are not its own. -/
theorem commands_may_be_reported_again :
    ¬∀ (story : Story) (first engine : Engine) (events : List Event) (action : Action)
      (answer : Answer), Opening story first → Played first events engine →
        (engine.act action).outcome = .ok answer →
          (engine.act action).engine.effects.audio.Perm (engine.issues action) := by
  intro reported
  have same := reported knell (begin knell .standard none).engine _ [] .advance .done (.fresh rfl)
    .opened rfl
  have silent : (begin knell .standard none).engine.issues .advance = [] := by decide +kernel
  rw [silent] at same
  exact absurd same.length_eq (by decide +kernel)

end Engine

end VisualNovel
