import VisualNovel.Proofs.GradingProtocol
import VisualNovel.Proofs.Restoring

/-! Beginning again. A playthrough that begins again mirrors a new one that is heard as loudly: of
all that was done before, only the volumes and the stop of a track that was playing are left. That
nothing else is left of the music needs an invariant of the playback: a directive is remembered only
while a track is playing. -/
namespace VisualNovel

open Schema (ofOption)

/-- What can be done to the music apart from any action. -/
inductive Adjustment where
  | bgmVolume (volume : Binary64)
  | sfxVolume (volume : Binary64)
  | mute
  | stop
  deriving DecidableEq

namespace Playback

/-- A new playback that is heard as loudly as this one. -/
def silent (p : Playback) : Playback := { p with current := .null, lastDirective := .null }

/-- What an adjustment is answered with, and the playback after it. -/
def adjust (p : Playback) : Adjustment → Json × Playback
  | .bgmVolume volume => (.null, p.setBgmVolume volume)
  | .sfxVolume volume => (.null, p.setSfxVolume volume)
  | .mute => (p.toggleMute.muted, p.toggleMute)
  | .stop => (ofOption AudioCommand.toJson p.stop.2, p.stop.1)

/-- A directive is remembered only while a track is playing. -/
def Tidy (p : Playback) : Prop := p.current = .null → p.lastDirective = .null

theorem silent_tidy (p : Playback) : p.silent.Tidy := fun _ => rfl

theorem playBgm_tidy (p : Playback) (src : String) (loop : Json) :
    (p.playBgm (.str src) loop).1.Tidy := by
  unfold playBgm
  split
  · -- The track is the one that is playing already, so there is one.
    rename_i playing
    intro nothing
    rw [show p.current = .null from nothing] at playing
    cases playing
  · intro nothing
    cases nothing

theorem play_tidy {p : Playback} (tidy : p.Tidy) (directive : Option AudioDirective) :
    (p.play directive).1.Tidy := by
  cases directive with
  | none => exact tidy
  | some directive =>
    cases kind : directive.kind with
    | sfx => simpa only [play, kind] using tidy
    | bgm =>
      simp only [play, kind]
      split
      · exact tidy
      · exact playBgm_tidy _ _ _

theorem stop_tidy {p : Playback} (tidy : p.Tidy) : p.stop.1.Tidy := by
  unfold stop
  split
  · exact tidy
  · exact fun _ => rfl

theorem adjust_tidy {p : Playback} (tidy : p.Tidy) (adjustment : Adjustment) :
    (p.adjust adjustment).2.Tidy := by
  cases adjustment with
  | bgmVolume | sfxVolume | mute => exact tidy
  | stop => exact stop_tidy tidy

/-- Stopping forgets all but the volumes. -/
theorem stop_silent {p : Playback} (tidy : p.Tidy) : p.stop.1 = p.silent := by
  unfold stop silent
  split
  · rename_i nothing
    obtain ⟨bgm, sfx, muted, current, last⟩ := p
    obtain rfl : current = .null := nothing
    obtain rfl : last = .null := tidy rfl
    rfl
  · rfl

theorem stop_command (p : Playback) :
    p.stop.2.toList = if p.current = .null then [] else [.stopBgm] := by
  unfold stop
  split <;> rfl

end Playback

/-- Whatever a host does with a playthrough and with its music. -/
inductive Handling where
  | act (action : Action)
  | adjust (adjustment : Adjustment)
  deriving DecidableEq

/-- What a handling is answered with. -/
inductive Returned where
  | acted (answer : Answer)
  | adjusted (document : Json)
  deriving DecidableEq

/-- A handling as it is put where counting begins that many tickets later. -/
def Handling.recount (offset : Nat) : Handling → Handling
  | .act action => .act (action.recount offset)
  | .adjust adjustment => .adjust adjustment

/-- An answer as it is given where counting begins that many tickets later. -/
def Returned.recount (offset : Nat) : Returned → Returned
  | .acted answer => .acted (answer.recount offset)
  | .adjusted document => .adjusted document

namespace Engine

def handle (engine : Engine) : Handling → Turn Returned
  | .act action => (engine.act action).map .acted
  | .adjust adjustment =>
    ⟨.ok (.adjusted (engine.playback.adjust adjustment).1),
      { engine with playback := (engine.playback.adjust adjustment).2 }⟩

/-- The playthrough after a series of handlings. -/
def handled (engine : Engine) : List Handling → Engine
  | [] => engine
  | handling :: rest => (engine.handle handling).engine.handled rest

/-- The actions among a series of handlings, each with the playthrough before it. -/
def actsOf (engine : Engine) : List Handling → List Event
  | [] => []
  | .act action :: rest => ⟨engine, action⟩ :: (engine.act action).engine.actsOf rest
  | .adjust adjustment :: rest => (engine.handle (.adjust adjustment)).engine.actsOf rest

variable {story : Story} {engine original mirror : Engine} {offset : Nat} {told : List Position}
  {same : Prop} {ticket : Ticket}

/-! ## What holds at every moment -/

/-- What holds whatever a host does. -/
structure Kept (story : Story) (engine : Engine) : Prop where
  sound : Sound story engine
  tidy : engine.playback.Tidy

theorem entry_tidy {turn : Turn Unit} (entry : Entry engine turn) (tidy : engine.playback.Tidy) :
    turn.engine.playback.Tidy := by
  obtain ⟨directive, playback⟩ := (entry_follows entry).playback
  rw [playback]
  exact Playback.play_tidy tidy directive

/-- Before any node is entered, an action leaves the music tidy. -/
theorem prepared_tidy (tidy : engine.playback.Tidy) (action : Action) :
    (engine.prepared action).playback.Tidy := by
  cases action with
  | start name =>
    simp only [prepared, overture]
    split
    · exact Playback.playBgm_tidy _ _ _
    · exact tidy
  | restart => exact Playback.stop_tidy tidy
  | _ => exact tidy

theorem load_tidy (tidy : engine.playback.Tidy) (state : GameState) :
    (engine.load state).playback.Tidy := by
  unfold load
  cases engine.story.node? state.currentSceneId state.currentNodeId with
  | none => exact tidy
  | some node => exact Playback.play_tidy tidy node.audio

theorem step_tidy {action : Action} {turn : Turn Answer} (step : Step engine action turn)
    (tidy : engine.playback.Tidy) : turn.engine.playback.Tidy := by
  cases step with
  | refused | ungraded | movedOn | discarded | handedOut | cancelled | shown => exact tidy
  | loaded => exact load_tidy tidy _
  | completed _ _ entry =>
    rename_i carried turn
    obtain ⟨directive, playback⟩ :=
      (andThen_prepend_follows (engine.cue action) (entry_follows entry)).playback
    rw [Turn.as_engine, playback]
    exact Playback.play_tidy (prepared_tidy tidy action) directive

theorem handle_kept (kept : Kept story engine) (handling : Handling) :
    Kept story (engine.handle handling).engine := by
  cases handling with
  | act action =>
    exact ⟨step_sound kept.sound (act_step engine action), step_tidy (act_step _ _) kept.tidy⟩
  | adjust adjustment =>
    refine ⟨⟨kept.sound.story, kept.sound.marked, fun ticket waiting => ?_⟩,
      Playback.adjust_tidy kept.tidy adjustment⟩
    have awaits := kept.sound.awaits ticket waiting
    exact ⟨awaits.still, awaits.started, awaits.graded, awaits.numbered⟩

theorem handled_kept (handlings : List Handling) :
    ∀ {engine : Engine}, Kept story engine → Kept story (engine.handled handlings) := by
  induction handlings with
  | nil => exact id
  | cons handling rest ih => exact fun kept => ih (handle_kept kept handling)

/-- A new game is in order if its music is new. -/
theorem begin_kept {playback : Playback} {background : Option String} (tidy : playback.Tidy)
    (begun : (begin story playback background).outcome = .ok ()) :
    Kept story (begin story playback background).engine :=
  ⟨opening_sound (.fresh begun), entry_tidy (enter_entry (initial story playback background)) tidy⟩

/-! ## Tickets that have been handed out -/

theorem handle_issued (engine : Engine) (handling : Handling) :
    engine.issued ≤ (engine.handle handling).engine.issued := by
  cases handling with
  | act action => exact step_issued (act_step engine action)
  | adjust adjustment => exact Nat.le_refl _

theorem handled_issued (handlings : List Handling) :
    ∀ engine : Engine, engine.issued ≤ (engine.handled handlings).issued := by
  induction handlings with
  | nil => exact fun engine => Nat.le_refl _
  | cons handling rest ih => exact fun engine => Nat.le_trans (handle_issued engine handling) (ih _)

/-- A ticket that one of the actions has handed out is numbered below those of later ones. -/
theorem acts_hand_out_below (handlings : List Handling) :
    ∀ {engine : Engine} {event : Event}, event ∈ engine.actsOf handlings →
      event.HandsOut ticket → ticket.number < (engine.handled handlings).issued := by
  induction handlings with
  | nil => exact fun among => nomatch among
  | cons handling rest ih =>
    intro engine event among handsOut
    cases handling with
    | adjust adjustment => exact ih among handsOut
    | act action =>
      rcases List.mem_cons.mp among with rfl | later
      · obtain ⟨⟨number, issued⟩, _⟩ := step_hands_out (act_step engine action) handsOut
        have grown := handled_issued rest (engine.act action).engine
        have next : (engine.handled (.act action :: rest)).issued =
            ((engine.act action).engine.handled rest).issued := rfl
        rw [issued] at grown
        omega
      · exact ih later handsOut

/-! ## Two playthroughs in step -/

theorem handle_alike (mirrors : Mirrors offset told same original mirror) (handling : Handling) :
    Alike offset told same (Returned.recount offset) (original.handle handling)
      (mirror.handle (handling.recount offset)) := by
  cases handling with
  | act action =>
    obtain ⟨outcome, met⟩ := act_alike mirrors action
    refine ⟨?_, met⟩
    simp only [handle, Handling.recount, Turn.map, outcome]
    cases (original.act action).outcome <;> rfl
  | adjust adjustment =>
    simp only [handle, Handling.recount, mirrors.playback]
    exact ⟨rfl, mirrors.story, mirrors.state, rfl, mirrors.background, mirrors.entered,
      mirrors.pending, mirrors.issued, mirrors.endings, mirrors.effects⟩

/-- Whatever a host does with both one after the other, they mirror each other, and once a node has
been entered they remember the same effects. -/
theorem handled_mirrors (handlings : List Handling) :
    ∀ {same : Prop} {original mirror : Engine}, Kept story original → Kept story mirror →
      Mirrors offset told same original mirror →
        Mirrors offset told (same ∨ ∃ event ∈ original.actsOf handlings, event.Enters)
          (original.handled handlings) (mirror.handled (handlings.map (.recount offset))) := by
  induction handlings with
  | nil =>
    intro same original mirror _ _ mirrors
    exact { mirrors with effects := fun holds => mirrors.effects (by simpa [actsOf] using holds) }
  | cons handling rest ih =>
    intro same original mirror kept kept' mirrors
    have met := (handle_alike mirrors handling).mirrors
    have next := handle_kept kept handling
    have next' := handle_kept kept' (handling.recount offset)
    cases handling with
    | adjust adjustment => exact ih next next' met
    | act action =>
      have entered : Mirrors offset told (same ∨ Event.Enters ⟨original, action⟩)
          (original.act action).engine (mirror.act (action.recount offset)).engine :=
        { met with
          effects := fun holds =>
            holds.elim met.effects (enters_same_effects kept.sound kept'.sound mirrors) }
      have final := ih next next' entered
      exact { final with
        effects := fun holds =>
          final.effects (by simpa [actsOf, handle, Turn.map, or_assoc] using holds) }

/-! ## The effects of earlier arrivals -/

/-- The playthrough as if the last arrival had had these effects. -/
def recalling (engine : Engine) (effects : EntryEffects) : Engine := { engine with effects }

end Engine

/-- The same effects with more commands before the others. -/
def EntryEffects.heardAfter (effects : EntryEffects) (commands : List AudioCommand) :
    EntryEffects :=
  { effects with audio := commands ++ effects.audio }

/-- The same effects, except that one more command may be heard among the others. -/
def EntryEffects.Besides (command : AudioCommand) (effects plain : EntryEffects) : Prop :=
  effects = plain ∨ ∃ earlier later, plain.audio = earlier ++ later ∧
    effects = { plain with audio := earlier ++ command :: later }

theorem EntryEffects.Besides.heardAfter {command : AudioCommand} {effects plain : EntryEffects}
    (besides : effects.Besides command plain) (commands : List AudioCommand) :
    (effects.heardAfter commands).Besides command (plain.heardAfter commands) := by
  rcases besides with rfl | ⟨earlier, later, split, rfl⟩
  · exact .inl rfl
  · refine .inr ⟨commands ++ earlier, later, ?_, ?_⟩ <;>
      simp only [EntryEffects.heardAfter, split, List.append_assoc]

/-- What comes of something that does not look at the effects of the last arrival: they are kept,
with some commands before the others, or none of them is. -/
inductive Forgetful {α : Type} (turn : EntryEffects → Turn α) : Prop
  | keeps (commands : List AudioCommand) (outcome : Except Fault α) (engine : Engine)
      (kept : ∀ effects,
        turn effects = ⟨outcome, engine.recalling (effects.heardAfter commands)⟩) : Forgetful turn
  | drops (dropped : ∀ effects others, turn effects = turn others) : Forgetful turn

namespace Forgetful

variable {α β : Type} {turn : EntryEffects → Turn α}

/-- Which commands are put before the others may depend on anything but the effects. -/
theorem andThen (forgetful : Forgetful turn) {change : Engine → Engine}
    (commands : Engine → List AudioCommand)
    (changed : ∀ engine, change engine = engine.prependAudio (commands engine))
    (blind : ∀ engine effects, commands (engine.recalling effects) = commands engine) :
    Forgetful fun effects => (turn effects).andThen change := by
  cases forgetful with
  | drops dropped => exact .drops fun effects others => by rw [dropped effects others]
  | keeps earlier outcome engine kept =>
    cases outcome with
    | error fault => exact .keeps earlier (.error fault) engine fun effects => by rw [kept]; rfl
    | ok value =>
      refine .keeps (commands engine ++ earlier) (.ok value) engine fun effects => ?_
      simp only [kept, Turn.andThen, changed, blind]
      simp only [Engine.prependAudio, Engine.recalling, EntryEffects.heardAfter, List.append_assoc]

theorem map (forgetful : Forgetful turn) (f : α → β) :
    Forgetful fun effects => (turn effects).map f := by
  cases forgetful with
  | drops dropped => exact .drops fun effects others => by rw [dropped effects others]
  | keeps commands outcome engine kept =>
    exact .keeps commands (outcome.map f) engine fun effects => by rw [kept]; rfl

theorem as (forgetful : Forgetful turn) (value : β) :
    Forgetful fun effects => (turn effects).as value := forgetful.map fun _ => value

/-- Where the effects were the same besides one command, nothing else differs afterwards. -/
theorem besides (forgetful : Forgetful turn) {command : AudioCommand}
    {effects plain : EntryEffects} (besides : effects.Besides command plain) :
    (turn effects).outcome = (turn plain).outcome ∧ ∃ later : EntryEffects,
      (turn effects).engine = (turn plain).engine.recalling later ∧
        later.Besides command (turn plain).engine.effects := by
  cases forgetful with
  | drops dropped =>
    rw [dropped effects plain]
    exact ⟨rfl, (turn plain).engine.effects, rfl, .inl rfl⟩
  | keeps commands outcome engine kept =>
    rw [kept, kept]
    exact ⟨rfl, effects.heardAfter commands, rfl, besides.heardAfter commands⟩

end Forgetful

namespace Engine

variable {story : Story} {engine again : Engine} {α : Type}

/-- What only keeps the effects. -/
theorem forgetful_same (outcome : Except Fault α) (engine : Engine) :
    Forgetful fun effects => ⟨outcome, engine.recalling effects⟩ :=
  .keeps [] outcome engine fun _ => rfl

theorem forgetful_enter (engine : Engine) :
    Forgetful fun effects => (engine.recalling effects).enter := by
  cases quiet : !engine.state.gameStarted || engine.entered == some engine.state.arrival with
  | true =>
    simp only [enter, recalling, quiet, ↓reduceIte]
    exact forgetful_same (.ok ()) engine
  | false =>
    simp only [enter, recalling, quiet, Bool.false_eq_true, ↓reduceIte]
    cases engine.story.currentNode engine.state with
    | error fault => exact .drops fun _ _ => rfl
    | ok node =>
      dsimp only
      cases Story.applyEntry node engine.state with
      | ok state => exact .drops fun _ _ => rfl
      | error fault =>
        exact forgetful_same (.error fault)
          { engine.marked with
            playback := (engine.story.entryEffects node engine.playback engine.background).1 }

theorem forgetful_commitResult (engine : Engine) (next : Except Fault GameState) :
    Forgetful fun effects => (engine.recalling effects).commitResult next := by
  cases next with
  | error fault => exact forgetful_same (.error fault) engine
  | ok state => exact forgetful_enter { engine with state }

theorem forgetful_whenIdle (engine : Engine) {turn : EntryEffects → Turn α}
    (forgetful : Forgetful turn) :
    Forgetful fun effects => (engine.recalling effects).whenIdle (turn effects) := by
  by_cases waiting : engine.pending.isSome
  · simp only [whenIdle, recalling, waiting, ↓reduceIte]
    exact forgetful_same (.error .gradingInProgress) engine
  · simpa only [whenIdle, recalling, waiting, Bool.false_eq_true, ↓reduceIte] using forgetful

/-- No action looks at the effects of an earlier one. -/
theorem forgetful_act (engine : Engine) (action : Action) :
    Forgetful fun effects => (engine.recalling effects).act action := by
  cases action with
  | start name =>
    refine Forgetful.as ?_ _
    by_cases started : engine.state.gameStarted
    · simp only [start, recalling, started, ↓reduceIte]
      exact forgetful_same (.error (.inapplicable .alreadyStarted)) engine
    · simp only [start, recalling, started, Bool.false_eq_true, ↓reduceIte]
      cases engine.story.startGame engine.state name with
      | error fault => exact forgetful_same (.error fault) engine
      | ok carried =>
        have entering := forgetful_enter
          { engine with state := carried, playback := engine.overture.1 }
        exact entering.andThen (fun _ => engine.overture.2.toList) (fun _ => rfl) fun _ _ => rfl
  | advance =>
    have next := forgetful_commitResult engine (engine.story.acknowledge engine.state)
    exact (forgetful_whenIdle engine next).as Answer.done
  | choose choiceId =>
    have next := forgetful_commitResult engine (engine.story.selectChoice engine.state choiceId)
    refine (forgetful_whenIdle engine (next.andThen (fun now => now.cue (.choose choiceId))
      (fun now => ?_) fun _ _ => rfl)).as Answer.done
    simp only [cue]
    cases nonempty? now.story.settings.clickSfx <;> rfl
  | submit value =>
    have next := forgetful_commitResult engine (engine.story.submitInput engine.state value)
    exact (forgetful_whenIdle engine next).as Answer.done
  | beginGrading value =>
    refine (forgetful_whenIdle engine ?_).map _
    simp only [recalling]
    cases engine.story.validateResponse engine.state value with
    | error fault => exact forgetful_same (.error fault) engine
    | ok checked =>
      exact forgetful_same (.ok (engine.nextTicket checked.2.2)) (engine.asking checked.2.2)
  | finishGrading ticket result =>
    refine Forgetful.map ?_ _
    by_cases waiting : engine.pending = some ticket
    · by_cases still : ticket.arrival = engine.state.arrival
      · simp only [finishGrading, recalling, waiting, still, ne_eq, not_true_eq_false, ↓reduceIte]
        exact (forgetful_commitResult engine.cancelGrading _).as true
      · simp only [finishGrading, recalling, waiting, still, ne_eq, not_true_eq_false,
          not_false_eq_true, ↓reduceIte]
        exact forgetful_same (.ok false) engine.cancelGrading
    · simp only [finishGrading, recalling, waiting, ne_eq, not_false_eq_true, ↓reduceIte]
      exact forgetful_same (.ok false) engine
  | cancelGrading => exact forgetful_same (.ok Answer.done) engine.cancelGrading
  | restart => exact .drops fun _ _ => rfl
  | load state =>
    simp only [act, load, recalling]
    cases engine.story.node? state.currentSceneId state.currentNodeId with
    | none =>
      exact forgetful_same (.ok Answer.done)
        { engine with pending := none, state, entered := enteredBy state }
    | some node => exact .drops fun _ _ => rfl
  | showFeedback visible => exact forgetful_same (.ok Answer.done) (engine.showFeedback visible)

theorem forgetful_handle (engine : Engine) (handling : Handling) :
    Forgetful fun effects => (engine.recalling effects).handle handling := by
  cases handling with
  | act action => exact (forgetful_act engine action).map Returned.acted
  | adjust adjustment =>
    exact forgetful_same (.ok (Returned.adjusted (engine.playback.adjust adjustment).1))
      { engine with playback := (engine.playback.adjust adjustment).2 }

/-- A command more in the effects of the last arrival changes nothing else later on. -/
theorem handled_besides {command : AudioCommand} (handlings : List Handling) :
    ∀ {engine : Engine} {effects : EntryEffects}, effects.Besides command engine.effects →
      ∃ later : EntryEffects,
        (engine.recalling effects).handled handlings =
            (engine.handled handlings).recalling later ∧
          later.Besides command (engine.handled handlings).effects := by
  induction handlings with
  | nil => exact fun besides => ⟨_, rfl, besides⟩
  | cons handling rest ih =>
    intro engine effects besides
    obtain ⟨_, next, now, again⟩ := (forgetful_handle engine handling).besides besides
    obtain ⟨later, led, final⟩ := ih again
    exact ⟨later, (congrArg (handled · rest) now).trans led, final⟩

/-! ## Beginning again -/

/-- A playthrough that has begun again, besides a new one that is heard as loudly. -/
structure Renewed (engine restarted fresh : Engine) : Prop where
  state : restarted.state = fresh.state
  background : restarted.background = fresh.background
  pending : restarted.pending = none ∧ fresh.pending = none
  entered : restarted.entered = fresh.entered
  /-- The same track is playing, and the same directive is remembered. -/
  playback : restarted.playback = fresh.playback
  /-- A track that was playing is stopped first. -/
  effects : restarted.effects =
    fresh.effects.heardAfter (if engine.playback.current = .null then [] else [.stopBgm])

/-- Nothing tells two playthroughs apart, except that the second one counts the tickets and the
endings from a later moment of the first one, and may remember one command less. -/
structure InStep (since original mirror : Engine) : Prop where
  state : mirror.state = original.state
  view : mirror.view = original.view
  playback : mirror.playback = original.playback
  background : mirror.background = original.background
  pending : mirror.pending = original.pending.map (.recount since.issued)
  endings : original.endings = since.endings ++ mirror.endings
  effects : original.effects.Besides .stopBgm mirror.effects
  /-- Whatever is done next is answered in the same way or fails in the same way. -/
  outcome : ∀ handling, (mirror.handle (handling.recount since.issued)).outcome =
    (original.handle handling).outcome.map (.recount since.issued)

/-- What a playthrough begins again with, before its first node is entered. -/
def cleared (engine : Engine) : Engine :=
  { engine with
    pending := none, playback := engine.playback.stop.1, background := none, entered := none
    state := engine.story.newGame, effects := .still none }

theorem recalling_kept (kept : Kept story engine) (effects : EntryEffects) :
    Kept story (engine.recalling effects) := by
  refine ⟨⟨kept.sound.story, kept.sound.marked, fun ticket waiting => ?_⟩, kept.tidy⟩
  have awaits := kept.sound.awaits ticket waiting
  exact ⟨awaits.still, awaits.started, awaits.graded, awaits.numbered⟩

/-- What is cleared mirrors a new playthrough that is heard as loudly, before either enters its
first node. -/
theorem cleared_mirrors (kept : Kept story engine) :
    Mirrors engine.issued engine.endings True engine.cleared
      (initial story engine.playback.silent none) where
  story := kept.sound.story.symm
  state := by rw [cleared, kept.sound.story]; rfl
  playback := (Playback.stop_silent kept.tidy).symm
  background := rfl
  entered := rfl
  pending := rfl
  issued := (Nat.zero_add _).symm
  endings := (List.append_nil _).symm
  effects _ := rfl

/-- Beginning again is entering the first node of what is cleared, after the stop of the track. -/
theorem restart_recalls (came : engine.restart = ⟨.ok (), again⟩) :
    engine.cleared.enter.outcome = .ok () ∧
      again = engine.cleared.enter.engine.recalling
        (engine.cleared.enter.engine.effects.heardAfter
          (if engine.playback.current = .null then [] else [.stopBgm])) := by
  have entering : engine.restart =
      engine.cleared.enter.andThen (prependAudio engine.playback.stop.2.toList) := rfl
  have entered : engine.cleared.enter.outcome = .ok () := by
    rw [← Turn.andThen_outcome _ (prependAudio engine.playback.stop.2.toList), ← entering, came]
  refine ⟨entered, ?_⟩
  rw [came, Turn.andThen, entered, Playback.stop_command] at entering
  exact congrArg Turn.engine entering

/-- What has begun again mirrors a new playthrough, but for the stop of a track. -/
theorem restart_mirrors (kept : Kept story engine) (came : engine.restart = ⟨.ok (), again⟩) :
    ∃ plain fresh, begin story engine.playback.silent none = ⟨.ok (), fresh⟩ ∧
      Mirrors engine.issued engine.endings True plain fresh ∧ plain.pending = none ∧
      again = plain.recalling (plain.effects.heardAfter
        (if engine.playback.current = .null then [] else [.stopBgm])) := by
  obtain ⟨entered, recalls⟩ := restart_recalls came
  obtain ⟨outcome, mirrors⟩ := enter_alike (cleared_mirrors kept)
  rw [entered] at outcome
  have idle := (entry_follows (enter_entry engine.cleared)).pending
  exact ⟨_, _, congrArg (Turn.mk · _) outcome, mirrors, idle, recalls⟩

/-- A playthrough is in step with one that mirrors it, also with a command more in its effects. -/
theorem Mirrors.inStep {since plain fresh : Engine} {effects : EntryEffects}
    (mirrors : Mirrors since.issued since.endings True plain fresh)
    (besides : effects.Besides .stopBgm plain.effects) :
    InStep since (plain.recalling effects) fresh where
  state := mirrors.state
  view := by
    simp only [view, mirrors.story, mirrors.state, mirrors.background, mirrors.pending_isSome,
      recalling]
  playback := mirrors.playback
  background := mirrors.background
  pending := mirrors.pending
  endings := mirrors.endings
  effects := by
    rw [mirrors.effects trivial]
    exact besides
  outcome handling := by
    rw [(handle_alike mirrors handling).outcome]
    exact congrArg (Except.map _) ((forgetful_handle plain handling).besides besides).1.symm

theorem stopped_besides (silent : Prop) [Decidable silent] (effects : EntryEffects) :
    (effects.heardAfter (if silent then [] else [.stopBgm])).Besides .stopBgm effects := by
  split
  · exact .inl rfl
  · exact .inr ⟨[], effects.audio, rfl, rfl⟩

/-- A grade for a ticket that was handed out before counting began is discarded. -/
theorem early_tickets_are_stale {original mirror : Engine} {offset : Nat} {told : List Position}
    {same : Prop} {ticket : Ticket} (mirrors : Mirrors offset told same original mirror)
    (sound : Sound story mirror) (early : ticket.number < offset) (result : GradingResult) :
    original.finishGrading ticket result = ⟨.ok false, original⟩ := by
  refine finish_stale fun waiting => ?_
  have numbered := (sound.awaits _ (mirrors.pending_iff.mpr waiting)).numbered.1
  simp only [Ticket.recount] at numbered
  omega

/-- Beginning again forgets everything but the volumes: at once and whatever a host does later on,
the playthrough is like a new one that is heard as loudly, and every ticket from before is stale. -/
theorem restarting_forgets {controller : Playback} {earlier : List Handling}
    (begun : (begin story controller.silent none).outcome = .ok ())
    (led : (begin story controller.silent none).engine.handled earlier = engine)
    (came : engine.restart = ⟨.ok (), again⟩) :
    ∃ fresh, begin story engine.playback.silent none = ⟨.ok (), fresh⟩ ∧
      Renewed engine again fresh ∧
      ∀ later : List Handling,
        InStep engine (again.handled later)
            (fresh.handled (later.map (.recount engine.issued))) ∧
          ((engine.playback.current = .null ∨ ∃ event ∈ again.actsOf later, event.Enters) →
            (again.handled later).effects =
              (fresh.handled (later.map (.recount engine.issued))).effects) ∧
          ∀ event ∈ (begin story controller.silent none).engine.actsOf earlier,
            ∀ ticket result, event.HandsOut ticket →
              (again.handled later).finishGrading ticket result =
                ⟨.ok false, again.handled later⟩ := by
  have kept : Kept story engine :=
    led ▸ handled_kept earlier (begin_kept (Playback.silent_tidy controller) begun)
  obtain ⟨plain, fresh, new, mirrors, idle, recalls⟩ := restart_mirrors kept came
  have fresh_kept : Kept story fresh := by
    have started := begin_kept (Playback.silent_tidy engine.playback) (congrArg Turn.outcome new)
    rwa [new] at started
  have again_kept : Kept story again := by
    have restarted := handle_kept kept (.act .restart)
    rwa [show (engine.handle (.act .restart)).engine = again from congrArg Turn.engine came]
      at restarted
  have plain_kept : Kept story plain := by
    have forgotten := recalling_kept again_kept plain.effects
    rwa [recalls] at forgotten
  -- Whether a track was playing is all that tells the effects apart, and no longer than till a node
  -- is entered.
  have unheard : Mirrors engine.issued engine.endings (engine.playback.current = .null) again
      fresh := by
    rw [recalls]
    refine { mirrors with effects := fun nothing => ?_ }
    rw [if_pos nothing, mirrors.effects trivial]
    rfl
  refine ⟨fresh, new, ?_, fun later => ?_⟩
  · rw [recalls]
    refine ⟨mirrors.state.symm, mirrors.background.symm, ⟨idle, ?_⟩, mirrors.entered.symm,
      mirrors.playback.symm, ?_⟩
    · rw [mirrors.pending, idle]
      rfl
    · rw [mirrors.effects trivial]
      rfl
  · have met := handled_mirrors later again_kept fresh_kept unheard
    have plainly := handled_mirrors later plain_kept fresh_kept mirrors
    refine ⟨?_, fun holds => (met.effects holds).symm, fun event among ticket result handsOut => ?_⟩
    · obtain ⟨effects, led, besides⟩ := handled_besides later
        (stopped_besides (engine.playback.current = .null) plain.effects)
      rw [recalls, led]
      exact Mirrors.inStep { plainly with effects := fun _ => plainly.effects (.inl trivial) }
        besides
    · have early := acts_hand_out_below earlier among handsOut
      rw [led] at early
      exact early_tickets_are_stale met (handled_kept _ fresh_kept).sound early result

/-- A song is playing while an essay is asked for. -/
def recital : Story :=
  .lone { Node.bare "essay" (.graded ⟨"essay", "reply", "mood", "verdict", [], "", "", 1, 99, none⟩)
    with audio := some ⟨.bgm, "song", none⟩ }

/-- The recital as it opens, and once an essay has been handed in without any sound. -/
def recitalBegun : Engine := (begin recital Playback.standard.silent none).engine

def muffledRecital : Engine := recitalBegun.handled [.adjust .mute, .act (.beginGrading "la la")]

/-- The song is stopped and begins again, and the essay that was handed in is not graded. -/
theorem recital_begins_again :
    muffledRecital.playback.current = .str "song" ∧ muffledRecital.pending.isSome ∧
      muffledRecital.restart.engine.effects.audio =
        [.stopBgm, .playBgm (.str "song") (.bool true) .zero] ∧
      ∀ ticket, muffledRecital.pending = some ticket →
        ∀ (later : List Handling) (result : GradingResult),
        (muffledRecital.restart.engine.handled later).finishGrading ticket result =
          ⟨.ok false, muffledRecital.restart.engine.handled later⟩ := by
  have begun : (begin recital Playback.standard.silent none).outcome = .ok () := rfl
  have came : muffledRecital.restart = ⟨.ok (), muffledRecital.restart.engine⟩ := rfl
  obtain ⟨_, _, _, later⟩ := restarting_forgets begun rfl came
  refine ⟨rfl, rfl, by decide +kernel, fun ticket waiting handlings result => ?_⟩
  have asked : Event.HandsOut
      ⟨(recitalBegun.handle (.adjust .mute)).engine, .beginGrading "la la"⟩ ticket := by
    cases waiting
    rfl
  exact (later handlings).2.2 _ (by exact .head _) ticket result asked

end Engine

end VisualNovel
