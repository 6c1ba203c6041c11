import VisualNovel.Proofs.Renewal
import VisualNovel.Proofs.Sounds

/-! Which music plays. The playback goes by the track that a node has asked for last and does not
ask for it again. That is the track that is playing, with one exception: a game that has been taken
back to the gate by loading and is started there puts the story's own music over it. Until a node
asks for another track or the game begins again, nodes that ask for the old one are not heard. -/
namespace VisualNovel

/-- The music that a directive asks for. -/
def AudioDirective.music? : Option AudioDirective → Option String
  | some ⟨.bgm, src, _⟩ => some src
  | _ => none

/-- The music that a node asks for. -/
def Node.music? (node : Node) : Option String := AudioDirective.music? node.audio

namespace Playback

variable {p : Playback} {directive : Option AudioDirective} {src own : String}

/-- A track has been asked for last by a node, but is not the one that is playing. -/
def Drowned (p : Playback) (src : String) : Prop :=
  p.lastDirective = .str src ∧ p.current ≠ .str src

theorem playBgm_own (p : Playback) (own : String) (loop : Json) :
    (p.playBgm (.str own) loop).1 = { p with current := .str own } := by
  simp only [playBgm, Json.same_str, decide_eq_true_eq]
  split
  · rename_i playing
    rw [← playing]
  · rfl

theorem play_unmusical (unmusical : AudioDirective.music? directive = none) :
    (p.play directive).1 = p := by
  match directive, unmusical with
  | none, _ => rfl
  | some ⟨.sfx, _, _⟩, _ => rfl

/-- What has been asked for last is not asked for again. -/
theorem play_again (asks : AudioDirective.music? directive = some src)
    (last : p.lastDirective = .str src) : (p.play directive).1 = p := by
  match directive, asks with
  | some ⟨.bgm, _, _⟩, rfl => simp only [play, last, ↓reduceIte]

theorem play_anew (asks : AudioDirective.music? directive = some src)
    (last : p.lastDirective ≠ .str src) :
    (p.play directive).1 = { p with current := .str src, lastDirective := .str src } := by
  match directive, asks with
  | some ⟨.bgm, _, _⟩, rfl => simp only [play, last, ↓reduceIte, playBgm_own]

/-- A node that asks for music has then asked for it last. -/
theorem play_last (asks : AudioDirective.music? directive = some src) :
    (p.play directive).1.lastDirective = .str src := by
  by_cases last : p.lastDirective = .str src
  · rw [play_again asks last, last]
  · rw [play_anew asks last]

/-- A track stays drowned until another one is asked for. -/
theorem play_drowned :
    (p.play directive).1.Drowned src ↔
      p.Drowned src ∧ ∀ other, AudioDirective.music? directive = some other → other = src := by
  cases asks : AudioDirective.music? directive with
  | none => simp [play_unmusical asks]
  | some other =>
    by_cases last : p.lastDirective = .str other
    · rw [play_again asks last]
      simp only [Drowned, last, Json.str.injEq, Option.some.injEq, forall_eq']
      exact ⟨fun drowned => ⟨drowned, drowned.1⟩, And.left⟩
    · rw [play_anew asks last]
      simp only [Drowned, Json.str.injEq, ne_eq, Option.some.injEq, forall_eq']
      constructor
      · rintro ⟨same, differs⟩
        exact absurd same differs
      · rintro ⟨⟨asked, _⟩, rfl⟩
        exact absurd asked last

/-- The track that drowns another one keeps playing. -/
theorem play_drowned_current (drowned : (p.play directive).1.Drowned src) :
    (p.play directive).1.current = p.current := by
  cases asks : AudioDirective.music? directive with
  | none => rw [play_unmusical asks]
  | some other =>
    by_cases last : p.lastDirective = .str other
    · rw [play_again asks last]
    · rw [play_anew asks last] at drowned
      exact absurd drowned.1 drowned.2

theorem silent_not_drowned (p : Playback) : ¬p.silent.Drowned src :=
  fun drowned => nomatch drowned.1

end Playback

namespace Event

/-- An event starts the game and puts the story's own music over a track that a node has asked for
last. -/
structure Drowns (event : Event) (src : String) : Prop where
  starts : ∃ name carried, event.action = .start name ∧
    event.before.completed event.action = .ok carried
  asked : event.before.playback.lastDirective = .str src
  own : ∃ own, event.before.story.ownMusic? = some own ∧ own ≠ src

/-- The music of the node that an event reaches. -/
def music? (event : Event) : Option String :=
  (event.before.reached? event.action).bind Node.music?

/-- An event sets the music right: the game begins again, or a node is reached that asks for other
music. -/
def Clears (event : Event) (src : String) : Prop :=
  event.action = .restart ∨ ∃ other, event.music? = some other ∧ other ≠ src

end Event

/-- The story's own music has been put over a track that a node has asked for, and nothing has set
the music right. -/
def Overplayed (events : List Event) (src : String) : Prop :=
  ∃ earlier event later, events = earlier ++ event :: later ∧ event.Drowns src ∧
    ∀ since ∈ event :: later, ¬since.Clears src

namespace Engine

variable {story : Story} {engine first : Engine} {events : List Event} {action : Action}
  {src : String}

theorem not_overplayed_at_first : ¬Overplayed [] src := by
  rintro ⟨earlier, event, later, split, _⟩
  cases earlier <;> cases split

/-- After one more event a track is overplayed if that event has drowned it or it was overplayed
before, and the event has not set the music right. -/
theorem overplayed_snoc {last : Event} :
    Overplayed (events ++ [last]) src ↔
      (last.Drowns src ∨ Overplayed events src) ∧ ¬last.Clears src := by
  constructor
  · rintro ⟨earlier, event, later, split, drowns, lasting⟩
    rcases snoc_eq_append_cons split with ⟨rfl, rfl, rfl⟩ | ⟨between, rfl, rfl⟩
    · exact ⟨.inl drowns, lasting _ (by simp)⟩
    · have unclear : ∀ since ∈ event :: between, ¬since.Clears src := fun since among =>
        lasting since (List.mem_append_left [last] among)
      exact ⟨.inr ⟨earlier, event, between, rfl, drowns, unclear⟩, lasting last (by simp)⟩
  · rintro ⟨drowns | ⟨earlier, event, later, rfl, drowns, lasting⟩, unclear⟩
    · exact ⟨events, last, [], rfl, drowns, by simpa using unclear⟩
    · refine ⟨earlier, event, later ++ [last], by simp, drowns, fun since among => ?_⟩
      rw [← List.cons_append] at among
      rcases List.mem_append.mp among with old | new
      · exact lasting since old
      · exact List.mem_singleton.mp new ▸ unclear

/-! ## What an action does to the music -/

/-- A node that is reached is played, and without one nothing is. -/
theorem calls_directives (p : Playback) (node : Option Node) :
    (p.calls (directives node)).1 = (p.play (node.bind Node.audio)).1 := by
  cases node <;> rfl

theorem music?_bind (node : Option Node) :
    AudioDirective.music? (node.bind Node.audio) = node.bind Node.music? := by
  cases node <;> rfl

/-- Over whatever track is drowned, the story's own music is playing. -/
def OwnMusicOver (engine : Engine) : Prop :=
  ∀ src, engine.playback.Drowned src →
    ∃ own, engine.story.ownMusic? = some own ∧ engine.playback.current = .str own

/-- The music that a story starts with is what plays after the calls of a start. -/
theorem start_calls (engine : Engine) (name : String) :
    (engine.playback.calls (engine.callsBefore (.start name))).1 =
      match engine.story.ownMusic? with
      | some own => { engine.playback with current := .str own }
      | none => engine.playback := by
  unfold callsBefore
  cases engine.story.ownMusic? with
  | none => rfl
  | some own => exact Playback.playBgm_own ..

/-- Beginning again silences everything first. -/
theorem restart_calls (tidy : engine.playback.Tidy) :
    (engine.playback.calls (engine.callsBefore .restart)).1 = engine.playback.silent :=
  Playback.stop_silent tidy

/-- Before any node is played, only starting the game drowns a track, and no track is drowned when
the game begins again. -/
theorem callsBefore_drowned {carried : GameState} (tidy : engine.playback.Tidy)
    (above : engine.OwnMusicOver) (led : engine.completed action = .ok carried) :
    (engine.playback.calls (engine.callsBefore action)).1.Drowned src ↔
      (Event.Drowns ⟨engine, action⟩ src ∨ engine.playback.Drowned src) ∧ action ≠ .restart := by
  have other (start : ∀ name, action ≠ .start name) :
      ¬Event.Drowns ⟨engine, action⟩ src := fun drowns =>
    have ⟨name, _, starts, _⟩ := drowns.starts
    start name starts
  cases action with
  | restart =>
    rw [restart_calls tidy]
    simp [Playback.silent_not_drowned]
  | start name =>
    rw [start_calls]
    cases music : engine.story.ownMusic? with
    | none =>
      have undrowned : ¬Event.Drowns ⟨engine, .start name⟩ src := fun drowns => by
        obtain ⟨own, there, _⟩ := drowns.own
        cases music.symm.trans there
      simp [undrowned]
    | some own =>
      simp only [Playback.Drowned, Json.str.injEq, ne_eq, reduceCtorEq, not_false_eq_true, and_true]
      constructor
      · rintro ⟨asked, differs⟩
        exact .inl ⟨⟨name, carried, rfl, led⟩, asked, own, music, differs⟩
      · rintro (drowns | drowned)
        · obtain ⟨_, there, differs⟩ := drowns.own
          cases music.symm.trans there
          exact ⟨drowns.asked, differs⟩
        · obtain ⟨_, there, playing⟩ := above src drowned
          cases music.symm.trans there
          exact ⟨drowned.1, fun same => drowned.2 (playing.trans (congrArg Json.str same))⟩
  | _ => simp [other, callsBefore, Playback.calls]

theorem callsBefore_over (tidy : engine.playback.Tidy) (above : engine.OwnMusicOver)
    (drowned : (engine.playback.calls (engine.callsBefore action)).1.Drowned src) :
    ∃ own, engine.story.ownMusic? = some own ∧
      (engine.playback.calls (engine.callsBefore action)).1.current = .str own := by
  cases action with
  | restart =>
    rw [restart_calls tidy] at drowned
    exact absurd drowned (Playback.silent_not_drowned _)
  | start name =>
    rw [start_calls] at drowned ⊢
    cases music : engine.story.ownMusic? with
    | none =>
      rw [music] at drowned
      obtain ⟨own, there, _⟩ := above src drowned
      cases music.symm.trans there
    | some own => exact ⟨own, rfl, rfl⟩
  | _ => exact above src drowned

/-- After an action, a track is drowned if that action has drowned it or it was drowned before, and
the action has not set the music right. -/
theorem act_drowned (sound : Sound story engine) (tidy : engine.playback.Tidy)
    (above : engine.OwnMusicOver) (action : Action) (src : String) :
    (engine.act action).engine.playback.Drowned src ↔
      (Event.Drowns ⟨engine, action⟩ src ∨ engine.playback.Drowned src) ∧
        ¬Event.Clears ⟨engine, action⟩ src := by
  rw [step_playback sound (act_step engine action)]
  cases led : engine.completed action with
  | error fault =>
    -- Nothing has been heard of the action, and neither has it started the game or moved anyone.
    have undrowned : ¬Event.Drowns ⟨engine, action⟩ src := fun drowns => by
      obtain ⟨_, _, _, there⟩ := drowns.starts
      cases led.symm.trans there
    have unclear : ¬Event.Clears ⟨engine, action⟩ src := by
      rintro (rfl | ⟨other, music, _⟩)
      · cases led
      · simp [Event.music?, reached?, led] at music
    simp only [callsUpTo, led, Playback.calls, undrowned, unclear, false_or, not_false_eq_true,
      and_true]
  | ok carried =>
    rw [callsUpTo_eq led, Playback.calls_append, calls_directives, Playback.play_drowned,
      callsBefore_drowned tidy above led, music?_bind, and_assoc]
    refine and_congr_right fun _ => ?_
    simp only [Event.Clears, Event.music?, not_or, not_exists, not_and, ne_eq, Classical.not_not]

theorem act_over (sound : Sound story engine) (tidy : engine.playback.Tidy)
    (above : engine.OwnMusicOver) (action : Action) : (engine.act action).engine.OwnMusicOver := by
  intro src drowned
  have same : (engine.act action).engine.story = engine.story :=
    (step_sound sound (act_step engine action)).story.trans sound.story.symm
  rw [same]
  rw [step_playback sound (act_step engine action)] at drowned ⊢
  cases led : engine.completed action with
  | error fault =>
    rw [callsUpTo, led] at drowned ⊢
    exact above src drowned
  | ok carried =>
    rw [callsUpTo_eq led, Playback.calls_append, calls_directives] at drowned ⊢
    have before := (Playback.play_drowned.mp drowned).1
    rw [Playback.play_drowned_current drowned]
    exact callsBefore_over tidy above before

/-- The node that is reached has asked for its music last. -/
theorem reached_last {node : Node} (sound : Sound story engine)
    (reached : engine.reached? action = some node) (asks : node.music? = some src) :
    (engine.act action).engine.playback.lastDirective = .str src := by
  rw [step_playback sound (act_step engine action)]
  cases led : engine.completed action with
  | error fault => simp [reached?, led] at reached
  | ok carried =>
    rw [callsUpTo_eq led, Playback.calls_append, reached]
    exact Playback.play_last asks

/-! ## What a playthrough does to the music -/

/-- What holds of the music at every moment. -/
structure Tuned (story : Story) (events : List Event) (engine : Engine) : Prop where
  kept : Kept story engine
  above : engine.OwnMusicOver
  drowned : ∀ src, engine.playback.Drowned src ↔ Overplayed events src

theorem begin_tuned {controller : Playback} {background : Option String}
    (begun : (begin story controller.silent background).outcome = .ok ()) :
    Tuned story [] (begin story controller.silent background).engine := by
  obtain ⟨directive, playback⟩ :=
    (entry_follows (enter_entry (initial story controller.silent background))).playback
  have undrowned (src : String) :
      ¬(begin story controller.silent background).engine.playback.Drowned src := fun drowned => by
    rw [begin, playback] at drowned
    exact controller.silent_not_drowned (Playback.play_drowned.mp drowned).1
  have kept := begin_kept controller.silent_tidy begun
  exact ⟨kept, fun src drowned => absurd drowned (undrowned src),
    fun src => iff_of_false (undrowned src) not_overplayed_at_first⟩

theorem act_tuned (tuned : Tuned story events engine) (action : Action) :
    Tuned story (events ++ [⟨engine, action⟩]) (engine.act action).engine := by
  obtain ⟨⟨sound, tidy⟩, above, drowned⟩ := tuned
  have step := act_step engine action
  refine ⟨⟨step_sound sound step, step_tidy step tidy⟩, act_over sound tidy above action,
    fun src => ?_⟩
  rw [act_drowned sound tidy above, overplayed_snoc, drowned]

theorem played_tuned (tuned : Tuned story [] first) (played : Played first events engine) :
    Tuned story events engine := by
  induction played with
  | opened => exact tuned
  | acted played action tuned => exact act_tuned tuned action

/-- While the player is at the gate, no node has asked for music. -/
def QuietGate (engine : Engine) : Prop :=
  engine.state.gameStarted = false → engine.playback.lastDirective = .null

/-- Only loading takes the player back to the gate with music that a node has asked for. -/
theorem act_quiet (kept : Kept story engine) (quiet : engine.QuietGate)
    (started : ∀ saved, action = .load saved → saved.gameStarted = true) :
    (engine.act action).engine.QuietGate := by
  obtain ⟨sound, tidy⟩ := kept
  have step := act_step engine action
  generalize engine.act action = turn at step
  cases step with
  | refused | discarded | ungraded | movedOn | handedOut | cancelled | shown => exact quiet
  | @loaded saved =>
    intro gate
    have loaded : (engine.load saved).state = saved := (engine.load_loaded saved).state
    rw [loaded, started saved rfl] at gate
    cases gate
  | completed completes led entry =>
    rename_i carried turn
    intro gate
    obtain ⟨_, state, _⟩ := andThen_prepend_entered turn (engine.cue action)
    obtain ⟨vars, entered⟩ := (entry_follows entry).state
    have before : carried.gameStarted = false := by
      rwa [Turn.as_engine, state, entered] at gate
    rcases completed_leads_on sound completes led with ⟨name, rfl⟩ | rfl | onward
    · simp only [completed] at led
      split at led
      · cases led
      · obtain ⟨_, _, rfl⟩ := Story.startGame_eq_ok.mp led
        cases before
    · -- The new game waits at the gate, where no node is entered.
      have unentered : ¬Due { engine.prepared .restart with state := carried } := fun due => by
        rw [Due, before] at due
        cases due.1
      have same : turn.engine.playback = engine.playback.silent := by
        cases entry with
        | quiet => exact Playback.stop_silent tidy
        | nowhere due | beyond due | entered due => exact absurd due unentered
      rw [Turn.as_engine, andThen_prepend_playback, same]
      rfl
    · rw [onward.after] at before
      cases before

theorem begin_quiet {controller : Playback} {background : Option String} :
    (begin story controller.silent background).engine.QuietGate := by
  intro gate
  have entry := enter_entry (initial story controller.silent background)
  obtain ⟨vars, state⟩ := (entry_follows entry).state
  rw [begin, state] at gate
  have unentered : ¬(initial story controller.silent background).Due := fun due => by
    rw [Due, gate] at due
    cases due.1
  rw [begin]
  generalize (initial story controller.silent background).enter = turn at entry
  cases entry with
  | quiet => rfl
  | nowhere due | beyond due | entered due => exact absurd due unentered

/-- As long as only states of started games are loaded, the gate is quiet at every moment. -/
theorem played_quiet (tuned : Tuned story [] first) (quiet : first.QuietGate)
    (played : Played first events engine)
    (started : ∀ event ∈ events, ∀ saved, event.action = .load saved → saved.gameStarted = true) :
    engine.QuietGate ∧ ∀ event ∈ events, event.before.QuietGate := by
  induction played with
  | opened => exact ⟨quiet, fun _ among => nomatch among⟩
  | @acted events engine played action ih =>
    obtain ⟨now, earlier⟩ := ih fun event among => started event (List.mem_append_left _ among)
    have kept := (played_tuned tuned played).kept
    refine ⟨act_quiet kept now (started ⟨engine, action⟩ (by simp)), fun event among => ?_⟩
    rcases List.mem_append.mp among with old | new
    · exact earlier event old
    · exact List.mem_singleton.mp new ▸ now

/-- No track is overplayed unless music has been asked for at the gate. -/
theorem not_overplayed_of_quiet (quiet : ∀ event ∈ events, event.before.QuietGate) :
    ¬Overplayed events src := by
  rintro ⟨earlier, event, later, rfl, drowns, _⟩
  obtain ⟨name, carried, starts, led⟩ := drowns.starts
  have gate : event.before.state.gameStarted = false := by
    rw [starts, completed] at led
    split at led
    · cases led
    · rename_i closed
      exact Bool.not_eq_true _ |>.mp closed
  have nothing := quiet event (by simp) gate
  rw [drowns.asked] at nothing
  cases nothing

/-- Whenever a node is reached that asks for music, that music plays unless it is overplayed; then
the story's own music plays instead. As long as only states of started games are loaded, nothing is
overplayed. -/
theorem music_plays_unless_overplayed {controller : Playback} {background : Option String}
    (begun : (begin story controller.silent background).outcome = .ok ())
    (played : Played (begin story controller.silent background).engine events engine)
    {node : Node} (reached : engine.reached? action = some node) (asks : node.music? = some src) :
    ((engine.act action).engine.playback.current = .str src ↔
        ¬Overplayed (events ++ [⟨engine, action⟩]) src) ∧
      (Overplayed (events ++ [⟨engine, action⟩]) src → ∃ own, story.ownMusic? = some own ∧
        own ≠ src ∧ (engine.act action).engine.playback.current = .str own) ∧
      ((∀ event ∈ events, ∀ saved, event.action = .load saved → saved.gameStarted = true) →
        ¬Overplayed (events ++ [⟨engine, action⟩]) src) := by
  have first := begin_tuned begun
  have before := played_tuned first played
  obtain ⟨⟨sound, _⟩, above, drowned⟩ := act_tuned before action
  have last := reached_last before.kept.sound reached asks
  have drowned : (engine.act action).engine.playback.current ≠ .str src ↔
      Overplayed (events ++ [⟨engine, action⟩]) src := by
    rw [← drowned src, Playback.Drowned, last]
    simp
  refine ⟨by rw [← drowned, ne_eq, Classical.not_not], fun overplayed => ?_, fun started => ?_⟩
  · have differs := drowned.mpr overplayed
    obtain ⟨own, music, playing⟩ := above src ⟨last, differs⟩
    rw [sound.story] at music
    refine ⟨own, music, ?_, playing⟩
    rintro rfl
    exact differs playing
  · obtain ⟨now, earlier⟩ := played_quiet first begin_quiet played started
    refine not_overplayed_of_quiet fun event among => ?_
    rcases List.mem_append.mp among with old | new
    · exact earlier event old
    · exact List.mem_singleton.mp new ▸ now

/-- A ballroom behind a gate, which has its waltz, while the story itself starts with a theme. -/
def ball : Story :=
  { Story.lone { Node.bare "ballroom" .narration with audio := some ⟨.bgm, "waltz", none⟩ } with
    settings := { Settings.standard with defaultBgm := some "theme" } }

/-- A dancer at the gate, for whom a game that has not been started is loaded. -/
def dancer : Engine := (begin ball Playback.standard.silent none).engine

def lateDancer : Engine := (dancer.act (.load ball.newGame)).engine

/-- Who comes in after that hears the theme instead of the waltz. -/
theorem late_dancers_hear_no_waltz :
    Overplayed [⟨dancer, .load ball.newGame⟩, ⟨lateDancer, .start "Ann"⟩] "waltz" ∧
      (lateDancer.act (.start "Ann")).engine.playback.current = .str "theme" := by
  have led : Played dancer [⟨dancer, .load ball.newGame⟩] lateDancer := .acted .opened _
  have there : ∃ node, lateDancer.reached? (.start "Ann") = some node ∧
      node.music? = some "waltz" := ⟨_, rfl, rfl⟩
  obtain ⟨node, reached, asks⟩ := there
  obtain ⟨plays, _⟩ := music_plays_unless_overplayed rfl led reached asks
  have theme : (lateDancer.act (.start "Ann")).engine.playback.current = .str "theme" := rfl
  refine ⟨Classical.not_not.mp fun unspoilt => ?_, theme⟩
  have waltz := plays.mpr unspoilt
  rw [theme] at waltz
  exact absurd waltz (by decide)

/-- The music of a node that has been reached does not always play. -/
theorem music_may_be_overplayed :
    ¬∀ (story : Story) (controller : Playback) (background : Option String) (events : List Event)
      (engine : Engine) (action : Action) (node : Node) (src : String),
      (begin story controller.silent background).outcome = .ok () →
        Played (begin story controller.silent background).engine events engine →
          engine.reached? action = some node → node.music? = some src →
            (engine.act action).engine.playback.current = .str src := by
  intro plays
  have waltz := plays ball .standard none [⟨dancer, .load ball.newGame⟩] lateDancer (.start "Ann")
    _ "waltz" rfl (.acted .opened _) rfl rfl
  have theme : (lateDancer.act (.start "Ann")).engine.playback.current = .str "theme" := rfl
  rw [theme] at waltz
  exact absurd waltz (by decide)

end Engine

end VisualNovel
