import VisualNovel.Proofs.Actions

/-! Playthroughs over time. A playthrough opens as a new game or is taken up from any state, and
then any actions are carried out in any order. `Sound` collects what holds at every moment of every
run: which arrival is on record, and what a pending request says about the place of the player. -/
namespace VisualNovel

/-- An action together with the playthrough in which it is carried out. -/
structure Event where
  before : Engine
  action : Action

/-- What the action of an event comes to. -/
def Event.turn (event : Event) : Turn Answer := event.before.act event.action

/-- What is in a list that has grown by one is new, or was there before. -/
theorem snoc_eq_append_cons {α : Type} {entries earlier later : List α} {latest entry : α}
    (split : entries ++ [latest] = earlier ++ entry :: later) :
    (later = [] ∧ entries = earlier ∧ latest = entry) ∨
      ∃ between, later = between ++ [latest] ∧ entries = earlier ++ entry :: between := by
  rcases List.eq_nil_or_concat later with rfl | ⟨between, last, rfl⟩
  · obtain ⟨rfl, same⟩ := List.append_inj' split rfl
    cases same
    exact .inl ⟨rfl, rfl, rfl⟩
  · have split' : entries ++ [latest] = (earlier ++ entry :: between) ++ [last] := by
      simpa using split
    obtain ⟨rfl, same⟩ := List.append_inj' split' rfl
    cases same
    exact .inr ⟨between, by simp, rfl⟩

namespace Engine

/-- How a playthrough of a story opens: as a new game, or taken up from a state. -/
inductive Opening (story : Story) : Engine → Prop
  | fresh {playback : Playback} {background : Option String}
      (begun : (begin story playback background).outcome = .ok ()) :
      Opening story (begin story playback background).engine
  | resumed {state : GameState} {playback : Playback} {background : Option String} :
      Opening story (resume story state playback background)

/-- The events that lead from one moment of a playthrough to another. -/
inductive Played (first : Engine) : List Event → Engine → Prop
  | opened : Played first [] first
  | acted {events : List Event} {engine : Engine} (played : Played first events engine)
      (action : Action) :
      Played first (events ++ [⟨engine, action⟩]) (engine.act action).engine

/-- What a pending request says: the player is where it was made, at a node that grades. -/
structure Awaits (engine : Engine) (ticket : Ticket) : Prop where
  still : ticket.arrival = engine.state.arrival
  started : engine.state.gameStarted = true
  graded : ∃ node config, engine.node? = some node ∧ node.body = .graded config
  numbered : 0 ≤ ticket.number ∧ ticket.number < engine.issued

/-- A ticket that has just been handed out is awaited. -/
theorem handed_out_awaits {engine : Engine} {value userInput : String} {node : Node}
    {config : GradedConfig}
    (valid : engine.story.validateResponse engine.state value = .ok (node, config, userInput)) :
    (engine.asking userInput).Awaits (engine.nextTicket userInput) := by
  obtain ⟨started, found, graded, _⟩ := Story.validateResponse_eq_ok.mp valid
  exact ⟨rfl, started, ⟨node, config, found, graded⟩, Int.natCast_nonneg _,
    Int.ofNat_lt.mpr (Nat.lt_succ_self _)⟩

/-- Only a sum beyond the range can stop a grade for the pending ticket. -/
theorem finish_counts {engine : Engine} {ticket : Ticket} (waiting : engine.pending = some ticket)
    (awaits : engine.Awaits ticket) (result : GradingResult) :
    (engine.finishGrading ticket result).outcome = .ok true ∨
      (engine.finishGrading ticket result).outcome = .error .overflow := by
  obtain ⟨node, config, found, graded⟩ := awaits.graded
  rw [finish_pending waiting awaits.still]
  cases taken : engine.story.applyGrading engine.state ticket.userInput result with
  | error fault =>
    cases Story.applyGrading_fault found graded taken
    exact .inr rfl
  | ok carried =>
    simp only [Turn.as_outcome_ok, Turn.as_outcome_error, and_true]
    exact (entry_outcome (enter_entry _)).imp_left fun came => ⟨(), came⟩

/-- What holds at every moment of every playthrough of a story. -/
structure Sound (story : Story) (engine : Engine) : Prop where
  story : engine.story = story
  marked : engine.entered = enteredBy engine.state
  awaits : ∀ ticket, engine.pending = some ticket → engine.Awaits ticket

variable {story : Story} {engine first : Engine} {events : List Event}

/-- An arrival is on record once it has taken place. -/
theorem entry_marks {turn : Turn Unit} (entry : Entry engine turn)
    (gate : engine.state.gameStarted = false → engine.entered = none) :
    turn.engine.entered = enteredBy turn.engine.state := by
  cases entry with
  | quiet quiet =>
    by_cases started : engine.state.gameStarted = true
    · rw [Due, not_and, Classical.not_not] at quiet
      simpa only [done, enteredBy, started, if_true] using quiet started
    · rw [Bool.not_eq_true] at started
      simpa only [done, enteredBy, started, Bool.false_eq_true, if_false] using gate started
  | nowhere due => simp [done, marked, enteredBy, due.1]
  | beyond due => simp [marked, enteredBy, due.1]
  | entered due => simp [done, settled, marked, enteredBy, due.1, GameState.arrival]

/-- How the completion of a node leads on: the player stays, or moves and leaves an entry. -/
structure LeadsOn (state carried : GameState) : Prop where
  before : state.gameStarted = true
  after : carried.gameStarted = true
  way : carried.arrival = state.arrival ∧ carried.history = state.history ∨
    ∃ entry, carried.history = state.history ++ [entry]

theorem navigate_leads_on {state : GameState} (target choiceId : Option String)
    {change : GameState → GameState} (before : state.gameStarted = true)
    (after : (change state).gameStarted = state.gameStarted)
    (still : (change state).arrival = state.arrival)
    (history : (change state).history = state.history) :
    LeadsOn state (state.navigate target choiceId change) := by
  rw [GameState.navigate_eq]
  cases nonempty? target with
  | none => exact ⟨before, after.trans before, .inl ⟨still, history⟩⟩
  | some target => exact ⟨before, after.trans before, .inr ⟨_, rfl⟩⟩

/-- What an action other than starting and restarting completes leads on from where the player
is. -/
theorem completed_leads_on {action : Action} {carried : GameState}
    (sound : Sound story engine) (completes : engine.Completes action)
    (led : engine.completed action = .ok carried) :
    (∃ name, action = .start name) ∨ action = .restart ∨ LeadsOn engine.state carried := by
  cases action with
  | start name => exact .inl ⟨name, rfl⟩
  | restart => exact .inr (.inl rfl)
  | advance =>
    have acknowledged := (onceIdle_eq_ok.mp led).2
    obtain ⟨started, _, _, ⟨_, rfl⟩ | ⟨_, rfl⟩⟩ := Story.acknowledge_eq_ok.mp acknowledged
    · exact .inr (.inr ⟨started, started, .inl ⟨rfl, rfl⟩⟩)
    · exact .inr (.inr (navigate_leads_on _ _ started rfl rfl rfl))
  | choose choiceId =>
    have selected := (onceIdle_eq_ok.mp led).2
    obtain ⟨started, _, _, _, _, _, _, _, _, _, _, rfl⟩ := Story.selectChoice_eq_ok.mp selected
    exact .inr (.inr (navigate_leads_on _ _ started rfl rfl rfl))
  | submit value =>
    have submitted := (onceIdle_eq_ok.mp led).2
    obtain ⟨started, _, _, _, _, _, _, rfl⟩ := Story.submitInput_eq_ok.mp submitted
    exact .inr (.inr (navigate_leads_on _ _ started rfl rfl rfl))
  | finishGrading ticket result =>
    have graded : engine.story.applyGrading engine.state ticket.userInput result = .ok carried :=
      (if_pos completes).symm.trans led
    obtain ⟨_, _, _, _, _, _, rfl⟩ := Story.applyGrading_eq_ok.mp graded
    exact .inr (.inr (navigate_leads_on _ _ (sound.awaits ticket completes.1).started rfl rfl rfl))
  | beginGrading | cancelGrading | load | showFeedback => exact completes.elim

/-- A game that an action leaves at the gate has no arrival on record. -/
theorem prepared_gate {action : Action} {carried : GameState}
    (sound : Sound story engine) (completes : engine.Completes action)
    (led : engine.completed action = .ok carried)
    (gate : carried.gameStarted = false) : (engine.prepared action).entered = none := by
  rcases completed_leads_on sound completes led with ⟨name, rfl⟩ | rfl | onward
  · simp only [completed] at led
    split at led
    · cases led
    · obtain ⟨userName, _, rfl⟩ := Story.startGame_eq_ok.mp led
      cases gate
  · rfl
  · cases gate.symm.trans onward.after

/-- What is the same after a state has been loaded wherever its node is. -/
structure Loaded (engine : Engine) (saved : GameState) (now : Engine) : Prop where
  story : now.story = engine.story
  state : now.state = saved
  pending : now.pending = none
  issued : now.issued = engine.issued
  entered : now.entered = enteredBy saved
  endings : now.endings = engine.endings

theorem load_loaded (engine : Engine) (state : GameState) :
    Loaded engine state (engine.load state) := by
  unfold load
  cases engine.story.node? state.currentSceneId state.currentNodeId with
  | none => exact ⟨rfl, rfl, rfl, rfl, rfl, rfl⟩
  | some node => exact ⟨rfl, rfl, rfl, rfl, rfl, rfl⟩

/-- Putting a completed state in place leaves no request waiting. -/
theorem completed_idle {action : Action} {carried : GameState}
    (sound : Sound story engine) (completes : engine.Completes action)
    (led : engine.completed action = .ok carried) :
    (engine.prepared action).pending = none := by
  cases action with
  | start name =>
    -- Nothing turns a start down for a waiting request, but only started games make requests.
    cases waiting : engine.pending with
    | none => exact waiting
    | some ticket =>
      simp only [completed, (sound.awaits ticket waiting).started, ↓reduceIte] at led
      cases led
  | advance | choose | submit => exact (onceIdle_eq_ok.mp led).1
  | finishGrading | restart => rfl
  | beginGrading | cancelGrading | load | showFeedback => exact completes.elim

@[simp] theorem prepared_story (engine : Engine) (action : Action) :
    (engine.prepared action).story = engine.story := by
  cases action <;> rfl

@[simp] theorem prepared_issued (engine : Engine) (action : Action) :
    (engine.prepared action).issued = engine.issued := by
  cases action <;> rfl

/-- Commands put before those of an arrival leave what is on record. -/
theorem andThen_prepend_entered (turn : Turn Unit) (commands : List AudioCommand) :
    (turn.andThen (prependAudio commands)).engine.entered = turn.engine.entered ∧
      (turn.andThen (prependAudio commands)).engine.state = turn.engine.state ∧
      (turn.andThen (prependAudio commands)).engine.endings = turn.engine.endings := by
  obtain ⟨outcome, after⟩ := turn
  cases outcome <;> exact ⟨rfl, rfl, rfl⟩

theorem sound_idle (sound : Sound story engine) : Sound story engine.cancelGrading :=
  ⟨sound.story, sound.marked, fun _ waiting => (nomatch waiting)⟩

/-- A single action preserves soundness, whatever it comes to. -/
theorem step_sound {action : Action} {turn : Turn Answer} (sound : Sound story engine)
    (step : Step engine action turn) : Sound story turn.engine := by
  cases step with
  | refused | discarded => exact sound
  | ungraded | movedOn | cancelled => exact sound_idle sound
  | shown =>
    refine ⟨sound.story, sound.marked, fun ticket waiting => ?_⟩
    have awaits := sound.awaits ticket waiting
    exact ⟨awaits.still, awaits.started, awaits.graded, awaits.numbered⟩
  | @loaded state =>
    have loaded := engine.load_loaded state
    refine ⟨loaded.story.trans sound.story, ?_, fun ticket waiting => ?_⟩
    · rw [loaded.entered, loaded.state]
    · rw [loaded.pending] at waiting
      cases waiting
  | handedOut idle valid =>
    refine ⟨sound.story, sound.marked, fun ticket waiting => ?_⟩
    cases waiting
    exact handed_out_awaits valid
  | completed completes led entry =>
    rename_i carried turn
    have follows := andThen_prepend_follows (engine.cue action) (entry_follows entry)
    obtain ⟨entered, state, _⟩ := andThen_prepend_entered turn (engine.cue action)
    refine ⟨?_, ?_, fun ticket waiting => ?_⟩
    · simpa using follows.story.trans ((prepared_story engine action).trans sound.story)
    · rw [Turn.as_engine, entered, state]
      exact entry_marks entry (prepared_gate sound completes led)
    · rw [Turn.as_engine, follows.pending] at waiting
      cases (completed_idle sound completes led).symm.trans waiting

theorem opening_sound (opening : Opening story first) : Sound story first := by
  cases opening with
  | resumed => exact ⟨rfl, rfl, fun _ waiting => (nomatch waiting)⟩
  | @fresh playback background begun =>
    have entry := enter_entry (initial story playback background)
    have follows := entry_follows entry
    refine ⟨follows.story, entry_marks entry fun _ => rfl, fun ticket waiting => ?_⟩
    cases follows.pending.symm.trans waiting

/-- Whatever is done from a sound moment on, every later moment is sound. -/
theorem sound_played (sound : Sound story first) (played : Played first events engine) :
    Sound story engine := by
  induction played with
  | opened => exact sound
  | acted played action sound => exact step_sound sound (act_step _ action)

/-- At every moment of every playthrough, the arrival on record is where the player is, and a
request that waits was made there. -/
theorem played_sound (opening : Opening story first) (played : Played first events engine) :
    Sound story engine :=
  sound_played (opening_sound opening) played

end Engine

/-- A node that holds nothing besides what the player does there. -/
def Node.bare (id : String) (body : NodeBody) : Node where
  id
  text := none
  speakerName := none
  characterId := none
  expression := none
  background := none
  visibleCharacters := []
  audio := none
  setVariables := none
  addVariables := none
  nextNodeId := none
  transition := none
  body

/-- A story of a single node, which starts without asking for a name. -/
def Story.lone (node : Node) : Story where
  title := "Title"
  author := none
  version := none
  characters := []
  backgrounds := []
  scenes := [⟨"scene", "Scene", node.id, [node]⟩]
  startSceneId := "scene"
  vars := .empty
  settings := { Settings.standard with askForName := false }

end VisualNovel
