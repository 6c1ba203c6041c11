import VisualNovel.Proofs.Runs

/-! When a node is entered. The effects of a node take place once for each arrival at it. Whether an
action arrives somewhere can be told from the state before it and the state after it; the arrival on
record decides the same, because it is where the player is at every moment of a started game. -/
namespace VisualNovel

/-- Whether an action that has led from one state to another arrives at a node: the game starts, or
the player moves. Coming back to a node is an arrival like any other. -/
def Action.Arrives (before now : GameState) : Action → Prop
  | .start _ => True
  | .restart => now.gameStarted = true
  | .load _ => False
  | .advance | .choose _ | .submit _ | .beginGrading _ | .finishGrading _ _ | .cancelGrading
  | .showFeedback _ => ∃ entry, now.history = before.history ++ [entry]

theorem extended_iff {before now : List HistoryEntry} :
    now.dropLast = before ∧ now ≠ [] ↔ ∃ entry, now = before ++ [entry] := by
  constructor
  · rintro ⟨rfl, extended⟩
    exact ⟨_, (List.dropLast_concat_getLast extended).symm⟩
  · rintro ⟨entry, rfl⟩
    simp

instance {before now : GameState} {action : Action} : Decidable (action.Arrives before now) :=
  match action with
  | .start _ => .isTrue trivial
  | .restart => inferInstanceAs (Decidable (now.gameStarted = true))
  | .load _ => .isFalse id
  | .advance | .choose _ | .submit _ | .beginGrading _ | .finishGrading _ _ | .cancelGrading
  | .showFeedback _ => decidable_of_iff _ extended_iff

namespace Engine

/-- The effects of a node for whoever arrives there by an action. -/
def arrivalEffects (engine : Engine) (action : Action) (node : Node) : EntryEffects :=
  (engine.story.entryEffects node (engine.prepared action).playback
    (engine.prepared action).background).2

/-- A node has been entered once after an action has completed the state. -/
structure EnteredOnce (engine : Engine) (action : Action) (carried : GameState) (node : Node)
    (now : Engine) : Prop where
  changed : ∃ vars, carried.vars.mutate node.setVariables node.addVariables = some vars ∧
    now.state = { carried with vars }
  playback : now.playback = ((engine.prepared action).playback.play node.audio).1
  effects : now.effects = { engine.arrivalEffects action node with
    audio := engine.cue action ++ ((engine.prepared action).playback.play node.audio).2.toList }
  announced : now.endings =
    engine.endings ++ if node.body.kind = .ending then [now.state.position] else []

/-- No node has been entered after an action has completed the state. -/
structure NothingEntered (engine : Engine) (action : Action) (carried : GameState)
    (now : Engine) : Prop where
  unchanged : now.state = carried
  silent : (∀ state, action ≠ .load state) → now.playback = (engine.prepared action).playback
  unannounced : now.endings = engine.endings

/-- What has been entered after an action goes by whether the action has arrived. -/
structure EntersOnArrival (engine : Engine) (action : Action) (carried : GameState)
    (now : Engine) : Prop where
  led : engine.completed action = .ok carried
  once : action.Arrives engine.state now.state → ∀ node, now.node? = some node →
    EnteredOnce engine action carried node now
  otherwise : ¬action.Arrives engine.state now.state ∨ now.node? = none →
    NothingEntered engine action carried now

variable {story : Story} {engine first : Engine} {events : List Event}

/-- In a started game an arrival is due exactly if the player has moved. -/
private theorem due_iff_moved {carried : GameState} (prepared : Engine)
    (marked : prepared.entered = enteredBy engine.state)
    (onward : LeadsOn engine.state carried) :
    Due { prepared with state := carried } ↔
      ∃ entry, carried.history = engine.state.history ++ [entry] := by
  rw [enteredBy, if_pos onward.before] at marked
  simp only [Due, onward.after, true_and, marked, ne_eq, Option.some.injEq]
  rcases onward.way with ⟨still, history⟩ | ⟨entry, history⟩
  · simp [still, history]
  · -- The histories differ in length, and so do the arrivals.
    refine iff_of_true (fun same => ?_) ⟨entry, history⟩
    simpa [GameState.arrival, history] using congrArg Arrival.historyLength same

/-- An arrival is due exactly if the action has arrived. -/
theorem due_iff_arrives {action : Action} {carried : GameState} (sound : Sound story engine)
    (completes : engine.Completes action) (led : engine.completed action = .ok carried) :
    Due { engine.prepared action with state := carried } ↔
      action.Arrives engine.state carried := by
  have onward := completed_leads_on sound completes led
  cases action with
  | start name =>
    simp only [completed] at led
    split at led
    · cases led
    · rename_i gate
      obtain ⟨userName, _, rfl⟩ := Story.startGame_eq_ok.mp led
      have unentered : engine.entered = none := by simp [sound.marked, enteredBy, gate]
      simp [Due, prepared, unentered, Action.Arrives]
  | restart => simp [Due, prepared, Action.Arrives]
  | advance | choose | submit | finishGrading =>
    exact due_iff_moved _ sound.marked (by simpa using onward)
  | beginGrading | cancelGrading | load | showFeedback => exact completes.elim

theorem prepared_endings (engine : Engine) (action : Action) :
    (engine.prepared action).endings = engine.endings := by
  cases action <;> rfl

theorem not_arrives_of_history {action : Action} {before now : GameState}
    (history : now.history = before.history) (start : ∀ name, action ≠ .start name)
    (restart : action ≠ .restart) : ¬action.Arrives before now := by
  cases action with
  | start name => exact absurd rfl (start name)
  | restart => exact absurd rfl restart
  | load => exact id
  | _ => simp [Action.Arrives, history]

private theorem stays_put {action : Action} {carried : GameState} {now : Engine}
    (led : engine.completed action = .ok carried)
    (nowhere : ¬action.Arrives engine.state now.state)
    (nothing : NothingEntered engine action carried now) :
    EntersOnArrival engine action carried now :=
  ⟨led, fun arrives => absurd arrives nowhere, fun _ => nothing⟩

/-- An action that puts a completed state in place enters a node if it arrives at one. -/
private theorem completed_enters {action : Action} {carried : GameState} {turn : Turn Unit}
    (sound : Sound story engine) (completes : engine.Completes action)
    (led : engine.completed action = .ok carried)
    (entry : Entry { engine.prepared action with state := carried } turn)
    (came : turn.outcome = .ok ()) :
    EntersOnArrival engine action carried
      (turn.andThen (prependAudio (engine.cue action))).engine := by
  have due := due_iff_arrives sound completes led
  have endings := prepared_endings engine action
  cases entry with
  | quiet quiet =>
    exact stays_put led (quiet ∘ due.mpr) ⟨rfl, fun _ => rfl, endings⟩
  | nowhere arrived missing =>
    refine ⟨led, fun _ node found => ?_, fun _ => ⟨rfl, fun _ => rfl, endings⟩⟩
    cases missing.symm.trans found
  | beyond => cases came
  | entered arrived found sum =>
    have arrives := due.mp arrived
    refine ⟨led, fun _ node' found' => ?_, fun nothing => ?_⟩
    · cases found.symm.trans found'
      refine ⟨⟨_, sum, rfl⟩, rfl, ?_, congrArg (· ++ _) endings⟩
      rw [arrivalEffects, ← prepared_story engine action]
      rfl
    · rcases nothing with nowhere | missing
      · exact absurd arrives nowhere
      · cases missing.symm.trans found

theorem step_enters {action : Action} {turn : Turn Answer} {answer : Answer}
    (sound : Sound story engine) (step : Step engine action turn)
    (came : turn.outcome = .ok answer) :
    ∃ carried, EntersOnArrival engine action carried turn.engine := by
  cases step with
  | refused | ungraded => cases came
  | completed completes led entry =>
    obtain ⟨⟨⟨⟩, entered⟩, _⟩ := Turn.as_outcome_ok .. |>.mp came
    rw [Turn.andThen_outcome] at entered
    exact ⟨_, completed_enters sound completes led entry entered⟩
  | movedOn waiting moved =>
    exact ⟨_, stays_put (if_neg (moved ·.2)) (not_arrives_of_history rfl (by simp) (by simp))
      ⟨rfl, fun _ => rfl, rfl⟩⟩
  | discarded stale =>
    exact ⟨_, stays_put (if_neg (stale ·.1)) (not_arrives_of_history rfl (by simp) (by simp))
      ⟨rfl, fun _ => rfl, rfl⟩⟩
  | @handedOut value _ _ _ idle valid =>
    have led : engine.completed (.beginGrading value) = .ok engine.state := by
      simp only [completed, onceIdle, idle, valid]
      rfl
    exact ⟨_, stays_put led (not_arrives_of_history rfl (by simp) (by simp))
      ⟨rfl, fun _ => rfl, rfl⟩⟩
  | cancelled | shown =>
    exact ⟨_, stays_put rfl (not_arrives_of_history rfl (by simp) (by simp))
      ⟨rfl, fun _ => rfl, rfl⟩⟩
  | @loaded state =>
    have loaded := engine.load_loaded state
    exact ⟨_, stays_put rfl id
      ⟨loaded.state, fun other => absurd rfl (other state), loaded.endings⟩⟩

/-- At every moment of every playthrough, an action that arrives at a node enters it once, and any
other action enters no node; nor does taking a playthrough up. -/
theorem nodes_are_entered_once_per_arrival (opening : Opening story first)
    (played : Played first events engine) {action : Action} {answer : Answer}
    (came : (engine.act action).outcome = .ok answer) :
    (∃ carried, EntersOnArrival engine action carried (engine.act action).engine) ∧
      ∀ saved playback background, (resume story saved playback background).state = saved ∧
        (resume story saved playback background).playback = playback ∧
        (resume story saved playback background).endings = [] :=
  ⟨step_enters (played_sound opening played) (act_step _ action) came,
    fun _ _ _ => ⟨rfl, rfl, rfl⟩⟩

/-- A story whose only node leads back to itself and counts its visitors. -/
def loop : Story :=
  .lone { Node.bare "loop" .dialogue with
    nextNodeId := some "loop", addVariables := some (.ofList [("visits", .int 1)]) }

/-- Coming back to the node that one has left is an arrival and counts once more. -/
theorem loop_is_entered_anew :
    (∃ carried, EntersOnArrival (begin loop .standard none).engine .advance carried
        ((begin loop .standard none).engine.act .advance).engine) ∧
      Action.advance.Arrives (begin loop .standard none).engine.state
        ((begin loop .standard none).engine.act .advance).engine.state ∧
      ((begin loop .standard none).engine.act .advance).engine.state.vars.get? "visits" =
        some (.number (.int 2)) :=
  ⟨(nodes_are_entered_once_per_arrival (.fresh rfl) .opened rfl).1, ⟨_, rfl⟩, by decide⟩

end Engine

end VisualNovel
