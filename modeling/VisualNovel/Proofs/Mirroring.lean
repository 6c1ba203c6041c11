import VisualNovel.Proofs.Arrivals

/-! Two playthroughs of which one mirrors the other: they agree in everything that a host can tell
apart, except that the mirrored one has handed out more tickets, has announced more endings, and may
remember other effects of the last arrival. Whatever is done to both of them comes to the same, and
they mirror each other again. -/
namespace VisualNovel

/-- A ticket as it is numbered when counting begins that many tickets later. -/
def Ticket.recount (offset : Nat) (ticket : Ticket) : Ticket :=
  { ticket with number := ticket.number - offset }

theorem Ticket.recount_inj {offset : Nat} {ticket other : Ticket} :
    ticket.recount offset = other.recount offset ↔ ticket = other := by
  obtain ⟨number, _, _⟩ := ticket
  obtain ⟨number', _, _⟩ := other
  simp only [recount, mk.injEq, and_congr_left_iff]
  omega

/-- An action as it is put where counting begins that many tickets later. -/
def Action.recount (offset : Nat) : Action → Action
  | .finishGrading ticket result => .finishGrading (ticket.recount offset) result
  | action => action

/-- An answer as it is given where counting begins that many tickets later. -/
def Answer.recount (offset : Nat) : Answer → Answer
  | .ticket handedOut => .ticket (handedOut.recount offset)
  | answer => answer

namespace Engine

/-- A playthrough mirrors another one, which has handed out some more tickets and has announced some
more endings. They remember the same effects if something is the case. -/
structure Mirrors (offset : Nat) (told : List Position) (same : Prop)
    (original mirror : Engine) : Prop where
  story : mirror.story = original.story
  state : mirror.state = original.state
  playback : mirror.playback = original.playback
  background : mirror.background = original.background
  entered : mirror.entered = original.entered
  pending : mirror.pending = original.pending.map (Ticket.recount offset)
  issued : original.issued = mirror.issued + offset
  endings : original.endings = told ++ mirror.endings
  effects : same → mirror.effects = original.effects

/-- The same has come of two turns, up to a change of what they are answered with. -/
structure Alike {α β : Type} (offset : Nat) (told : List Position) (same : Prop) (recount : α → β)
    (original : Turn α) (mirror : Turn β) : Prop where
  outcome : mirror.outcome = original.outcome.map recount
  mirrors : Mirrors offset told same original.engine mirror.engine

variable {α β : Type} {offset : Nat} {told : List Position} {same : Prop} {recount : α → β}
  {original mirror : Engine}

theorem refuse_alike (mirrors : Mirrors offset told same original mirror) (fault : Fault) :
    Alike offset told same recount (original.refuse fault) (mirror.refuse fault) :=
  ⟨rfl, mirrors⟩

theorem Mirrors.pending_isSome (mirrors : Mirrors offset told same original mirror) :
    mirror.pending.isSome = original.pending.isSome := by
  rw [mirrors.pending, Option.isSome_map]

theorem Mirrors.pending_iff (mirrors : Mirrors offset told same original mirror) {ticket : Ticket} :
    mirror.pending = some (ticket.recount offset) ↔ original.pending = some ticket := by
  simp [mirrors.pending, Ticket.recount_inj]

/-- Both are waiting for a grade, or neither is. -/
theorem whenIdle_alike (mirrors : Mirrors offset told same original mirror) {first : Turn α}
    {second : Turn β} (alike : Alike offset told same recount first second) :
    Alike offset told same recount (original.whenIdle first) (mirror.whenIdle second) := by
  unfold whenIdle
  rw [mirrors.pending_isSome]
  split
  · exact refuse_alike mirrors _
  · exact alike

/-- Both enter the node that they are at, or neither does. -/
theorem enter_alike (mirrors : Mirrors offset told same original mirror) :
    Alike offset told same id original.enter mirror.enter := by
  unfold enter
  rw [mirrors.state, mirrors.entered, mirrors.story, mirrors.playback, mirrors.background]
  split
  · exact ⟨rfl, mirrors⟩
  · cases original.story.currentNode original.state with
    | error fault =>
      exact ⟨rfl, rfl, rfl, rfl, rfl, rfl, mirrors.pending, mirrors.issued, mirrors.endings,
        fun _ => rfl⟩
    | ok node =>
      dsimp only
      cases Story.applyEntry node original.state with
      | error fault =>
        exact ⟨rfl, rfl, rfl, rfl, rfl, rfl, mirrors.pending, mirrors.issued, mirrors.endings,
          mirrors.effects⟩
      | ok state =>
        refine ⟨rfl, rfl, rfl, rfl, rfl, rfl, mirrors.pending, mirrors.issued, ?_, fun _ => rfl⟩
        dsimp only
        split
        · simp only [done, mirrors.endings, List.append_assoc]
        · exact mirrors.endings

theorem commit_alike (mirrors : Mirrors offset told same original mirror) (state : GameState) :
    Alike offset told same id (original.commit state) (mirror.commit state) :=
  enter_alike ⟨mirrors.story, rfl, mirrors.playback, mirrors.background, mirrors.entered,
    mirrors.pending, mirrors.issued, mirrors.endings, mirrors.effects⟩

theorem commitResult_alike (mirrors : Mirrors offset told same original mirror)
    (next : Except Fault GameState) :
    Alike offset told same id (original.commitResult next) (mirror.commitResult next) := by
  cases next with
  | ok state => exact commit_alike mirrors state
  | error fault => exact refuse_alike mirrors fault

/-- A change that keeps them mirroring each other can be added to both turns. -/
theorem Alike.andThen {first : Turn α} {second : Turn β}
    (alike : Alike offset told same recount first second) {change change' : Engine → Engine}
    (changed : ∀ original mirror, Mirrors offset told same original mirror →
      Mirrors offset told same (change original) (change' mirror)) :
    Alike offset told same recount (first.andThen change) (second.andThen change') := by
  obtain ⟨outcome, now⟩ := first
  obtain ⟨outcome', now'⟩ := second
  obtain ⟨rfl, mirrors⟩ := alike
  cases outcome with
  | ok value => exact ⟨rfl, changed _ _ mirrors⟩
  | error fault => exact ⟨rfl, mirrors⟩

theorem Alike.as {γ δ : Type} {first : Turn α} {second : Turn β}
    (alike : Alike offset told same recount first second) {value : γ} {value' : δ} {f : γ → δ}
    (values : f value = value') :
    Alike offset told same f (first.as value) (second.as value') := by
  obtain ⟨outcome, now⟩ := first
  obtain ⟨outcome', now'⟩ := second
  obtain ⟨rfl, mirrors⟩ := alike
  subst values
  cases outcome <;> exact ⟨rfl, mirrors⟩

theorem prepend_mirrors (commands : List AudioCommand)
    (mirrors : Mirrors offset told same original mirror) :
    Mirrors offset told same (prependAudio commands original) (prependAudio commands mirror) :=
  ⟨mirrors.story, mirrors.state, mirrors.playback, mirrors.background, mirrors.entered,
    mirrors.pending, mirrors.issued, mirrors.endings,
    fun holds => by simp only [prependAudio, mirrors.effects holds]⟩

theorem start_alike (mirrors : Mirrors offset told same original mirror) (name : String) :
    Alike offset told same id (original.start name) (mirror.start name) := by
  unfold start
  rw [mirrors.state, mirrors.story, mirrors.playback]
  split
  · exact refuse_alike mirrors _
  · cases original.story.startGame original.state name with
    | error fault => exact refuse_alike mirrors fault
    | ok carried =>
      dsimp only
      refine Alike.andThen (commit_alike ?_ carried) fun _ _ => prepend_mirrors _
      exact ⟨rfl, rfl, rfl, mirrors.background, mirrors.entered, mirrors.pending, mirrors.issued,
        mirrors.endings, mirrors.effects⟩

theorem choose_alike (mirrors : Mirrors offset told same original mirror) (choiceId : String) :
    Alike offset told same id (original.choose choiceId) (mirror.choose choiceId) := by
  unfold choose
  rw [mirrors.state, mirrors.story]
  refine whenIdle_alike mirrors ((commitResult_alike mirrors _).andThen fun first second met => ?_)
  simp only [met.story, met.playback]
  split
  · exact prepend_mirrors _ met
  · exact met

/-- Both hand out a ticket or both refuse; the tickets differ in where they are counted from. -/
theorem beginGrading_alike (mirrors : Mirrors offset told same original mirror) (value : String) :
    Alike offset told same (Ticket.recount offset) (original.beginGrading value)
      (mirror.beginGrading value) := by
  unfold beginGrading
  rw [mirrors.state, mirrors.story]
  refine whenIdle_alike mirrors ?_
  cases original.story.validateResponse original.state value with
  | error fault => exact refuse_alike mirrors fault
  | ok checked =>
    have ticket : Ticket.recount offset ⟨original.issued, original.state.arrival, checked.2.2⟩ =
        ⟨mirror.issued, original.state.arrival, checked.2.2⟩ := by
      simp [Ticket.recount, mirrors.issued]
    refine ⟨congrArg Except.ok ticket.symm, rfl, rfl, mirrors.playback, mirrors.background,
      mirrors.entered, congrArg some ticket.symm, ?_, mirrors.endings, mirrors.effects⟩
    simp only [mirrors.issued]
    omega

theorem cancelGrading_mirrors (mirrors : Mirrors offset told same original mirror) :
    Mirrors offset told same original.cancelGrading mirror.cancelGrading :=
  ⟨mirrors.story, mirrors.state, mirrors.playback, mirrors.background, mirrors.entered, rfl,
    mirrors.issued, mirrors.endings, mirrors.effects⟩

/-- A grade counts in both or in neither. -/
theorem finishGrading_alike (mirrors : Mirrors offset told same original mirror) (ticket : Ticket)
    (result : GradingResult) :
    Alike offset told same id (original.finishGrading ticket result)
      (mirror.finishGrading (ticket.recount offset) result) := by
  have idle := cancelGrading_mirrors mirrors
  by_cases waiting : original.pending = some ticket
  · have waiting' := mirrors.pending_iff.mpr waiting
    by_cases still : ticket.arrival = original.state.arrival
    · have still' : (ticket.recount offset).arrival = mirror.state.arrival := by
        rw [mirrors.state]
        exact still
      rw [finish_pending waiting still, finish_pending waiting' still', mirrors.story,
        mirrors.state]
      exact (commitResult_alike idle _).as rfl
    · have moved' : (ticket.recount offset).arrival ≠ mirror.state.arrival := by
        rw [mirrors.state]
        exact still
      rw [finish_moved waiting still, finish_moved waiting' moved']
      exact ⟨rfl, idle⟩
  · have stale' : mirror.pending ≠ some (ticket.recount offset) := mt mirrors.pending_iff.mp waiting
    rw [finish_stale waiting, finish_stale stale']
    exact ⟨rfl, mirrors⟩

theorem restart_alike (mirrors : Mirrors offset told same original mirror) :
    Alike offset told same id original.restart mirror.restart := by
  unfold restart
  rw [mirrors.story, mirrors.playback]
  refine Alike.andThen (enter_alike ?_) fun _ _ => prepend_mirrors _
  exact ⟨rfl, rfl, rfl, rfl, rfl, rfl, mirrors.issued, mirrors.endings, fun _ => rfl⟩

theorem load_mirrors (mirrors : Mirrors offset told same original mirror) (state : GameState) :
    Mirrors offset told same (original.load state) (mirror.load state) := by
  unfold load
  rw [mirrors.story, mirrors.playback]
  cases original.story.node? state.currentSceneId state.currentNodeId with
  | none =>
    exact ⟨rfl, rfl, rfl, mirrors.background, rfl, rfl, mirrors.issued, mirrors.endings,
      mirrors.effects⟩
  | some node =>
    exact ⟨rfl, rfl, rfl, rfl, rfl, rfl, mirrors.issued, mirrors.endings, fun _ => rfl⟩

theorem showFeedback_mirrors (mirrors : Mirrors offset told same original mirror) (visible : Bool) :
    Mirrors offset told same (original.showFeedback visible) (mirror.showFeedback visible) :=
  ⟨mirrors.story, by simp only [showFeedback, mirrors.state], mirrors.playback, mirrors.background,
    mirrors.entered, mirrors.pending, mirrors.issued, mirrors.endings, mirrors.effects⟩

/-- Whatever is done to both comes to the same, and they mirror each other again. -/
theorem act_alike (mirrors : Mirrors offset told same original mirror) (action : Action) :
    Alike offset told same (Answer.recount offset) (original.act action)
      (mirror.act (action.recount offset)) := by
  cases action with
  | start name => exact (start_alike mirrors name).as rfl
  | advance =>
    have alike := whenIdle_alike mirrors
      (commitResult_alike mirrors (original.story.acknowledge original.state))
    simp only [act, Action.recount, advance, mirrors.state, mirrors.story]
    exact alike.as rfl
  | choose choiceId => exact (choose_alike mirrors choiceId).as rfl
  | submit value =>
    have alike := whenIdle_alike mirrors
      (commitResult_alike mirrors (original.story.submitInput original.state value))
    simp only [act, Action.recount, submit, mirrors.state, mirrors.story]
    exact alike.as rfl
  | beginGrading value =>
    obtain ⟨outcome, met⟩ := beginGrading_alike mirrors value
    refine ⟨?_, met⟩
    simp only [act, Action.recount, Turn.map, outcome]
    cases (original.beginGrading value).outcome <;> rfl
  | finishGrading ticket result =>
    obtain ⟨outcome, met⟩ := finishGrading_alike mirrors ticket result
    refine ⟨?_, met⟩
    simp only [act, Action.recount, Turn.map, outcome]
    cases (original.finishGrading ticket result).outcome <;> rfl
  | cancelGrading => exact ⟨rfl, cancelGrading_mirrors mirrors⟩
  | restart => exact (restart_alike mirrors).as rfl
  | load state => exact ⟨rfl, load_mirrors mirrors state⟩
  | showFeedback visible => exact ⟨rfl, showFeedback_mirrors mirrors visible⟩

end Engine

end VisualNovel
