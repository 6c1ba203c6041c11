import VisualNovel.Proofs.Runs

/-! Which grades count. A grade is taken in exactly if its request is awaited: the request came out
of the last request that was let through, and nothing since then has used it up or given it up.
Being awaited is told from the events alone, so it does not matter in which order requests, grades
and the other actions come. -/
namespace VisualNovel

/-- A ticket is handed out. -/
def Turn.HandsOut (turn : Turn Answer) (ticket : Ticket) : Prop :=
  turn.outcome = .ok (.ticket ticket)

/-- Once an action has come to this, a ticket is no longer waited for. -/
def Action.Ends (turn : Turn Answer) (ticket : Ticket) : Action → Prop
  | .beginGrading _ => ∃ next, turn.HandsOut next
  | .finishGrading handedIn _ => handedIn = ticket
  | .cancelGrading | .restart | .load _ => True
  | .start _ | .advance | .choose _ | .submit _ | .showFeedback _ => False

namespace Event

/-- An event hands a ticket out. -/
def HandsOut (event : Event) (ticket : Ticket) : Prop := event.turn.HandsOut ticket

/-- After an event a ticket is no longer waited for. -/
def Ends (event : Event) (ticket : Ticket) : Prop := event.action.Ends event.turn ticket

end Event

/-- A ticket has come out of one of the events, and none of the later events has ended it. -/
def Awaited (events : List Event) (asking : Event) (ticket : Ticket) : Prop :=
  asking.HandsOut ticket ∧ ∃ earlier later, events = earlier ++ asking :: later ∧
    ∀ event ∈ later, ¬event.Ends ticket

/-- What comes of handing in a grade, and of everything else that is tried while a grade is awaited,
told from the events so far. -/
structure GradingProtocol (events : List Event) (engine : Engine) : Prop where
  /-- The pending ticket is the one that is awaited. -/
  waits : ∀ ticket, engine.pending = some ticket ↔ ∃ asking, Awaited events asking ticket
  /-- A grade counts if its ticket is awaited; at most a sum beyond the range can stop it. -/
  counts : ∀ asking ticket result, Awaited events asking ticket →
    (engine.finishGrading ticket result).outcome = .ok true ∨
      (engine.finishGrading ticket result).outcome = .error .overflow
  /-- Any other grade is discarded, and nothing changes. -/
  discards : ∀ ticket result, (∀ asking, ¬Awaited events asking ticket) →
    engine.finishGrading ticket result = ⟨.ok false, engine⟩
  /-- A grade that counts is taken into the state, and the next node may change variables. -/
  applies : ∀ ticket result, (engine.finishGrading ticket result).outcome = .ok true →
    ∃ carried vars, engine.story.applyGrading engine.state ticket.userInput result = .ok carried ∧
      (engine.finishGrading ticket result).engine.state = { carried with vars }
  /-- A grade that counts leaves one entry in the feedback log. -/
  logs : ∀ ticket result, (engine.finishGrading ticket result).outcome = .ok true →
    ∃ entry, (engine.finishGrading ticket result).engine.state.feedback =
        engine.state.feedback ++ [entry] ∧
      entry.sceneId = ticket.arrival.sceneId ∧ entry.nodeId = ticket.arrival.nodeId ∧
      entry.userInput = ticket.userInput ∧ entry.evaluation = result.evaluation ∧
      entry.rating = result.rating
  /-- A ticket says where it was asked for, and carries the response without white space around. -/
  carries : ∀ asking ticket, Awaited events asking ticket →
    ticket.arrival = asking.before.state.arrival ∧ ∃ value, asking.action = .beginGrading value ∧
      ticket.userInput = String.ofList (Text.trimChars value.toList)
  /-- While a ticket is awaited, the state is the one for which it was asked. -/
  frozen : ∀ asking ticket, Awaited events asking ticket →
    ∃ visible, engine.state = { asking.before.state with showFeedbackScreen := visible }
  /-- While a ticket is awaited, the player cannot go on. -/
  blocks : ∀ asking ticket, Awaited events asking ticket → ∀ action, action.GoesOn →
    ∃ fault, fault.isRefusal = true ∧ engine.act action = engine.refuse fault
  /-- No ticket is handed out twice. -/
  distinct : events.Pairwise fun earlier later =>
    ∀ ticket, earlier.HandsOut ticket → ¬later.HandsOut ticket
  /-- The player is still where the pending ticket was asked for. -/
  still : ∀ ticket, engine.pending = some ticket → ticket.arrival = engine.state.arrival

namespace Engine

variable {story : Story} {engine first : Engine} {events : List Event} {ticket : Ticket}

/-- A state that is put in place while a ticket is pending uses the ticket up. -/
private theorem completed_ends {action : Action} {carried : GameState} (turn : Turn Answer)
    (sound : Sound story engine) (completes : engine.Completes action)
    (led : engine.completed action = .ok carried) (waiting : engine.pending = some ticket) :
    action.Ends turn ticket := by
  have idle := completed_idle sound completes led
  cases action with
  | start | advance | choose | submit => cases waiting.symm.trans idle
  | finishGrading handedIn result => exact Option.some.inj (completes.1.symm.trans waiting)
  | restart => trivial
  | beginGrading | cancelGrading | load | showFeedback => exact completes.elim

/-- What is turned down ends no ticket. -/
private theorem refused_ends_nothing {action : Action} {fault : Fault}
    (other : ∀ ticket result, action ≠ .finishGrading ticket result)
    (why : engine.completed action = .error fault) : ¬action.Ends (engine.refuse fault) ticket := by
  cases action with
  | start | advance | choose | submit | showFeedback => exact id
  | beginGrading => rintro ⟨_, handedOut⟩; cases handedOut
  | finishGrading handedIn result => exact absurd rfl (other handedIn result)
  | cancelGrading | restart | load => cases why

/-- After an action the pending ticket is the one that has been handed out, or else the one that was
pending unless the action has ended that. -/
theorem step_pending {action : Action} {turn : Turn Answer} (sound : Sound story engine)
    (step : Step engine action turn) :
    turn.engine.pending = some ticket ↔
      turn.HandsOut ticket ∨ engine.pending = some ticket ∧ ¬action.Ends turn ticket := by
  cases step with
  | refused other why =>
    simp only [refuse, Turn.HandsOut, reduceCtorEq, false_or]
    exact ⟨fun waiting => ⟨waiting, refused_ends_nothing other why⟩, And.left⟩
  | completed completes led entry =>
    rename_i carried entering
    have follows := andThen_prepend_follows (engine.cue action) (entry_follows entry)
    have idle := completed_idle sound completes led
    have silent : action.answer ≠ .ticket ticket := by cases action <;> simp [Action.answer]
    rw [Turn.as_engine, follows.pending]
    simp only [idle, Turn.HandsOut, Turn.as_outcome_ok, silent, and_false, false_or, reduceCtorEq,
      false_iff, not_and, Classical.not_not]
    exact completed_ends _ sound completes led
  | ungraded waiting | movedOn waiting =>
    simp [cancelGrading, Turn.HandsOut, Action.Ends, waiting]
  | discarded stale =>
    simp only [Turn.HandsOut, Action.Ends, Except.ok.injEq, reduceCtorEq, false_or]
    exact ⟨fun waiting => ⟨waiting, fun same => stale (same ▸ waiting)⟩, And.left⟩
  | handedOut idle valid => simp [asking, Turn.HandsOut, idle]
  | cancelled => simp [cancelGrading, Turn.HandsOut, Action.Ends]
  | loaded => simp [(engine.load_loaded _).pending, Turn.HandsOut, Action.Ends]
  | shown => simp [showFeedback, Turn.HandsOut, Action.Ends]

/-- While a ticket stays pending, at most the feedback screen comes and goes. -/
theorem step_frozen {action : Action} {turn : Turn Answer} (sound : Sound story engine)
    (step : Step engine action turn) (waiting : engine.pending = some ticket)
    (lasting : ¬action.Ends turn ticket) :
    ∃ visible, turn.engine.state = { engine.state with showFeedbackScreen := visible } := by
  cases step with
  | refused | discarded | ungraded | movedOn | cancelled | handedOut => exact ⟨_, rfl⟩
  | completed completes led => exact absurd (completed_ends _ sound completes led waiting) lasting
  | loaded => exact absurd trivial lasting
  | shown => exact ⟨_, rfl⟩

/-- A ticket that is handed out is numbered anew and says where the player is and what was entered;
nothing else changes. -/
theorem step_hands_out {action : Action} {turn : Turn Answer} (step : Step engine action turn)
    (handedOut : turn.HandsOut ticket) :
    (ticket.number = engine.issued ∧ turn.engine.issued = engine.issued + 1) ∧
      ticket.arrival = engine.state.arrival ∧ turn.engine.state = engine.state ∧
        ∃ value, action = .beginGrading value ∧
          ticket.userInput = String.ofList (Text.trimChars value.toList) := by
  cases step with
  | completed completes led entry =>
    have silent : action.answer ≠ .ticket ticket := by cases action <;> simp [Action.answer]
    exact absurd (Turn.as_outcome_ok .. |>.mp handedOut).2 silent
  | handedOut idle valid =>
    cases handedOut
    obtain ⟨_, _, _, checked⟩ := Story.validateResponse_eq_ok.mp valid
    exact ⟨⟨rfl, rfl⟩, rfl, rfl, _, rfl, TextRule.check_trims checked⟩
  | refused | ungraded | movedOn | discarded | cancelled | loaded | shown => cases handedOut

/-- After one more event a ticket is awaited if that event has handed it out, or else if it was
awaited before and that event has not ended it. -/
theorem awaited_snoc {asking last : Event} :
    Awaited (events ++ [last]) asking ticket ↔
      asking = last ∧ last.HandsOut ticket ∨
        Awaited events asking ticket ∧ ¬last.Ends ticket := by
  constructor
  · rintro ⟨handedOut, earlier, later, split, lasting⟩
    rcases snoc_eq_append_cons split with ⟨rfl, rfl, rfl⟩ | ⟨between, rfl, rfl⟩
    · exact .inl ⟨rfl, handedOut⟩
    · exact .inr ⟨⟨handedOut, earlier, between, rfl,
        fun event among => lasting event (List.mem_append_left _ among)⟩, lasting last (by simp)⟩
  · rintro (⟨rfl, handedOut⟩ | ⟨⟨handedOut, earlier, later, rfl, lasting⟩, notEnded⟩)
    · exact ⟨handedOut, events, [], rfl, fun _ among => nomatch among⟩
    · refine ⟨handedOut, earlier, later ++ [last], by simp, fun event among => ?_⟩
      rcases List.mem_append.mp among with old | new
      · exact lasting event old
      · exact List.mem_singleton.mp new ▸ notEnded

theorem not_awaited_at_first {asking : Event} : ¬Awaited [] asking ticket := by
  rintro ⟨_, earlier, later, split, _⟩
  cases earlier <;> cases split

/-- The pending ticket is the one that is awaited. -/
theorem played_pending (opening : Opening story first) (played : Played first events engine) :
    engine.pending = some ticket ↔ ∃ asking, Awaited events asking ticket := by
  induction played with
  | opened =>
    have none_pending : first.pending = none := by
      cases opening with
      | resumed => rfl
      | fresh => exact (entry_follows (enter_entry (initial story _ _))).pending
    simp [none_pending, not_awaited_at_first]
  | acted played action awaited =>
    rw [step_pending (played_sound opening played) (act_step _ action), awaited]
    simp only [awaited_snoc, exists_or, exists_eq_left, exists_and_right]
    rfl

/-- An awaited ticket has been asked for where the player still is. -/
theorem awaited_frozen {asking : Event} (opening : Opening story first)
    (played : Played first events engine) (awaited : Awaited events asking ticket) :
    ∃ visible, engine.state = { asking.before.state with showFeedbackScreen := visible } := by
  induction played with
  | opened => exact absurd awaited not_awaited_at_first
  | @acted events engine played action frozen =>
    have step := act_step engine action
    rcases awaited_snoc.mp awaited with ⟨rfl, handedOut⟩ | ⟨awaited, lasting⟩
    · exact ⟨_, (step_hands_out step handedOut).2.2.1⟩
    · obtain ⟨visible, before⟩ := frozen awaited
      have waiting := (played_pending opening played).mpr ⟨asking, awaited⟩
      obtain ⟨shown, after⟩ := step_frozen (played_sound opening played) step waiting lasting
      exact ⟨shown, by rw [after, before]⟩

theorem step_issued {action : Action} {turn : Turn Answer} (step : Step engine action turn) :
    engine.issued ≤ turn.engine.issued := by
  cases step with
  | completed completes led entry =>
    have follows := andThen_prepend_follows (engine.cue action) (entry_follows entry)
    rw [Turn.as_engine, follows.issued]
    simp
  | loaded => exact Nat.le_of_eq (engine.load_loaded _).issued.symm
  | handedOut => exact Nat.le_succ _
  | refused | ungraded | movedOn | discarded | cancelled | shown => exact Nat.le_refl _

/-- The tickets that have been handed out are numbered below the next one. -/
theorem handed_out_below (played : Played first events engine) {event : Event}
    (among : event ∈ events) (handedOut : event.HandsOut ticket) :
    ticket.number < engine.issued := by
  induction played with
  | opened => cases among
  | @acted events engine played action below =>
    have step := act_step engine action
    rcases List.mem_append.mp among with old | new
    · exact Int.lt_of_lt_of_le (below old) (Int.ofNat_le.mpr (step_issued step))
    · cases List.mem_singleton.mp new
      obtain ⟨⟨number, issued⟩, _⟩ := step_hands_out step handedOut
      rw [number, issued]
      omega

theorem handed_out_once (played : Played first events engine) :
    events.Pairwise fun earlier later =>
      ∀ ticket, earlier.HandsOut ticket → ¬later.HandsOut ticket := by
  induction played with
  | opened => exact .nil
  | acted played action once =>
    refine List.pairwise_append.mpr ⟨once, List.pairwise_singleton _ _, ?_⟩
    intro event among last new ticket handedOut again
    cases List.mem_singleton.mp new
    have number := (step_hands_out (act_step _ action) again).1.1
    exact Int.ne_of_lt (handed_out_below played among handedOut) number

/-- A grade that counts is taken into the state of the node that asked for it. -/
theorem finish_applies (sound : Sound story engine) {result : GradingResult}
    (counted : (engine.finishGrading ticket result).outcome = .ok true) :
    engine.pending = some ticket ∧ ∃ carried vars,
      engine.story.applyGrading engine.state ticket.userInput result = .ok carried ∧
        (engine.finishGrading ticket result).engine.state = { carried with vars } := by
  have waiting : engine.pending = some ticket := by
    refine Classical.byContradiction fun stale => ?_
    rw [finish_stale stale] at counted
    cases counted
  rw [finish_pending waiting (sound.awaits ticket waiting).still] at counted ⊢
  cases taken : engine.story.applyGrading engine.state ticket.userInput result with
  | error fault =>
    rw [taken] at counted
    cases counted
  | ok carried =>
    obtain ⟨vars, entered⟩ := (entry_follows
      (enter_entry { engine.cancelGrading with state := carried })).state
    exact ⟨waiting, carried, vars, rfl, entered⟩

/-- A grade that counts adds one entry to the feedback log, for the node that asked for it. -/
theorem finish_logs (sound : Sound story engine) {result : GradingResult}
    (counted : (engine.finishGrading ticket result).outcome = .ok true) :
    ∃ entry, (engine.finishGrading ticket result).engine.state.feedback =
        engine.state.feedback ++ [entry] ∧
      entry.sceneId = ticket.arrival.sceneId ∧ entry.nodeId = ticket.arrival.nodeId ∧
      entry.userInput = ticket.userInput ∧ entry.evaluation = result.evaluation ∧
      entry.rating = result.rating := by
  obtain ⟨waiting, carried, vars, taken, state⟩ := finish_applies sound counted
  obtain ⟨node, found, config, _, graded, _, rfl⟩ := Story.applyGrading_eq_ok.mp taken
  have still := (sound.awaits ticket waiting).still
  refine ⟨Story.feedbackOn node engine.state ticket.userInput result, ?_, ?_, ?_, rfl, rfl, rfl⟩
  · rw [state]
    exact GameState.navigate_feedback ..
  · rw [still]
    rfl
  · rw [still]
    exact Story.found_node_id found

/-- While a ticket is pending, whatever would go on is turned down. -/
theorem pending_blocks (sound : Sound story engine) (waiting : engine.pending = some ticket)
    {action : Action} (goesOn : action.GoesOn) :
    ∃ fault, fault.isRefusal = true ∧ engine.act action = engine.refuse fault := by
  have busy : engine.pending.isSome = true := by rw [waiting]; rfl
  cases action with
  | start name =>
    refine ⟨.inapplicable .alreadyStarted, rfl, ?_⟩
    simp only [act, start, (sound.awaits ticket waiting).started, ↓reduceIte]
    rfl
  | advance | choose | submit | beginGrading =>
    refine ⟨.gradingInProgress, rfl, ?_⟩
    simp only [act, advance, choose, submit, beginGrading, whenIdle, busy, ↓reduceIte]
    rfl
  | finishGrading | cancelGrading | restart | load | showFeedback => exact goesOn.elim

/-- A story that asks for a single essay. -/
def essay : Engine :=
  (begin (.lone (.bare "essay"
    (.graded ⟨"essay", "reply", "mood", "verdict", [], "", "", 1, 99, none⟩))) .standard none).engine

end Engine

end VisualNovel
