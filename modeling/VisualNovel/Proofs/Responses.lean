import VisualNovel.Proofs.Arrivals
import VisualNovel.Proofs.GradingProtocol
import VisualNovel.Proofs.Refusals

/-! What a response leaves behind. Once its ticket has been handed out the model is asked, and while
it thinks anything may be done to the playthrough. However that ends, the ticket is not pending any
more, neither then nor later; the tickets of others are left alone, and a grade counts only if its
ticket is still pending. There is one gap: a situation that cannot be written out stops the response
when its ticket has been handed out already, and nobody gives that ticket back. -/
namespace VisualNovel

theorem Awaited.later {during : List Event} {asking : Event} {ticket : Ticket}
    (awaited : Awaited during asking ticket) (earlier : List Event) :
    Awaited (earlier ++ during) asking ticket := by
  obtain ⟨handedOut, before, after, rfl, lasting⟩ := awaited
  exact ⟨handedOut, earlier ++ before, after, (List.append_assoc ..).symm, lasting⟩

namespace Engine

/-- What comes of closing a response, which has been opened with this ticket before these events. -/
structure ClosesCleanly (during : List Event) (now : Engine) (ticket : Ticket)
    (outcome : Except GradingFailure GradingResult)
    (told : Except ResponseFault GradingResult × Engine) : Prop where
  givenBack : told.2.pending ≠ some ticket
  /-- No grade is taken in for the ticket later on. -/
  spent : ∀ events later result, Played told.2 events later →
    later.finishGrading ticket result = ⟨.ok false, later⟩
  /-- Whichever ticket has been handed out since and is awaited is still pending. -/
  others : ∀ asking other, Awaited during asking other → told.2.pending = some other
  ungraded : ∀ why, outcome = .error why →
    told.1 = .error (.ungraded why) ∧ told.2.state = now.state
  discarded : ∀ result, outcome = .ok result → now.pending ≠ some ticket →
    told = (.ok result, now)
  /-- A grade that is taken in leads on like any other; at most a sum beyond the range stops it. -/
  applied : ∀ result, outcome = .ok result → now.pending = some ticket →
    told.1 = .error (.refused .overflow) ∨
      told.1 = .ok result ∧ ∃ carried,
        now.story.applyGrading now.state ticket.userInput result = .ok carried ∧
          EntersOnArrival now (.finishGrading ticket result) carried told.2

/-- What comes of a whole response that has been opened: it is turned down, or it is closed cleanly
after some events. -/
inductive ComesToAnEnd (opened : Turn (Ticket × Grading)) :
    Except ResponseFault GradingResult × Engine → Prop
  | turnedDown {fault : Fault} (stopped : opened.outcome = .error fault) :
      ComesToAnEnd opened (.error (.refused fault), opened.engine)
  | closed {ticket : Ticket} {grading : Grading} {during : List Event} {now : Engine}
      {outcome : Except GradingFailure GradingResult}
      (came : opened.outcome = .ok (ticket, grading)) (onward : Played opened.engine during now)
      (clean : ClosesCleanly during now ticket outcome (now.closeResponse ticket outcome)) :
      ComesToAnEnd opened (now.closeResponse ticket outcome)

/-- A model that does nothing to the playthrough but by actions. -/
def ActsOnly {Model : Type} (reply : String → Engine × Model → Reply × (Engine × Model)) : Prop :=
  ∀ prompt world, ∃ during, Played world.1 during (reply prompt world).2.1

variable {story : Story} {engine first now later : Engine} {events during more : List Event}
  {ticket other : Ticket} {asking : Event} {outcome : Except GradingFailure GradingResult}
  {result : GradingResult}

theorem Played.append (played : Played first events engine) (onward : Played engine more later) :
    Played first (events ++ more) later := by
  induction onward with
  | opened => simpa using played
  | acted _ action ih =>
    rw [← List.append_assoc]
    exact ih.acted action

/-- A ticket that has been handed out and is not pending is never pending again. -/
theorem stays_spent (opening : Opening story first) (played : Played first events engine)
    (among : asking ∈ events) (handedOut : asking.HandsOut ticket)
    (spent : engine.pending ≠ some ticket) (onward : Played engine more later) :
    later.pending ≠ some ticket := by
  induction onward with
  | opened => exact spent
  | @acted more between onward action spent =>
    have whole := played.append onward
    have step := act_step between action
    rw [ne_eq, step_pending (played_sound opening whole) step]
    rintro (again | ⟨waiting, _⟩)
    · -- A new ticket has a number that none has had before.
      have before := handed_out_below whole (List.mem_append_left more among) handedOut
      have number := (step_hands_out step again).1.1
      omega
    · exact spent waiting

/-- Closing a response comes to an action, or leaves the playthrough as it is. -/
theorem closeResponse_played (now : Engine) (ticket : Ticket)
    (outcome : Except GradingFailure GradingResult) :
    ∃ closing, Played now closing (now.closeResponse ticket outcome).2 := by
  cases outcome with
  | error why =>
    simp only [closeResponse, withdraw]
    split
    · exact ⟨_, Played.acted .opened .cancelGrading⟩
    · exact ⟨[], .opened⟩
  | ok result => exact ⟨_, Played.acted .opened (.finishGrading ticket result)⟩

/-- The ticket of a response that has been closed is not pending. -/
theorem closeResponse_pending (sound : Sound story now)
    (outcome : Except GradingFailure GradingResult) :
    (now.closeResponse ticket outcome).2.pending ≠ some ticket := by
  cases outcome with
  | error why =>
    simp only [closeResponse, withdraw]
    split
    · simp [cancelGrading]
    · assumption
  | ok result =>
    have step := act_step now (.finishGrading ticket result)
    have same : (now.act (.finishGrading ticket result)).engine =
        (now.closeResponse ticket (.ok result)).2 := rfl
    rw [← same, ne_eq, step_pending sound step]
    rintro (handedOut | ⟨_, lasting⟩)
    · obtain ⟨_, _, _, value, asked, _⟩ := step_hands_out step handedOut
      cases asked
    · exact lasting rfl

/-- Other tickets are left alone. -/
theorem closeResponse_other (waiting : now.pending = some other) (apart : other ≠ ticket)
    (outcome : Except GradingFailure GradingResult) :
    (now.closeResponse ticket outcome).2.pending = some other := by
  have stale : now.pending ≠ some ticket := by
    rw [waiting]
    exact fun same => apart (Option.some.inj same)
  cases outcome with
  | error why => simpa only [closeResponse, withdraw, if_neg stale] using waiting
  | ok result => simpa only [closeResponse, finish_stale stale] using waiting

/-- A grade for the pending ticket is folded into the state, and then a node may be entered. -/
theorem closeResponse_applied (sound : Sound story now) (waiting : now.pending = some ticket) :
    (now.closeResponse ticket (.ok result)).1 = .error (.refused .overflow) ∨
      (now.closeResponse ticket (.ok result)).1 = .ok result ∧ ∃ carried,
        now.story.applyGrading now.state ticket.userInput result = .ok carried ∧
          EntersOnArrival now (.finishGrading ticket result) carried
            (now.closeResponse ticket (.ok result)).2 := by
  have awaits := sound.awaits ticket waiting
  rcases finish_counts waiting awaits result with counted | overflow
  · have came : (now.act (.finishGrading ticket result)).outcome = .ok (.verdict true) := by
      simp only [act, Turn.map, counted]
      rfl
    obtain ⟨carried, enters⟩ := step_enters sound (act_step now (.finishGrading ticket result)) came
    have taken : now.story.applyGrading now.state ticket.userInput result = .ok carried :=
      (if_pos ⟨waiting, awaits.still⟩).symm.trans enters.led
    refine .inr ⟨?_, carried, taken, enters⟩
    simp only [closeResponse, counted]
    rfl
  · left
    simp only [closeResponse, overflow]
    rfl

/-- Handing out the ticket of a response is an action like any other. -/
theorem act_asking {value userInput : String} {node : Node} {config : GradedConfig}
    (idle : engine.pending = none)
    (valid : engine.story.validateResponse engine.state value = .ok (node, config, userInput)) :
    engine.act (.beginGrading value) =
      ⟨.ok (.ticket (engine.nextTicket userInput)), engine.asking userInput⟩ := by
  simp only [act, beginGrading_eq, onceIdle_eq_ok.mpr ⟨idle, valid⟩]
  rfl

/-- Whatever has been done since a ticket was handed out, its response is closed cleanly. -/
theorem closes_cleanly (opening : Opening story first) (played : Played first events engine)
    (among : asking ∈ events) (handedOut : asking.HandsOut ticket)
    (onward : Played engine during now) (outcome : Except GradingFailure GradingResult) :
    ClosesCleanly during now ticket outcome (now.closeResponse ticket outcome) := by
  have whole := played.append onward
  have sound := played_sound opening whole
  have givenBack : (now.closeResponse ticket outcome).2.pending ≠ some ticket :=
    closeResponse_pending sound outcome
  constructor
  case givenBack => exact givenBack
  case spent =>
    intro later events' result after
    obtain ⟨closing, closed⟩ := closeResponse_played now ticket outcome
    have earlier : asking ∈ events ++ during ++ closing :=
      List.mem_append_left closing (List.mem_append_left during among)
    exact finish_stale (stays_spent opening (whole.append closed) earlier handedOut givenBack after)
  case others =>
    intro asking' other awaited
    have waiting : now.pending = some other :=
      (played_pending opening whole).mpr ⟨asking', awaited.later events⟩
    refine closeResponse_other waiting ?_ outcome
    rintro rfl
    obtain ⟨again, before, after, rfl, _⟩ := awaited
    have once := (List.pairwise_append.mp (handed_out_once whole)).2.2
    exact once asking among asking' (by simp) other handedOut again
  case ungraded =>
    rintro why rfl
    refine ⟨rfl, ?_⟩
    simp only [closeResponse, withdraw]
    split <;> rfl
  case discarded =>
    rintro result rfl stale
    simp only [closeResponse, finish_stale stale]
    rfl
  case applied =>
    rintro result rfl waiting
    exact closeResponse_applied sound waiting

/-- A response that has been opened is closed cleanly whatever is done until then. -/
theorem opened_closes_cleanly (opening : Opening story first)
    (played : Played first events engine) {grader : Grader} {value : String} {grading : Grading}
    (came : (engine.openResponse grader value).outcome = .ok (ticket, grading))
    (onward : Played (engine.openResponse grader value).engine during now)
    (outcome : Except GradingFailure GradingResult) :
    ClosesCleanly during now ticket outcome (now.closeResponse ticket outcome) := by
  have opens := engine.openResponse_opens grader value
  generalize engine.openResponse grader value = opened at opens came onward
  cases opens with
  | refused | unwritable => cases came
  | asked idle valid =>
    cases came
    have acted := act_asking idle valid
    have after : Played first (events ++ [⟨engine, .beginGrading value⟩])
        (engine.act (.beginGrading value)).engine := played.acted _
    rw [acted] at after
    have handedOut : Event.HandsOut ⟨engine, .beginGrading value⟩ (engine.nextTicket _) :=
      congrArg Turn.outcome acted
    exact closes_cleanly opening after (by simp) handedOut onward outcome

/-- A whole response is one that has been opened, and then closed after some actions of the
model. -/
theorem respond_comes_to_an_end {Model : Type}
    {reply : String → Engine × Model → Reply × (Engine × Model)} (opening : Opening story first)
    (played : Played first events engine) (acts : ActsOnly reply) (grader : Grader) (value : String)
    (model : Model) :
    ComesToAnEnd (engine.openResponse grader value)
      ((engine.respond grader value reply model).1,
        (engine.respond grader value reply model).2.1) := by
  generalize came : engine.openResponse grader value = turn
  obtain ⟨outcome, opened⟩ := turn
  rw [respond, came]
  cases outcome with
  | error fault => exact .turnedDown rfl
  | ok asked =>
    obtain ⟨ticket, grading⟩ := asked
    -- Whenever the model is asked, it takes the playthrough a few actions further.
    have later : ∀ prompt world, (∃ during, Played opened during world.1) →
        ∃ during, Played opened during (reply prompt world).2.1 := by
      rintro prompt world ⟨_, before⟩
      obtain ⟨_, onward⟩ := acts prompt world
      exact ⟨_, before.append onward⟩
    obtain ⟨during, onward⟩ := grading.run_keeps reply
      (fun world => ∃ during, Played opened during world.1) later (opened, model) ⟨[], .opened⟩
    refine .closed rfl onward ?_
    exact opened_closes_cleanly opening played (congrArg Turn.outcome came)
      (by rw [came]; exact onward) _

/-- An essay on the rain that is being graded, is given up, and makes way for one on the snow. -/
def rainHandedIn : Engine := essay.asking "rain"

def rainGivenUp : Engine := (rainHandedIn.act .cancelGrading).engine

def snowHandedIn : Engine := (rainGivenUp.act (.beginGrading "snow")).engine

/-- A ledger with a sum that grows by one digit on arrival and then is too long to be written out,
and is to be judged by that sum. -/
def ledger : Story :=
  { Story.lone
      { Node.bare "ledger" (.graded
          ⟨"entry", "reply", "mood", "verdict", [], "\x7bsum\x7d", "", 1, 99, none⟩) with
        addVariables := some (.ofList [("sum", .int 1)]) } with
    vars := .ofList [("sum", .number (.int (Int.ofNat (Nat.pow 10 4300 - 1))))] }

def bookkeeper : Engine := (begin ledger .standard none).engine

end Engine

end VisualNovel
