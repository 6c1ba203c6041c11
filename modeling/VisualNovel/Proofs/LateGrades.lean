import VisualNovel.Proofs.Scripts
import VisualNovel.Proofs.WriteThrough

/-! What comes of requests that are dealt with while responses are being graded. Between the two
halves of a response anything can happen to its playthrough: it can be gone on with, and another one
can take its place. A response that is closed in the current playthrough of its story is like any
other request, and one that was not graded leaves nothing behind. But a grade that comes when
another playthrough is the current one is still written to the record of the story. -/
namespace VisualNovel

open Backend

/-- What a grading can come to, depending on how its prompts are answered. -/
inductive Grading.Gives : Grading → Except GradingFailure GradingResult → Prop
  | done (outcome : Except GradingFailure GradingResult) : Gives (.done outcome) outcome
  | ask (prompt : String) {next : Reply → Grading} {reply : Reply}
      {outcome : Except GradingFailure GradingResult} (rest : Gives (next reply) outcome) :
      Gives (.ask prompt next) outcome

/-- What it comes to by the answers of a model is among it. -/
theorem Grading.gives_run {Model : Type} (reply : String → Model → Reply × Model)
    (grading : Grading) : ∀ model, grading.Gives (grading.run reply model).1 := by
  induction grading with
  | done outcome => exact fun _ => .done outcome
  | ask prompt next ih => exact fun model => .ask prompt (ih (reply prompt model).1 _)

/-- A backend, and the responses that are being graded with the slugs of their stories. -/
structure Desk where
  backend : Backend
  waiting : List (String × InFlight)

/-- What can happen next: a whole request, or one of the two halves of a response. -/
inductive Move where
  | request (call : Call) (answer : Except Mishap HttpAnswer)
  | opening (slug value : String) (outcome : Except Stop InFlight)
  | closing (slug : String) (inFlight : InFlight) (grade : Except GradingFailure GradingResult)
      (outcome : Except Stop Json)

namespace Move

/-- Responses come in over the network, so their slugs are plain like those of other requests. -/
def IsPlain : Move → Prop
  | request _ _ => True
  | opening slug _ _ | closing slug _ _ _ => VisualNovel.IsPlain slug

/-- Whether a move has ended in nothing that nobody is prepared for. -/
def Answered : Move → Prop
  | request _ answer => ∃ given, answer = .ok given
  | opening _ _ outcome => ¬ Breaks outcome
  | closing _ _ _ outcome => ¬ Breaks outcome

/-- Whether a new playthrough of a story may come of a move. -/
def Begins (slug : String) : Move → Prop
  | request call answer => (Visit.request call answer).Begins slug
  | opening _ _ _ | closing _ _ _ _ => False

/-- Whether a story has been uploaded or deleted. -/
def Replaces (slug : String) : Move → Prop
  | request call answer => (Visit.request call answer).Replaces slug
  | opening _ _ _ | closing _ _ _ _ => False

/-- Whether a move is no grade that comes when another playthrough of a story is the current one, or
none is. -/
def IsTimely (slug : String) (backend : Backend) : Move → Prop
  | closing other inFlight (.ok _) _ =>
    other = slug → backend.sessions.get? slug = some inFlight.number
  | request _ _ | opening _ _ _ | closing _ _ (.error _) _ => True

/-- What a move may do to the standing of a story. -/
def Allows (move : Move) (slug : String) : Deed → Prop
  | .takeUp | .play | .wait | .upload | .remove => True
  | .begin => move.Begins slug
  | .leave _ => ¬ move.Answered

end Move

/-- A move is made. Only a response that has been opened can be closed, and only once. -/
inductive Moved (before : Desk) : Move → Desk → Prop
  | requested {call : Call} {answer : Except Mishap HttpAnswer} {after : Backend}
      (visited : Visited before.backend (.request call answer) after) :
      Moved before (.request call answer) { before with backend := after }
  | opened {slug value : String} {inFlight : InFlight} {after : Backend}
      (came : (openResponse slug value).run.run before.backend = (.ok inFlight, after)) :
      Moved before (.opening slug value (.ok inFlight))
        ⟨after, before.waiting ++ [(slug, inFlight)]⟩
  | refused {slug value : String} {why : Stop} {after : Backend}
      (came : (openResponse slug value).run.run before.backend = (.error why, after)) :
      Moved before (.opening slug value (.error why)) { before with backend := after }
  | closed {slug : String} {inFlight : InFlight} {earlier later : List (String × InFlight)}
      {grade : Except GradingFailure GradingResult} {outcome : Except Stop Json} {after : Backend}
      (waiting : before.waiting = earlier ++ (slug, inFlight) :: later)
      (graded : inFlight.grading.Gives grade)
      (came : (closeResponse slug inFlight grade).run.run before.backend = (outcome, after)) :
      Moved before (.closing slug inFlight grade outcome) ⟨after, earlier ++ later⟩

/-- Moves that may be made, one after the other from the start of a backend. -/
inductive Interleaving (may : Backend → Move → Prop) (first : Backend) : List Move → Desk → Prop
  | none : Interleaving may first [] ⟨first, []⟩
  | next {moves : List Move} {move : Move} {before after : Desk}
      (earlier : Interleaving may first moves before) (moved : Moved before move after)
      (allowed : may before.backend move) : Interleaving may first (moves ++ [move]) after

namespace Backend

variable {first : Backend} {before after : Desk} {move : Move} {moves : List Move} {slug : String}

/-- A desk in order: the playthrough of a response is there, and current for no other story. -/
structure Attended (desk : Desk) : Prop where
  ordered : Ordered desk.backend
  there : ∀ slug inFlight, (slug, inFlight) ∈ desk.waiting →
    inFlight.number < desk.backend.live.length
  own : ∀ slug inFlight, (slug, inFlight) ∈ desk.waiting →
    ∀ other, desk.backend.sessions.get? other = some inFlight.number → other = slug

/-- Responses that wait go on waiting in order. -/
theorem Attended.later {waiting : List (String × InFlight)} {later : Backend}
    (attended : Attended before) (comes : Later before.backend later)
    (fewer : ∀ entry ∈ waiting, entry ∈ before.waiting) : Attended ⟨later, waiting⟩ where
  ordered := comes.ordered
  there slug inFlight among :=
    Nat.lt_of_lt_of_le (attended.there slug inFlight (fewer _ among)) comes.more
  own slug inFlight among other holds := by
    have among := fewer _ among
    rcases comes.new other inFlight.number holds with held | new
    · exact attended.own slug inFlight among other held
    · exact absurd (attended.there slug inFlight among) (Nat.not_lt.mpr new)

/-- What closing a response leaves of a backend: its playthrough may have been changed, and that may
have been written. -/
inductive Closed (slug : String) (number : Nat) (backend : Backend) : Backend → Prop
  | nothing : Closed slug number backend backend
  | changed (live : Live) : Closed slug number backend (backend.placed number live)
  | written {engine : Engine} {storage : Storage} (bound : number < backend.live.length)
      (saved : backend.storage.savePlaythrough slug (recordOf engine) = .ok storage) :
      Closed slug number backend { backend.placed number ⟨engine, true⟩ with storage }

section

variable {backend later : Backend} {inFlight : InFlight} {number : Nat}
  {grade : Except GradingFailure GradingResult} {outcome : Except Stop Json}

theorem later_closed (closed : Closed slug number backend later) (ordered : Ordered backend) :
    Later backend later := by
  cases closed with
  | nothing => exact .refl ordered
  | changed => exact later_placed ordered
  | written => exact (later_placed ordered).of_same rfl rfl

/-- A playthrough that is current for no story is of no consequence. -/
theorem standing_retired {live : Live} (retired : backend.sessions.get? slug ≠ some number) :
    (backend.placed number live).standing slug = backend.standing slug := by
  simp only [standing, placed, Standing.mk.injEq, and_self, and_true]
  cases holds : backend.sessions.get? slug with
  | none => rfl
  | some current =>
    have apart : number ≠ current := fun same => retired (same ▸ holds)
    simp [apart]

/-- It is of none to the other stories. -/
theorem Closed.elsewhere {other : String} (closed : Closed slug number backend later)
    (plain : IsPlain slug) (plain' : IsPlain other) (differ : other ≠ slug)
    (own : backend.sessions.get? other ≠ some number) :
    later.standing other = backend.standing other := by
  cases closed with
  | nothing => rfl
  | changed => exact standing_retired own
  | written _ saved =>
    exact ((standing_saved (backend.placed number _) plain saved).2 other plain' differ).trans
      (standing_retired own)

/-- A response that is given a result is written as the record of its story, from the playthrough
that it was opened in. -/
theorem closeResponse_ends :
    Ends (closeResponse slug inFlight grade) backend
      (fun _ after => ∃ engine storage, inFlight.number < backend.live.length ∧
        backend.storage.savePlaythrough slug (recordOf engine) = .ok storage ∧
        after = { backend.placed inFlight.number ⟨engine, true⟩ with storage })
      (fun _ after => Closed slug inFlight.number backend after) := by
  refine ends_bind.mpr (ends_get.mpr ?_)
  dsimp only
  split
  · refine ends_bind.mpr (ends_engineOf.mpr ⟨fun engine there => ?_, fun _ => .nothing⟩)
    generalize engine.closeResponse inFlight.ticket grade = closed
    obtain ⟨outcome, now⟩ := closed
    refine ends_bind.mpr (ends_replace.mpr ?_)
    cases outcome with
    | error fault => exact ends_giveUpResponse fun _ _ => .changed _
    | ok result =>
      obtain ⟨bound, _⟩ := List.getElem?_eq_some_iff.mp there
      have there' : (backend.placed inFlight.number ⟨now, true⟩).live[inFlight.number]? =
          some ⟨now, true⟩ := by
        simp [placed, bound]
      refine ends_bind.mpr (ends_bind.mpr ((ends_persist there').mpr
        ⟨fun storage saved => ?_, fun _ _ => .changed _⟩))
      refine ends_bind.mpr (ends_engineOf.mpr ⟨fun shown _ => ?_, fun _ => .written bound saved⟩)
      refine ends_bind.mpr ?_
      cases shown.view with
      | ok view => exact ⟨now, storage, bound, saved, rfl⟩
      | error fault => exact ends_giveUp fun _ _ => .written bound saved
  · split
    · exact ends_giveUpResponse fun _ _ => .nothing
    · exact .nothing

theorem closed_comes
    (came : (closeResponse slug inFlight grade).run.run backend = (outcome, later)) :
    Closed slug inFlight.number backend later := by
  have ended := closeResponse_ends.came came
  cases outcome with
  | ok given =>
    obtain ⟨engine, storage, bound, saved, rfl⟩ := ended
    exact .written bound saved
  | error why => exact ended

/-- A response that was not graded is taken back in its own playthrough, if that is intact. -/
theorem ungraded_ends {why : GradingFailure} :
    Ends (closeResponse slug inFlight (.error why)) backend (fun _ _ => False)
      (fun _ after => after = backend ∨ ∃ live, after = backend.placed inFlight.number live) := by
  refine ends_bind.mpr (ends_get.mpr ?_)
  dsimp only
  split
  · refine ends_bind.mpr (ends_engineOf.mpr ⟨fun engine there => ?_, fun _ => .inl rfl⟩)
    refine ends_bind.mpr (ends_replace.mpr ?_)
    exact ends_giveUpResponse fun _ _ => .inr ⟨_, rfl⟩
  · exact ends_giveUpResponse fun _ _ => .inl rfl

/-- It leaves the stories that have another playthrough as they are. -/
theorem ungraded_same {why : GradingFailure} {other : String}
    (came : (closeResponse slug inFlight (.error why)).run.run backend = (outcome, later))
    (retired : backend.sessions.get? other ≠ some inFlight.number) :
    later.standing other = backend.standing other := by
  have ended := ungraded_ends.came came
  cases outcome with
  | ok given => exact ended.elim
  | error stop =>
    rcases ended with rfl | ⟨live, rfl⟩
    · rfl
    · exact standing_retired retired

/-- What one half of a response may do is allowed to the move. -/
theorem allows_of_goes {other : String} {leaves : Live → Prop} {deed : Deed}
    (goes : Goes slug False leaves other deed) (left : ∀ now, leaves now → ¬ move.Answered) :
    move.Allows other deed := by
  cases deed with
  | takeUp | play | wait | upload | remove => trivial
  | begin => exact goes.2.elim
  | leave now => exact left now goes.2

/-- A response that is opened comes to what going on with its story comes to. -/
theorem opened_changes {value : String} {outcome : Except Stop InFlight} (ordered : Ordered backend)
    (came : (openResponse slug value).run.run backend = (outcome, later)) :
    Changes (Move.opening slug value outcome).Allows backend later ∧
      ∀ inFlight, outcome = .ok inFlight → later.sessions.get? slug = some inFlight.number := by
  have gone : GoneOn slug False backend backend := .refl ordered
  have ended := Ends.came (works_openResponse gone) came
  cases outcome with
  | ok inFlight =>
    refine ⟨ended.1.mono fun _ _ goes => allows_of_goes goes fun _ => False.elim, ?_⟩
    rintro _ ⟨⟩
    exact ended.2
  | error why =>
    refine ⟨ended.mono fun _ _ goes => allows_of_goes goes fun _ mishap calm => ?_, nofun⟩
    exact calm (breaks_of_isMishap mishap)

/-- A response that is closed in time comes to what going on with its story comes to. -/
theorem closed_changes (ordered : Ordered backend) (plain : IsPlain slug)
    (inTime : backend.sessions.get? slug = some inFlight.number)
    (came : (closeResponse slug inFlight grade).run.run backend = (outcome, later)) :
    Changes (Move.closing slug inFlight grade outcome).Allows backend later := by
  have gone : GoneOn slug False backend backend := .refl ordered
  have ended := Ends.came (works_closeResponse gone plain inTime) came
  cases outcome with
  | ok given => exact ended.1.mono fun _ _ goes => allows_of_goes goes fun _ => False.elim
  | error why =>
    refine ended.mono fun _ _ goes => allows_of_goes goes fun _ mishap calm => ?_
    exact calm (breaks_of_isMishap mishap)

end

/-- What a request comes to. -/
theorem requested_changes {call : Call} {answer : Except Mishap HttpAnswer}
    {backend later : Backend} (visited : Visited backend (.request call answer) later) (ordered : Ordered backend) :
    Changes (Move.request call answer).Allows backend later := by
  refine (visited_changes visited ordered trivial).1.mono fun slug deed may => ?_
  cases deed with
  | takeUp | play | wait | upload | remove => trivial
  | begin => exact may
  | leave now =>
    rcases may with unanswered | ⟨_, _, missed, _⟩
    · exact unanswered
    · exact missed.elim

/-- Every move leaves the desk in order. -/
theorem moved_attended (moved : Moved before move after) (attended : Attended before) :
    Attended after := by
  cases moved with
  | requested visited =>
    exact attended.later (requested_changes visited attended.ordered).later fun _ => id
  | @opened slug value inFlight later came =>
    obtain ⟨changes, current⟩ := opened_changes attended.ordered came
    have waits := attended.later changes.later fun _ => id
    have holds := current inFlight rfl
    refine ⟨waits.ordered, ?_, ?_⟩
    · intro other response among
      rcases List.mem_append.mp among with old | new
      · exact waits.there other response old
      · cases List.mem_singleton.mp new
        exact waits.ordered.there slug _ holds
    · intro other response among third held
      rcases List.mem_append.mp among with old | new
      · exact waits.own other response old third held
      · cases List.mem_singleton.mp new
        exact waits.ordered.apart third slug _ held holds
  | refused came =>
    exact attended.later (opened_changes attended.ordered came).1.later fun _ => id
  | @closed slug inFlight earlier rest _ _ _ waiting _ came =>
    refine attended.later (later_closed (closed_comes came) attended.ordered) fun entry held => ?_
    rw [waiting]
    rcases List.mem_append.mp held with old | new
    · exact List.mem_append_left _ old
    · exact List.mem_append_right _ (List.mem_cons_of_mem _ new)

/-- What a move in time does to the standing of a story. -/
theorem moved_reaches (moved : Moved before move after) (attended : Attended before)
    (plain : move.IsPlain) (timely : move.IsTimely slug before.backend) (plain' : IsPlain slug) :
    (before.backend.standing slug).Reaches (move.Allows slug) (after.backend.standing slug) := by
  cases moved with
  | requested visited => exact (requested_changes visited attended.ordered).moves slug plain'
  | opened came | refused came => exact (opened_changes attended.ordered came).1.moves slug plain'
  | @closed other inFlight earlier rest grade outcome later waiting _ came =>
    by_cases here : other = slug
    · subst here
      by_cases inTime : before.backend.sessions.get? other = some inFlight.number
      · exact (closed_changes attended.ordered plain inTime came).moves other plain'
      · cases grade with
        | ok result => exact absurd (timely rfl) inTime
        | error why => exact ungraded_same came inTime ▸ .refl
    · have among : (other, inFlight) ∈ before.waiting := by simp [waiting]
      have own : before.backend.sessions.get? slug ≠ some inFlight.number := fun holds =>
        here (attended.own other inFlight among slug holds).symm
      exact (closed_comes came).elsewhere plain plain' (Ne.symm here) own ▸ .refl

/-- A move in time that is answered leaves no record behind. -/
theorem moved_written (moved : Moved before move after) (attended : Attended before)
    (plain : move.IsPlain) (timely : move.IsTimely slug before.backend) (answered : move.Answered)
    (plain' : IsPlain slug) (written : (before.backend.standing slug).Written fun _ _ => False) :
    (after.backend.standing slug).Written fun _ _ => False :=
  (moved_reaches moved attended plain timely plain').written
    (fun _ unanswered => absurd answered unanswered) written

/-- A move in time that begins no playthrough leaves a vacant story vacant. -/
theorem moved_vacant (moved : Moved before move after) (attended : Attended before)
    (plain : move.IsPlain) (timely : move.IsTimely slug before.backend) (plain' : IsPlain slug)
    (other : ¬ move.Begins slug) (vacant : (before.backend.standing slug).Vacant) :
    (after.backend.standing slug).Vacant :=
  (moved_reaches moved attended plain timely plain').vacant other vacant

/-- A story that is uploaded or deleted is given up. -/
theorem moved_replaces (moved : Moved before move after) (attended : Attended before)
    (replaces : move.Replaces slug) : (after.backend.standing slug).Vacant := by
  cases moved with
  | requested visited => exact (visited_changes visited attended.ordered trivial).2 slug replaces
  | opened | refused | closed => exact replaces.elim

variable {last : Desk}

/-- Whatever moves are made, the desk stays in order. -/
theorem interleaving_attended {may : Backend → Move → Prop}
    (idle : ∀ slug, first.sessions.get? slug = none) (run : Interleaving may first moves last) :
    Attended last := by
  induction run with
  | none => exact ⟨ordered_of_idle idle, nofun, nofun⟩
  | next _ moved _ ih => exact moved_attended moved ih

theorem interleaving_written (idle : ∀ slug, first.sessions.get? slug = none)
    (lasting : (first.standing slug).Lasting)
    (run : Interleaving (Move.IsTimely slug) first moves last)
    (plain : ∀ move ∈ moves, move.IsPlain)
    (answered : ∀ move ∈ moves, move.Answered) (plain' : IsPlain slug) :
    (last.backend.standing slug).Written fun _ _ => False := by
  induction run with
  | none => exact Standing.written_of_lasting (playing_of_idle idle slug) lasting
  | @next moves move before after earlier moved timely ih =>
    exact moved_written moved (interleaving_attended idle earlier) (plain move (by simp)) timely
      (answered move (by simp)) plain'
      (ih (fun move among => plain move (List.mem_append_left _ among))
        fun move among => answered move (List.mem_append_left _ among))

theorem interleaving_vacant (idle : ∀ slug, first.sessions.get? slug = none)
    (run : Interleaving (Move.IsTimely slug) first moves last)
    (plain : ∀ move ∈ moves, move.IsPlain)
    (plain' : IsPlain slug) :
    ∀ earlier move later, moves = earlier ++ move :: later → move.Replaces slug →
      (∀ other ∈ later, ¬ other.Begins slug) → (last.backend.standing slug).Vacant := by
  induction run with
  | none => exact fun earlier move later split => absurd split.symm (by simp)
  | @next moves latest before after run moved timely ih =>
    intro earlier move later split replaces others
    have attended := interleaving_attended idle run
    rcases snoc_eq_append_cons split with ⟨rfl, rfl, rfl⟩ | ⟨later, rfl, rfl⟩
    · -- The story has just been replaced.
      exact moved_replaces moved attended replaces
    · have vacant := ih (fun move among => plain move (List.mem_append_left _ among)) earlier move
        later rfl replaces fun other among => others other (by simp [among])
      exact moved_vacant moved attended (plain latest (by simp)) timely plain'
        (others latest (by simp)) vacant

/-- A grade that comes late is written all the same: the record of the story holds the playthrough
that the response was opened in, while the current one goes on as it was. -/
theorem late_grades_take_the_record {backend later : Backend} {inFlight : InFlight}
    {grade : Except GradingFailure GradingResult} {given : Json}
    (came : (closeResponse slug inFlight grade).run.run backend = (.ok given, later)) :
    later.sessions = backend.sessions ∧
      (∀ number, number ≠ inFlight.number → later.live[number]? = backend.live[number]?) ∧
        ∃ engine, later.live[inFlight.number]? = some ⟨engine, true⟩ ∧
          later.storage.playthrough slug = .ok (recordOf engine) := by
  obtain ⟨engine, storage, bound, saved, rfl⟩ := closeResponse_ends.came came
  refine ⟨rfl, fun number other => ?_, engine, ?_, Storage.playthrough_save saved⟩
  · simp [placed, Ne.symm other]
  · simp [placed, bound]

/-- However requests and the halves of responses follow one another, if no grade comes to a
playthrough of a story that has been replaced, the record of that story holds its current playthrough
as long as every move is answered; and once the story has been uploaded or deleted, there is neither
a current playthrough nor a record until a new playthrough may have been begun. -/
theorem grades_in_time_are_kept (idle : ∀ slug, first.sessions.get? slug = none)
    (lasting : ∀ slug, IsPlain slug → (first.standing slug).Lasting)
    (run : Interleaving (Move.IsTimely slug) first moves last)
    (plain : ∀ move ∈ moves, move.IsPlain)
    (plain' : IsPlain slug) :
    ((∀ move ∈ moves, move.Answered) → ∀ number,
      last.backend.sessions.get? slug = some number →
        ∃ engine, last.backend.live[number]? = some ⟨engine, true⟩ ∧
          last.backend.storage.playthrough slug = .ok (recordOf engine)) ∧
      ∀ earlier move later, moves = earlier ++ move :: later → move.Replaces slug →
        (∀ other ∈ later, ¬ other.Begins slug) → last.backend.Vacant slug := by
  have ordered := (interleaving_attended idle run).ordered
  refine ⟨fun answered number holds => ?_, fun earlier move later split replaces others => ?_⟩
  · have written := interleaving_written idle (lasting slug plain') run plain answered plain'
    obtain ⟨engine, there, recorded⟩ := ordered.recorded written holds
    refine ⟨engine, there, recorded.resolve_right ?_⟩
    rintro ⟨_, _, _, missed⟩
    exact missed
  · exact ordered.vacant_iff.mp
      (interleaving_vacant idle run plain plain' earlier move later split replaces others)

/-- An exam with a single question. -/
def exam : Story :=
  { Story.lone (.bare "question" .narration) with
    scenes := [⟨"scene", "Scene", "question",
      [{ Node.bare "question"
          (.graded ⟨"essay", "reply", "mood", "verdict", [], "", "", 1, 99, none⟩) with
            nextNodeId := some "mark" },
        .bare "mark" .ending]⟩] }

/-- A backend with that story alone. -/
def hall : Backend := fresh (some [("exam", exam.toJson .authored)])

/-- A request by which the exam is begun. -/
def sitting : Call where
  method := "POST"
  path := "/api/stories/exam/play"
  payload := .nothing

/-- A request by which another story is put in its place. -/
def resetting : Call where
  method := "PUT"
  path := "/api/stories/exam"
  payload := .document (.obj [("story", (Story.lone (.bare "rest" .ending)).toJson .authored)])

/-- What comes of a request where there is no network. -/
def dealtWith (call : Call) (backend : Backend) : Except Mishap HttpAnswer × Backend × Unit :=
  serve (fun _ network => (.foreign "", network)) call backend ()

theorem moved_dealtWith (call : Call) (desk : Desk) :
    Moved desk (.request call (dealtWith call desk.backend).1)
      { desk with backend := (dealtWith call desk.backend).2.1 } := by
  have came : serve (fun _ network => (.foreign "", network)) call desk.backend () =
    dealtWith call desk.backend := rfl
  exact .requested (.served came)

/-- A response to the question once the exam has been begun. -/
def handedIn : Except Stop InFlight × Backend :=
  (openResponse "exam" "Forty-two.").run.run (dealtWith sitting hall).2.1

/-- The grade of a response by a language model that never replies in time. -/
def marked (inFlight : InFlight) : Except GradingFailure GradingResult :=
  (inFlight.grading.run (fun _ model => (.timedOut, model)) ()).1

/-- The response is closed with that grade. -/
def returned (inFlight : InFlight) (backend : Backend) : Except Stop Json × Backend :=
  (closeResponse "exam" inFlight (marked inFlight)).run.run backend

/-- The response is closed and nothing is waited for any more. -/
theorem moved_returned (inFlight : InFlight) (backend : Backend) :
    Moved ⟨backend, [("exam", inFlight)]⟩
      (.closing "exam" inFlight (marked inFlight) (returned inFlight backend).1)
      ⟨(returned inFlight backend).2, [] ++ []⟩ :=
  .closed rfl (Grading.gives_run _ _ _) rfl

/-- The first moves: the exam is begun, and the response handed in. -/
def examined (inFlight : InFlight) : List Move :=
  [.request sitting (dealtWith sitting hall).1, .opening "exam" "Forty-two." (.ok inFlight)]

theorem proper_examined (inFlight : InFlight) :
    ∀ move ∈ examined inFlight, move.IsPlain ∧ move.Answered := by
  have plain : IsPlain "exam" := by decide
  have begun : ∃ given, (dealtWith sitting hall).1 = .ok given :=
    Outcome.isSome_toOption.mp (by decide +kernel)
  simp [examined, Move.IsPlain, Move.Answered, Breaks, begun, plain]

theorem interleaving_examined {may : Backend → Move → Prop} {inFlight : InFlight}
    (came : handedIn.1 = .ok inFlight)
    (all : ∀ backend, ∀ move ∈ examined inFlight, may backend move) :
    Interleaving may hall (examined inFlight) ⟨handedIn.2, [("exam", inFlight)]⟩ := by
  have begun : Interleaving may hall ([] ++ [.request sitting (dealtWith sitting hall).1])
      ⟨(dealtWith sitting hall).2.1, []⟩ :=
    .next .none (moved_dealtWith sitting ⟨hall, []⟩) (all _ _ (by simp [examined]))
  exact begun.next (.opened (Prod.ext came rfl)) (all _ _ (by simp [examined]))

/-- The response is in the current playthrough. -/
theorem handedIn_current :
    ∃ inFlight, handedIn.1 = .ok inFlight ∧ inFlight.number = 0 ∧
      handedIn.2.sessions.get? "exam" = some 0 := by
  have number : handedIn.1.toOption.map (·.number) = some 0 := by decide +kernel
  obtain ⟨inFlight, came, first⟩ := Option.map_eq_some_iff.mp number
  exact ⟨inFlight, Outcome.toOption_eq_some.mp came, first, by decide +kernel⟩

theorem proper_returned {inFlight : InFlight} {backend : Backend} {given : Json}
    (closed : (returned inFlight backend).1 = .ok given) :
    ∀ move ∈ [Move.closing "exam" inFlight (marked inFlight) (returned inFlight backend).1],
      move.IsPlain ∧ move.Answered := by
  have plain : IsPlain "exam" := by decide
  simp [Move.IsPlain, Move.Answered, Breaks, closed, plain]

/-- The moves by which the exam is marked in time. -/
def markedInTime (inFlight : InFlight) : List Move :=
  examined inFlight ++
    [.closing "exam" inFlight (marked inFlight) (returned inFlight handedIn.2).1]

/-- The exam is marked in time, and then another story is put in its place. -/
theorem exam_is_marked_in_time :
    ∃ inFlight, handedIn.1 = .ok inFlight ∧
      (∃ engine, (returned inFlight handedIn.2).2.live[0]? = some ⟨engine, true⟩ ∧
        (returned inFlight handedIn.2).2.storage.playthrough "exam" = .ok (recordOf engine)) ∧
      (dealtWith resetting (returned inFlight handedIn.2).2).2.1.Vacant "exam" := by
  obtain ⟨inFlight, came, number, current⟩ := handedIn_current
  have marks : handedIn.1.toOption.map (fun inFlight =>
      ((returned inFlight handedIn.2).1.toOption.isSome,
        (dealtWith resetting (returned inFlight handedIn.2).2).1.toOption.map (·.status))) =
        some (true, some 200) := by decide +kernel
  rw [Outcome.toOption_eq_some.mpr came, Option.map_some, Option.some.injEq] at marks
  obtain ⟨closes, resets⟩ := Prod.mk.inj marks
  obtain ⟨given, closed⟩ := Outcome.isSome_toOption.mp closes
  obtain ⟨⟨_, body⟩, answered, rfl⟩ := Option.map_eq_some_iff.mp resets
  have answered := Outcome.toOption_eq_some.mp answered
  have found : Endpoint.find resetting.method resetting.path = .ok (.here (.uploadStory "exam")) :=
    Outcome.toOption_eq_some.mp (by decide +kernel)
  have plain : IsPlain "exam" := by decide
  have proper : ∀ move ∈ markedInTime inFlight, move.IsPlain ∧ move.Answered :=
    List.forall_mem_append.mpr ⟨proper_examined inFlight, proper_returned closed⟩
  have stays : (returned inFlight handedIn.2).2.sessions.get? "exam" = some 0 :=
    (late_grades_take_the_record (Prod.ext closed rfl)).1 ▸ current
  have timely : (Move.closing "exam" inFlight (marked inFlight)
      (returned inFlight handedIn.2).1).IsTimely "exam" handedIn.2 := by
    unfold Move.IsTimely
    split <;> simp_all
  have run : Interleaving (Move.IsTimely "exam") hall (markedInTime inFlight)
      ⟨(returned inFlight handedIn.2).2, []⟩ :=
    (interleaving_examined came (by simp [examined, Move.IsTimely])).next
      (moved_returned inFlight handedIn.2) timely
  refine ⟨inFlight, came, ?_, ?_⟩
  · have kept := grades_in_time_are_kept (fun _ => rfl) (fun _ plain => lasting_fresh _ plain) run
      (fun move among => (proper move among).1) plain
    exact kept.1 (fun move among => (proper move among).2) 0 stays
  · have plainly : ∀ move ∈ markedInTime inFlight ++
        [.request resetting (dealtWith resetting (returned inFlight handedIn.2).2).1],
          move.IsPlain :=
      List.forall_mem_append.mpr ⟨fun move among => (proper move among).1, by simp [Move.IsPlain]⟩
    have reset :=
      run.next (moved_dealtWith resetting ⟨(returned inFlight handedIn.2).2, []⟩) trivial
    have kept := grades_in_time_are_kept (fun _ => rfl) (fun _ plain => lasting_fresh _ plain) reset
      plainly plain
    exact kept.2 (markedInTime inFlight)
      (.request resetting (dealtWith resetting (returned inFlight handedIn.2).2).1) [] rfl
      ⟨⟨_, found, .inl rfl⟩, body, answered⟩ (List.forall_mem_nil _)

/-- The exam is begun again while the response is being graded. -/
def resat : Except Mishap HttpAnswer × Backend × Unit := dealtWith sitting handedIn.2

/-- Whoever begins the exam again before it is marked is recorded at the end of it. -/
theorem late_grades_may_overwrite_a_playthrough :
    ¬∀ (first : Backend) (last : Desk) (moves : List Move) (slug : String) (number : Nat),
      (∀ slug, first.sessions.get? slug = none) →
        (∀ slug, IsPlain slug → (first.standing slug).Lasting) →
          Interleaving (fun _ _ => True) first moves last → (∀ move ∈ moves, move.IsPlain) →
            (∀ move ∈ moves, move.Answered) → IsPlain slug →
              last.backend.sessions.get? slug = some number →
                ∃ engine, last.backend.live[number]? = some ⟨engine, true⟩ ∧
                  last.backend.storage.playthrough slug = .ok (recordOf engine) := by
  intro kept
  obtain ⟨inFlight, came, number, _⟩ := handedIn_current
  have begun : ∃ given, resat.1 = .ok given := Outcome.isSome_toOption.mp (by decide +kernel)
  have current : resat.2.1.sessions.get? "exam" = some 1 := by decide +kernel
  have there : (resat.2.1.live[1]?).map (·.engine.state.currentNodeId) = some "question" := by
    decide +kernel
  have marks : handedIn.1.toOption.map (fun inFlight =>
      ((returned inFlight resat.2.1).1.toOption.isSome,
        recordedNode? ((returned inFlight resat.2.1).2.storage.playthrough "exam"))) =
        some (true, some "mark") := by decide +kernel
  rw [Outcome.toOption_eq_some.mpr came, Option.map_some, Option.some.injEq] at marks
  obtain ⟨closes, behind⟩ := Prod.mk.inj marks
  obtain ⟨given, closed⟩ := Outcome.isSome_toOption.mp closes
  obtain ⟨sessions, elsewhere, _⟩ := late_grades_take_the_record (Prod.ext closed rfl)
  have plain : IsPlain "exam" := by decide
  have run : Interleaving (fun _ _ => True) hall
      (examined inFlight ++ [.request sitting resat.1] ++
        [.closing "exam" inFlight (marked inFlight) (returned inFlight resat.2.1).1])
      ⟨(returned inFlight resat.2.1).2, []⟩ :=
    ((interleaving_examined came fun _ _ _ => trivial).next
      (moved_dealtWith sitting ⟨handedIn.2, [("exam", inFlight)]⟩) trivial).next
        (moved_returned inFlight resat.2.1) trivial
  have proper : ∀ move ∈ examined inFlight ++ [.request sitting resat.1] ++
      [.closing "exam" inFlight (marked inFlight) (returned inFlight resat.2.1).1],
        move.IsPlain ∧ move.Answered := by
    refine List.forall_mem_append.mpr ⟨List.forall_mem_append.mpr ⟨proper_examined inFlight, ?_⟩,
      proper_returned closed⟩
    simp [Move.IsPlain, Move.Answered, begun]
  obtain ⟨engine, held, recorded⟩ := kept hall _ _ "exam" 1 (fun _ => rfl)
    (fun _ plain => lasting_fresh _ plain) run (fun move among => (proper move among).1)
    (fun move among => (proper move among).2) plain (sessions ▸ current)
  -- The current playthrough is still at the question, and the record is not.
  have held' : resat.2.1.live[1]? = some ⟨engine, true⟩ :=
    (elsewhere 1 (by simp [number])).symm.trans held
  rw [held', Option.map_some, Option.some.injEq] at there
  have recorded : (returned inFlight resat.2.1).2.storage.playthrough "exam" =
    .ok (recordOf engine) := recorded
  rw [recorded, recordedNode?_recordOf, there] at behind
  exact absurd behind (by decide)

end Backend

end VisualNovel
