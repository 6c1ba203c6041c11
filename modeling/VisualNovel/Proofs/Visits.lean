import VisualNovel.Proofs.Requests

/-! What a visit does to a backend: a request over the network, or the use of a tool. The slug in an
address holds no slash, because the address is taken apart at its slashes. So every request is about
one story at most, and comes to the deeds that going on with that story comes to, or to its document
being put in place or taken away. -/
namespace VisualNovel

/-! ## Addresses -/

/-- What a list is split at is in none of its parts. -/
theorem not_mem_of_splitOn {α : Type} [BEq α] [LawfulBEq α] (x : α) (text : List α) :
    ∀ part ∈ text.splitOn x, x ∉ part := by
  induction text with
  | nil => simp
  | cons c rest ih =>
    intro part among
    rw [List.splitOn_cons_eq_if_modifyHead] at among
    split at among
    · rcases List.mem_cons.mp among with rfl | later
      · exact List.not_mem_nil
      · exact ih part later
    · rename_i other
      cases parts : rest.splitOn x with
      | nil => exact absurd parts (List.splitOn_ne_nil x rest)
      | cons first more =>
        rw [parts] at among ih
        rcases List.mem_cons.mp among with rfl | later
        · rw [List.mem_cons, not_or]
          exact ⟨fun same => other (by simp [same]), ih first List.mem_cons_self⟩
        · exact ih part (List.mem_cons_of_mem _ later)

/-- The names that an address is taken apart into are plain. -/
theorem Address.names_plain {address : String} {names : List String}
    (found : Address.names? address = some names) : ∀ name ∈ names, IsPlain name := by
  unfold Address.names? at found
  obtain ⟨path, _, found⟩ := Option.bind_eq_some_iff.mp found
  dsimp only at found
  split at found
  · rename_i rest split
    cases found
    intro name among
    obtain ⟨part, held, rfl⟩ := List.mem_map.mp among
    have whole := not_mem_of_splitOn '/' _ part (split ▸ List.mem_cons_of_mem _ held)
    simpa [IsPlain] using whole
  · cases found
    simp

/-- Whether a playthrough is begun by what is asked for, if need be. -/
def PlayAction.Begins : PlayAction → Prop
  | .begin | .load => True
  | _ => False

namespace Endpoint

/-- The story that is asked about. -/
def slug? : Endpoint → Option String
  | .here (.story slug) | .here (.uploadStory slug) | .here (.deleteStory slug)
  | .here (.play slug _) | .respond slug | .recommend slug => some slug
  | .here .health | .here .settings | .here .changeSettings | .here .stories
  | .checkConnection => none

/-- Whether a new playthrough of a story may come of what is asked for. -/
def Begins (endpoint : Endpoint) (slug : String) : Prop :=
  ∃ action : PlayAction, action.Begins ∧ endpoint = .here (.play slug action)

/-- Whether the document of a story is put in place or taken away. -/
def Replaces (endpoint : Endpoint) (slug : String) : Prop :=
  endpoint = .here (.uploadStory slug) ∨ endpoint = .here (.deleteStory slug)

/-- What may be done to the standing of a story by what is asked for. -/
def Allows (endpoint : Endpoint) (fails : Prop) (slug : String) : Deed → Prop
  | .takeUp | .play | .wait => True
  | .begin => endpoint.Begins slug
  | .leave _ => fails
  | .upload | .remove => endpoint.Replaces slug

theorem underPlay_slug (slug : String) (rest : List String) :
    ∀ entry ∈ underPlay slug rest, entry.2.slug? = some slug := by
  unfold underPlay
  split <;> simp [slug?]

/-- A story is asked about by one of the names of a path. -/
theorem under_slug {names : List String} :
    ∀ entry ∈ under names, ∀ slug, entry.2.slug? = some slug → slug ∈ names ∧ slug ≠ "" := by
  unfold under
  split
  · simp [slug?]
  · simp [slug?]
  · simp [slug?]
  · simp [slug?]
  · split
    · simp
    · rename_i named
      simp [slug?, named]
  · rename_i slug rest
    split
    · simp
    · rename_i named
      intro entry among other asked
      cases (underPlay_slug slug rest entry among).symm.trans asked
      exact ⟨by simp, named⟩
  · simp

/-- The slug of a story that is asked about is plain. A line end that is left out leaves it so. -/
theorem offered_slug {names : List String} (plain : ∀ name ∈ names, IsPlain name) :
    ∀ entry ∈ offered names, ∀ slug, entry.2.slug? = some slug → IsPlain slug ∧ slug ≠ "" := by
  intro entry among slug asked
  unfold offered at among
  split at among
  · rename_i last before _ reversed
    have inside (name : String) (held : name = last ∨ name ∈ before) : IsPlain name :=
      plain name (List.mem_reverse.mp (reversed ▸ List.mem_cons.mpr held))
    split at among
    · rename_i rest ended
      obtain ⟨held, named⟩ := under_slug entry among slug asked
      refine ⟨?_, named⟩
      rcases List.mem_cons.mp (List.mem_reverse.mp held) with rfl | other
      · have whole : '/' ∉ last.toList := inside last (.inl rfl)
        rw [← List.mem_reverse, ended] at whole
        simpa [IsPlain] using fun inRest => whole (List.mem_cons_of_mem _ inRest)
      · exact inside slug (.inr other)
    · cases among
  · obtain ⟨held, named⟩ := under_slug entry among slug asked
    exact ⟨plain slug held, named⟩

theorem find_slug {method address slug : String} {endpoint : Endpoint}
    (found : find method address = .ok endpoint) (asked : endpoint.slug? = some slug) :
    IsPlain slug ∧ slug ≠ "" := by
  unfold find at found
  split at found
  · cases found
  · rename_i names read
    dsimp only at found
    split at found
    · cases found
    · split at found
      · split at found <;> cases found
      · rw [Outcome.needed_eq_ok, List.lookup_eq_some_iff] at found
        obtain ⟨_, _, listed, _⟩ := found
        refine offered_slug (Address.names_plain read)
          (method.map Char.toUpper, endpoint) ?_ slug asked
        simp [listed]

end Endpoint

namespace Backend

variable {before between after : Backend} {payload : Payload}

/-! ## Requests -/

theorem playLocally_works {slug : String} (ordered : Ordered before) (plain : IsPlain slug)
    (action : PlayAction) :
    Works slug action.Begins before (playLocally slug payload action) before fun _ _ => True := by
  have gone {begins : Prop} : GoneOn slug begins before before := .refl ordered
  -- What has to be brought along is read before anything is done.
  have reading {α : Type} {expects : Schema.Expects α} {next : α → Serving Json}
      (works : ∀ value, Works slug action.Begins before (next value) before fun _ _ => True) :
      Works slug action.Begins before (payloadAs payload expects >>= next) before
        fun _ _ => True :=
    ends_bind.mpr (ends_payloadAs works fun _ _ => gone.stop)
  cases action with
  | begin => exact works_play gone plain trivial
  | watch => exact works_watch gone plain
  | name => exact reading fun name => works_act gone plain (Engine.regular_start name)
  | advance => exact works_act gone plain Engine.regular_advance
  | choice => exact reading fun choiceId => works_act gone plain (Engine.regular_choose choiceId)
  | input => exact reading fun value => works_act gone plain (Engine.regular_submit value)
  | showFeedback =>
    exact reading fun visible => works_act gone plain (Engine.regular_showFeedback visible)
  | feedback => exact works_feedback gone
  | save => exact works_save gone
  | load => exact works_load gone plain trivial
  | restart => exact works_restart gone plain

/-- Going on with a story is allowed where that is asked for. -/
theorem Goes.allows {endpoint : Endpoint} {slug other : String} {begins fails : Prop}
    {leaves : Live → Prop} {deed : Deed} (goes : Goes slug begins leaves other deed)
    (asked : begins → endpoint.Begins slug) (left : ∀ now, leaves now → fails) :
    endpoint.Allows fails other deed := by
  cases deed with
  | takeUp | play | wait => trivial
  | begin =>
    obtain ⟨rfl, begun⟩ := goes
    exact asked begun
  | leave now => exact left now goes.2
  | upload | remove => exact goes.elim

/-- Whether work has come to an end that nobody is prepared for. -/
def Breaks {α : Type} (outcome : Except Stop α) : Prop := ∃ why, outcome = .error (.mishap why)

/-- Whether work has come to an end that is not taken for a success. -/
def Misses {α : Type} (outcome : Except Stop α) : Prop := ∃ why, outcome = .error why ∧ why.Fails

theorem breaks_of_isMishap {α : Type} {why : Stop} (mishap : why.IsMishap) :
    Breaks (.error why : Except Stop α) := by
  cases why with
  | mishap why => exact ⟨why, rfl⟩
  | refused | unacceptable => exact mishap.elim

/-- What asking for something may come to. -/
structure Answers (endpoint : Endpoint) (before : Backend) (outcome : Except Stop Json)
    (after : Backend) : Prop where
  changes : Changes (endpoint.Allows (Breaks outcome)) before after
  replaces : ∀ slug, endpoint.Replaces slug → Misses outcome ∨ (after.standing slug).Vacant

/-- An early end of going on with a story is an answer to whatever does not replace it. -/
theorem stop_answers {endpoint : Endpoint} {slug : String} {begins : Prop} {why : Stop}
    (stopped : Changes (Goes slug begins fun _ => why.IsMishap) before after)
    (asked : begins → endpoint.Begins slug) (keeps : ∀ slug, ¬ endpoint.Replaces slug) :
    Answers endpoint before (.error why) after :=
  ⟨stopped.mono fun _ _ goes => goes.allows asked fun _ => breaks_of_isMishap,
    fun slug replaces => absurd replaces (keeps slug)⟩

/-- So is any other end. -/
theorem Works.answers {endpoint : Endpoint} {slug : String} {begins : Prop} {work : Serving Json}
    {result : Json → Backend → Prop} {outcome : Except Stop Json}
    (works : Works slug begins before work between result)
    (came : work.run.run between = (outcome, after)) (asked : begins → endpoint.Begins slug)
    (keeps : ∀ slug, ¬ endpoint.Replaces slug) : Answers endpoint before outcome after := by
  have ended := Ends.came works came
  cases outcome with
  | ok value =>
    refine ⟨?_, fun slug replaces => absurd replaces (keeps slug)⟩
    exact ended.1.mono fun _ _ goes => goes.allows asked fun _ => False.elim
  | error why => exact stop_answers ended asked keeps

/-- An answer for which the backend is only looked at. -/
theorem answers_unchanged {endpoint : Endpoint} {outcome : Except Stop Json}
    (ordered : Ordered before) (keeps : ∀ slug, ¬ endpoint.Replaces slug) :
    Answers endpoint before outcome before :=
  ⟨.refl ordered, fun slug replaces => absurd replaces (keeps slug)⟩

/-- Work that replaces a story leaves it without a playthrough, or else changes nothing. -/
theorem replaced_answers {endpoint : Endpoint} {slug : String} {deed : Deed} {work : Serving Json}
    {outcome : Except Stop Json} (ordered : Ordered before)
    (deeds : deed = .upload ∨ deed = .remove)
    (about : ∀ other, endpoint.Replaces other ↔ other = slug)
    (ends : Ends work before
      (fun _ after => Changes (Only slug deed) before after ∧ (after.standing slug).Vacant)
      (fun why after => before = after ∧ why.Fails))
    (came : work.run.run before = (outcome, after)) : Answers endpoint before outcome after := by
  have ended := ends.came came
  cases outcome with
  | ok value =>
    refine ⟨ended.1.mono fun other done only => ?_, fun other replaces => .inr ?_⟩
    · obtain ⟨rfl, rfl⟩ := only
      rcases deeds with rfl | rfl <;> exact (about _).mpr rfl
    · cases (about other).mp replaces
      exact ended.2
  | error why =>
    obtain ⟨rfl, fails⟩ := ended
    exact ⟨.refl ordered, fun _ _ => .inl ⟨why, rfl, fails⟩⟩

theorem answerLocally_answers {endpoint : LocalEndpoint} {outcome : Except Stop Json}
    (ordered : Ordered before)
    (named : ∀ slug, (Endpoint.here endpoint).slug? = some slug → IsPlain slug ∧ slug ≠ "")
    (came : (answerLocally payload endpoint).run.run before = (outcome, after)) :
    Answers (.here endpoint) before outcome after := by
  have gone {slug : String} {begins : Prop} : GoneOn slug begins before before := .refl ordered
  cases endpoint with
  | health =>
    cases came
    exact answers_unchanged ordered nofun
  | settings =>
    have works : Works "" False before (answerLocally payload .settings) before fun _ _ => True :=
      (works_look gone).bind fun _ _ gone _ => .value gone trivial
    exact works.answers came False.elim nofun
  | changeSettings =>
    have works : Works "" False before (answerLocally payload .changeSettings) before
        fun _ _ => True :=
      ends_bind.mpr (ends_payloadAs (fun _ => works_changeSettings gone) fun _ _ => gone.stop)
    exact works.answers came False.elim nofun
  | stories =>
    have works : Works "" False before (answerLocally payload .stories) before fun _ _ => True :=
      (works_look gone).bind fun _ _ gone _ => .value gone trivial
    exact works.answers came False.elim nofun
  | story slug =>
    have works : Works slug False before (storyDocument slug) before fun _ _ => True := by
      refine (works_look gone).bind fun document _ gone _ => ?_
      split
      · exact .stop gone
      · exact .value gone trivial
    exact works.answers came False.elim nofun
  | uploadStory slug =>
    obtain ⟨plain, named⟩ := named slug rfl
    have about (other : String) :
        (Endpoint.here (.uploadStory slug)).Replaces other ↔ other = slug := by
      simp [Endpoint.Replaces, eq_comm]
    refine replaced_answers ordered (.inl rfl) about ?_ came
    · exact ends_bind.mpr (ends_payloadAs (fun _ => uploadStory_ends ordered plain named)
        fun _ stopped => ⟨rfl, payload_fails stopped⟩)
  | deleteStory slug =>
    obtain ⟨plain, _⟩ := named slug rfl
    have about (other : String) :
        (Endpoint.here (.deleteStory slug)).Replaces other ↔ other = slug := by
      simp [Endpoint.Replaces, eq_comm]
    exact replaced_answers ordered (.inr rfl) about (deleteStory_ends ordered plain) came
  | play slug action =>
    obtain ⟨plain, _⟩ := named slug rfl
    exact (playLocally_works ordered plain action).answers came
      (fun begins => ⟨action, begins, rfl⟩) nofun

section

variable {Network : Type} {send : Request → Network → Exchange × Network} {network later : Network}
  {outcome : Except Stop Json}

/-- Work in two parts that waits for a network between them. The second part is done only if the
first has come to a value, and on that value. -/
inductive InParts {α Answer : Type} (first : Serving α) (second : α → Answer → Serving Json)
    (before : Backend) : Except Stop Json → Backend → Prop
  | stopped {why : Stop} {after : Backend} (came : first.run.run before = (.error why, after)) :
    InParts first second before (.error why) after
  | finished {value : α} {answer : Answer} {between after : Backend} {outcome : Except Stop Json}
    (came : first.run.run before = (.ok value, between))
    (went : (second value answer).run.run between = (outcome, after)) :
    InParts first second before outcome after

/-- A response is opened, graded and closed. -/
theorem respond_parts {slug : String}
    (came : respond send slug payload before network = (outcome, after, later)) :
    InParts (do openResponse slug (← payloadAs payload (oneText "value"))) (closeResponse slug)
      before outcome after := by
  unfold respond at came
  dsimp only at came
  split at came
  rename_i opened between opening
  cases opened with
  | error why =>
    cases came
    exact .stopped opening
  | ok inFlight =>
    dsimp only at came
    split at came
    rename_i answer after closing
    cases came
    exact .finished opening closing

theorem recommend_parts {slug : String}
    (came : recommend send slug before network = (outcome, after, later)) :
    InParts (finishedGame slug) (fun _ => concludeGame) before outcome after := by
  unfold recommend at came
  dsimp only at came
  split at came
  rename_i found between finding
  cases found with
  | error why =>
    cases came
    exact .stopped finding
  | ok game =>
    dsimp only at came
    split at came
    rename_i answer after concluding
    cases came
    exact .finished finding concluding

/-- A response that is opened and closed at one go is closed in time. -/
theorem respond_answers {slug : String} (ordered : Ordered before) (plain : IsPlain slug)
    (came : respond send slug payload before network = (outcome, after, later)) :
    Answers (.respond slug) before outcome after := by
  have gone : GoneOn slug False before before := .refl ordered
  have opens : Works slug False before
      (do openResponse slug (← payloadAs payload (oneText "value"))) before
      fun inFlight between => between.sessions.get? slug = some inFlight.number :=
    ends_bind.mpr (ends_payloadAs (fun _ => works_openResponse gone) fun _ _ => gone.stop)
  cases respond_parts came with
  | stopped opening => exact stop_answers (Ends.came opens opening) False.elim nofun
  | finished opening closing =>
    obtain ⟨gone, inTime⟩ := Ends.came opens opening
    exact (works_closeResponse gone plain inTime).answers closing False.elim nofun

theorem recommend_answers {slug : String} (ordered : Ordered before)
    (came : recommend send slug before network = (outcome, after, later)) :
    Answers (.recommend slug) before outcome after := by
  have gone : GoneOn slug False before before := .refl ordered
  cases recommend_parts came with
  | stopped finding =>
    exact stop_answers (Ends.came (works_finishedGame gone) finding) False.elim nofun
  | finished finding concluding =>
    have found := Ends.came (works_finishedGame gone) finding
    exact (works_concludeGame found.1).answers concluding False.elim nofun

theorem answer_answers {endpoint : Endpoint} (ordered : Ordered before)
    (named : ∀ slug, endpoint.slug? = some slug → IsPlain slug ∧ slug ≠ "")
    (came : answer send endpoint payload before network = (outcome, after, later)) :
    Answers endpoint before outcome after := by
  cases endpoint with
  | here endpoint =>
    cases came
    exact answerLocally_answers ordered named rfl
  | checkConnection =>
    cases came
    exact answers_unchanged ordered nofun
  | respond slug => exact respond_answers ordered (named slug rfl).1 came
  | recommend slug => exact recommend_answers ordered came

end

end Backend

/-! ## Visits -/

/-- A request over the network or the use of a tool, together with what it is answered with. -/
inductive Visit where
  | request (call : Call) (answer : Except Mishap HttpAnswer)
  | tool (tool : Tool) (answer : Except Stop Json)

namespace Visit

/-- A tool may be used on any name, but only plain names lead to places of their own. -/
def IsPlain : Visit → Prop
  | request _ _ => True
  | tool used _ => VisualNovel.IsPlain used.slug

instance : DecidablePred IsPlain
  | request _ _ => .isTrue trivial
  | tool used _ => inferInstanceAs (Decidable (VisualNovel.IsPlain used.slug))

/-- Whether a visit has ended in an answer. -/
def Answered : Visit → Prop
  | request _ answer => ∃ given, answer = .ok given
  | tool _ answer => ∃ given, answer = .ok given

instance : DecidablePred Answered
  | request _ (.ok given) => .isTrue ⟨given, rfl⟩
  | tool _ (.ok given) => .isTrue ⟨given, rfl⟩
  | request _ (.error _) => .isFalse nofun
  | tool _ (.error _) => .isFalse nofun

/-- Whether a new playthrough of a story may come of a visit. -/
def Begins (slug : String) : Visit → Prop
  | request call _ =>
    ∃ endpoint, Endpoint.find call.method call.path = .ok endpoint ∧ endpoint.Begins slug
  | tool used _ => used.Begins ∧ used.slug = slug

/-- Whether a story has been uploaded or deleted. -/
def Replaces (slug : String) : Visit → Prop
  | request call answer =>
    (∃ endpoint, Endpoint.find call.method call.path = .ok endpoint ∧ endpoint.Replaces slug) ∧
      ∃ body, answer = .ok ⟨200, body⟩
  | tool _ _ => False

/-- Whether a tool for a story has been answered with the complaint that a node is not there. -/
def Misses (slug sceneId nodeId : String) : Visit → Prop
  | request _ _ => False
  | tool used answer =>
    used.slug = slug ∧ answer = .ok (Backend.complaint (Fault.nodeNotFound sceneId nodeId).message)

/-- What a visit may do to the standing of a story. -/
def Allows (visit : Visit) (slug : String) : Deed → Prop
  | .takeUp | .play | .wait | .upload | .remove => True
  | .begin => visit.Begins slug
  | .leave now => ¬ visit.Answered ∨ ∃ sceneId nodeId, visit.Misses slug sceneId nodeId ∧
      now.IsLost sceneId nodeId

end Visit

/-- A visit is dealt with by a backend, which it leaves as another one. -/
inductive Visited (before : Backend) : Visit → Backend → Prop
  | served {Network : Type} {send : Request → Network → Exchange × Network}
      {network later : Network} {call : Call} {answer : Except Mishap HttpAnswer} {after : Backend}
      (came : Backend.serve send call before network = (answer, after, later)) :
      Visited before (.request call answer) after
  | used {tool : Tool} {answer : Except Stop Json} {after : Backend}
      (came : (Backend.use tool).run.run before = (answer, after)) :
      Visited before (.tool tool answer) after

namespace Backend

variable {visit : Visit}

/-- An end that is told from a success is not answered like one. -/
theorem written_misses {outcome : Except Stop Json} (misses : Misses outcome) (body : Json) :
    written outcome ≠ .ok ⟨200, body⟩ := by
  obtain ⟨why, rfl, fails⟩ := misses
  cases why with
  | refused status text =>
    have other : status ≠ 200 := fun same => fails text (by rw [same])
    cases given : obstacle? [.str text] <;> simp [written, given, detail, other]
  | unacceptable first more => simp [written]
  | mishap why => simp [written]

theorem written_breaks {outcome : Except Stop Json} (breaks : Breaks outcome) (given : HttpAnswer) :
    written outcome ≠ .ok given := by
  obtain ⟨why, rfl⟩ := breaks
  exact nofun

/-- A request is answered by the endpoint of its address, if it has one and can be sent. -/
theorem serve_cases {Network : Type} {send : Request → Network → Exchange × Network}
    {network later : Network} {call : Call} {given : Except Mishap HttpAnswer}
    (came : serve send call before network = (given, after, later)) :
    (after = before ∧ (∀ body, given ≠ .ok ⟨200, body⟩) ∧
        ∀ endpoint, Endpoint.find call.method call.path = .ok endpoint →
          ∀ answered, given ≠ .ok answered) ∨
      ∃ endpoint outcome, Endpoint.find call.method call.path = .ok endpoint ∧
        answer send endpoint call.payload before network = (outcome, after, later) ∧
        given = written outcome := by
  unfold serve at came
  split at came
  · cases came
    exact .inl ⟨rfl, nofun, nofun⟩
  · cases came
    exact .inl ⟨rfl, nofun, nofun⟩
  · rename_i nowhere _
    cases came
    exact .inl ⟨rfl, by simp [detail], fun _ found => nomatch nowhere.symm.trans found⟩
  · rename_i nowhere _
    cases came
    exact .inl ⟨rfl, by simp [detail], fun _ found => nomatch nowhere.symm.trans found⟩
  · cases came
    exact .inl ⟨rfl, nofun, nofun⟩
  · rename_i endpoint found _
    split at came
    rename_i outcome _ _ answered
    cases came
    exact .inr ⟨endpoint, outcome, found, answered, rfl⟩

/-- What a tool may do to the standing of its story, any visit by that tool may do. -/
theorem Goes.allowed {used : Tool} {answer : Except Stop Json} {leaves : Live → Prop}
    {slug : String} {deed : Deed} (goes : Goes used.slug used.Begins leaves slug deed)
    (left : ∀ now, leaves now → (Visit.tool used answer).Allows used.slug (.leave now)) :
    (Visit.tool used answer).Allows slug deed := by
  cases deed with
  | takeUp | play | wait => trivial
  | begin => exact ⟨goes.2, goes.1.symm⟩
  | leave now =>
    obtain ⟨rfl, leaves⟩ := goes
    exact left now leaves
  | upload | remove => trivial

/-- What is allowed to an endpoint is allowed to a request for it. -/
theorem allows_request {endpoint : Endpoint} {call : Call} {outcome : Except Stop Json}
    {slug : String} {deed : Deed} (found : Endpoint.find call.method call.path = .ok endpoint)
    (allows : endpoint.Allows (Breaks outcome) slug deed) :
    (Visit.request call (written outcome)).Allows slug deed := by
  cases deed with
  | takeUp | play | wait => trivial
  | begin => exact ⟨endpoint, found, allows⟩
  | leave now => exact .inl fun ⟨given, answered⟩ => written_breaks allows given answered
  | upload | remove => trivial

/-- What every visit comes to. -/
theorem visited_changes (visited : Visited before visit after) (ordered : Ordered before)
    (plain : visit.IsPlain) :
    Changes visit.Allows before after ∧
      ∀ slug, visit.Replaces slug → (after.standing slug).Vacant := by
  cases visited with
  | served came =>
    rcases serve_cases came with ⟨rfl, fails, _⟩ | ⟨endpoint, outcome, found, answered, rfl⟩
    · refine ⟨.refl ordered, ?_⟩
      rintro slug ⟨_, body, success⟩
      exact absurd success (fails body)
    · obtain ⟨changes, replaces⟩ :=
        answer_answers ordered (fun _ => Endpoint.find_slug found) answered
      refine ⟨changes.mono fun _ _ => allows_request found, ?_⟩
      rintro slug ⟨⟨_, found', about⟩, body, success⟩
      cases found.symm.trans found'
      exact (replaces slug about).resolve_left fun misses => written_misses misses body success
  | used came =>
    have ended := (use_ends ordered plain).came came
    refine ⟨?_, fun slug replaces => replaces.elim⟩
    rename_i answer
    cases answer with
    | ok given =>
      refine ended.mono fun _ _ goes => goes.allowed fun now unshown => ?_
      obtain ⟨sceneId, nodeId, viewed, rfl⟩ := unshown
      exact .inr ⟨sceneId, nodeId, ⟨rfl, rfl⟩, viewed⟩
    | error why => exact ended.mono fun _ _ goes => goes.allowed fun _ _ => .inl nofun

/-- Visits that a backend deals with one after the other. -/
inductive Series (first : Backend) : List Visit → Backend → Prop
  | none : Series first [] first
  | next {visits : List Visit} {visit : Visit} {before after : Backend}
      (earlier : Series first visits before) (visited : Visited before visit after) :
      Series first (visits ++ [visit]) after

/-- Without current playthroughs there is nothing to be out of order. -/
theorem ordered_of_idle {first : Backend} (idle : ∀ slug, first.sessions.get? slug = none) :
    Ordered first :=
  ⟨fun slug _ holds => (nomatch (idle slug).symm.trans holds),
    fun slug _ _ holds => (nomatch (idle slug).symm.trans holds)⟩

theorem playing_of_idle {first : Backend} (idle : ∀ slug, first.sessions.get? slug = none)
    (slug : String) : (first.standing slug).playing = none :=
  (ordered_of_idle idle).playing_eq_none.mpr (idle slug)

theorem Series.ordered {first last : Backend} {visits : List Visit}
    (series : Series first visits last) (ordered : Ordered first)
    (plain : ∀ visit ∈ visits, visit.IsPlain) : Ordered last := by
  induction series with
  | none => exact ordered
  | next earlier visited ih =>
    have before := ih fun visit among => plain visit (List.mem_append_left _ among)
    exact (visited_changes visited before (plain _ (by simp))).1.ordered

end Backend

end VisualNovel
