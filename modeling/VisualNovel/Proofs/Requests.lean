import VisualNovel.Proofs.Endings
import VisualNovel.Proofs.Regular
import VisualNovel.Server.Serve

/-! Which deeds the work on a request comes to. Going on with a story takes its playthrough up,
begins a new one if that is what was asked for, and writes every change to the record before
anything else can end the work; a change that is not written is left behind only by a mishap. Each
lemma says this of one piece of work, and what the piece is good for. -/
namespace VisualNovel

/-- Whether work has ended in something that nobody is prepared for. -/
def Stop.IsMishap : Stop → Prop
  | .mishap _ => True
  | .refused _ _ | .unacceptable _ _ => False

/-- Whether an early end is told from a success. -/
def Stop.Fails (why : Stop) : Prop := ∀ text, why ≠ .refused 200 text

namespace Backend

/-- What may be done to the standing of a story in going on with it: a new playthrough is begun only
if that was asked for, and one is left unwritten only under a condition. -/
def Goes (slug : String) (begins : Prop) (leaves : Live → Prop) (other : String) : Deed → Prop
  | .takeUp | .play | .wait => other = slug
  | .begin => other = slug ∧ begins
  | .leave now => other = slug ∧ leaves now
  | .upload | .remove => False

theorem Goes.mono {slug other : String} {begins : Prop} {leaves leaves' : Live → Prop} {deed : Deed}
    (goes : Goes slug begins leaves other deed) (more : ∀ now, leaves now → leaves' now) :
    Goes slug begins leaves' other deed := by
  cases deed with
  | leave now => exact ⟨goes.1, more now goes.2⟩
  | takeUp | begin | play | wait | upload | remove => exact goes

/-- One backend comes from another one by going on with a story, and nothing is left unwritten. -/
def GoneOn (slug : String) (begins : Prop) : Backend → Backend → Prop :=
  Changes (Goes slug begins fun _ => False)

/-- Work at the end of which a backend has gone on with a story since an earlier moment. Nothing is
left unwritten unless the work ends in a mishap. -/
def Works {α : Type} (slug : String) (begins : Prop) (since : Backend) (work : Serving α)
    (before : Backend) (result : α → Backend → Prop) : Prop :=
  Ends work before (fun value after => GoneOn slug begins since after ∧ result value after)
    (fun why after => Changes (Goes slug begins fun _ => why.IsMishap) since after)

variable {α β : Type} {slug : String} {begins : Prop} {since before : Backend} {number : Nat}

theorem GoneOn.stop {why : Stop} (gone : GoneOn slug begins since before) :
    Changes (Goes slug begins fun _ => why.IsMishap) since before :=
  gone.mono fun _ _ goes => goes.mono fun _ => False.elim

namespace Works

variable {work : Serving α} {result middle : α → Backend → Prop}

theorem bind {next : α → Serving β} {result : β → Backend → Prop}
    (first : Works slug begins since work before middle)
    (rest : ∀ value between, GoneOn slug begins since between → middle value between →
      Works slug begins since (next value) between result) :
    Works slug begins since (work >>= next) before result :=
  ends_bind.mpr <| Ends.mono first (fun value between holds => rest value between holds.1 holds.2)
    fun _ _ stop => stop

theorem value {value : α} (gone : GoneOn slug begins since before) (holds : result value before) :
    Works slug begins since (pure value) before result :=
  ⟨gone, holds⟩

theorem stop {why : Stop} (gone : GoneOn slug begins since before) :
    Works slug begins since (throw why : Serving α) before result :=
  gone.stop

end Works

/-! ## Reading -/

section

variable (gone : GoneOn slug begins since before)
include gone

theorem works_get :
    Works slug begins since get before fun value after => before = after ∧ value = before :=
  ⟨gone, rfl, rfl⟩

theorem works_demand {outcome : Except Mishap α} :
    Works slug begins since (demand outcome) before fun value after =>
      before = after ∧ outcome = .ok value :=
  ends_demand.mpr ⟨fun _ came => ⟨gone, rfl, came⟩, fun _ _ => gone.stop⟩

theorem works_look {read : Storage → Except Mishap α} :
    Works slug begins since (look read) before fun value after =>
      before = after ∧ read before.storage = .ok value :=
  ends_look.mpr ⟨fun _ came => ⟨gone, rfl, came⟩, fun _ _ => gone.stop⟩

theorem works_engineOf :
    Works slug begins since (engineOf number) before fun engine after =>
      before = after ∧ before.live[number]? = some ⟨engine, true⟩ :=
  ends_engineOf.mpr ⟨fun _ there => ⟨gone, rfl, there⟩, fun _ => gone.stop⟩

theorem works_expect {expects : Schema.Expects α} {document : Json} :
    Works slug begins since (expect expects document) before fun value after =>
      before = after ∧ expects document = .valid value :=
  ends_expect.mpr ⟨fun _ came => ⟨gone, rfl, came⟩, fun _ _ _ => gone.stop⟩

theorem works_anyEngine :
    Works slug begins since (anyEngine number) before fun engine after =>
      before = after ∧ ∃ live, before.live[number]? = some live ∧ live.engine = engine := by
  unfold anyEngine
  refine (works_get gone).bind ?_
  rintro _ _ _ ⟨rfl, rfl⟩
  split
  · rename_i live there
    exact .value gone ⟨rfl, live, there, rfl⟩
  · exact .stop gone

theorem works_giveUp {fault : Fault} {result : α → Backend → Prop} :
    Works slug begins since (giveUp fault) before result := by
  unfold giveUp
  split
  · exact .stop gone
  · exact .stop gone
  · split <;> exact .stop gone

theorem works_settle {outcome : Except Fault α} :
    Works slug begins since (settle outcome) before fun value after =>
      before = after ∧ outcome = .ok value := by
  cases outcome with
  | ok value => exact .value gone ⟨rfl, rfl⟩
  | error fault => exact works_giveUp gone

/-- A story that is loaded is the one that is stored. -/
theorem works_loadStory : Works slug begins since (loadStory slug) before fun found after =>
    before = after ∧ ∀ story, found = some story → ∃ document, document ≠ .null ∧
      before.storage.story slug = .ok document ∧ Story.ofJson document = .valid story := by
  unfold loadStory
  refine (works_look gone).bind ?_
  rintro document _ _ ⟨rfl, stored⟩
  split
  · exact .value gone ⟨rfl, fun _ found => nomatch found⟩
  · rename_i given
    refine (works_expect gone).bind ?_
    rintro story _ _ ⟨rfl, valid⟩
    refine .value gone ⟨rfl, ?_⟩
    rintro _ ⟨⟩
    exact ⟨document, given, stored, valid⟩

end

/-! ## The current playthrough -/

section

variable {engine : Engine} {done : Unit → Backend → Prop} {stopped : Stop → Backend → Prop}

theorem ends_enroll {done : Nat → Backend → Prop} :
    Ends (enroll slug engine) before done stopped ↔
      done before.live.length (before.enrolled slug engine) := Iff.rfl

theorem ends_replace :
    Ends (replace number engine) before done stopped ↔
      done () (before.placed number ⟨engine, true⟩) := Iff.rfl

theorem ends_persist (there : before.live[number]? = some ⟨engine, true⟩) :
    Ends (persist slug number) before done stopped ↔
      (∀ storage, before.storage.savePlaythrough slug (recordOf engine) = .ok storage →
          done () { before with storage }) ∧
        ∀ why, before.storage.savePlaythrough slug (recordOf engine) = .error why →
          stopped (.mishap why) before := by
  simp only [persist, ends_bind, ends_engineOf, there, Option.some.injEq, Live.mk.injEq, and_true,
    forall_eq', ends_put]
  exact and_iff_left fun other => absurd rfl (other engine)

end

/-- A number is that of the current playthrough of a story, if there is a number at all. -/
def Found (slug : String) (found : Option Nat) (after : Backend) : Prop :=
  ∀ number, found = some number → after.sessions.get? slug = some number

/-- The playthrough in memory is found, or the one in the record taken up. -/
theorem works_getEngine (gone : GoneOn slug begins since before) :
    Works slug begins since (getEngine slug) before (Found slug) := by
  unfold getEngine
  refine (works_get gone).bind ?_
  rintro _ _ _ ⟨rfl, rfl⟩
  split
  · rename_i number holds
    exact .value gone fun _ found => Option.some.inj found ▸ holds
  · rename_i forgotten
    refine (works_look gone).bind ?_
    rintro record _ _ ⟨rfl, kept⟩
    split
    · exact .value gone fun _ found => nomatch found
    · refine (works_loadStory gone).bind ?_
      rintro found _ _ ⟨rfl, loaded⟩
      split
      · exact .value gone fun _ found => nomatch found
      · rename_i story
        obtain ⟨document, _, stored, valid⟩ := loaded story rfl
        split
        · rename_i fields
          split
          · exact .value gone fun _ found => nomatch found
          · rename_i state place
            refine (works_demand gone).bind ?_
            rintro playback _ _ ⟨rfl, heard⟩
            refine (works_demand gone).bind ?_
            rintro background _ _ ⟨rfl, seen⟩
            refine ⟨gone.trans (changes_takenUp gone.ordered rfl forgotten stored valid kept place
              heard seen), ?_⟩
            rintro _ ⟨⟩
            simp
        · exact .stop gone

/-- A playthrough that is begun is written at once: where the story was found its record can be put.
-/
theorem works_newEngine (gone : GoneOn slug begins since before) (plain : IsPlain slug)
    (asked : begins) : Works slug begins since (newEngine slug) before (Found slug) := by
  unfold newEngine
  refine (works_loadStory gone).bind ?_
  rintro found _ _ ⟨rfl, loaded⟩
  split
  · exact .value gone fun _ found => nomatch found
  · rename_i story
    obtain ⟨document, given, stored, valid⟩ := loaded story rfl
    refine (works_look gone).bind ?_
    rintro config _ _ ⟨rfl, _⟩
    refine (works_demand gone).bind ?_
    rintro playback _ _ ⟨rfl, _⟩
    dsimp only
    split
    · exact .stop gone
    · have same : (Engine.begin story playback none).engine.story = story :=
        (Engine.entry_follows (Engine.enter_entry _)).story
      have there : (before.enrolled slug (Engine.begin story playback none).engine).live[
          before.live.length]? = some ⟨(Engine.begin story playback none).engine, true⟩ := by
        simp [enrolled]
      obtain ⟨_, written⟩ :=
        Storage.write_of_suits plain (Storage.story_suits plain stored given) (recordOf _)
      refine ends_bind.mpr (ends_enroll.mpr (ends_bind.mpr ((ends_persist there).mpr ⟨?_, ?_⟩)))
      · intro storage saved
        refine ⟨gone.trans ?_, ?_⟩
        · exact changes_begun gone.ordered plain ⟨rfl, asked⟩ stored (same.symm ▸ valid) saved
        · rintro _ ⟨⟩
          simp [enrolled]
      · intro why failed
        cases written.symm.trans failed

/-- The current playthrough of a story that is there. -/
theorem works_current (gone : GoneOn slug begins since before) :
    Works slug begins since (current slug) before fun number after =>
      after.sessions.get? slug = some number := by
  unfold current
  refine (works_look gone).bind ?_
  rintro document _ _ ⟨rfl, _⟩
  split
  · exact .stop gone
  · refine (works_getEngine gone).bind ?_
    intro found between gone found_
    split
    · exact .value gone (found_ _ rfl)
    · exact .stop gone

/-! ## Changing a playthrough -/

section

variable (gone : GoneOn slug begins since before) (plain : IsPlain slug)
  (holds : before.sessions.get? slug = some number) {engine now : Engine} {live : Live}
include gone holds

/-- A change that is not written is left behind by a mishap, unless there is nothing to write. -/
theorem changes_stopped {why : Stop} (there : before.live[number]? = some ⟨engine, true⟩)
    (story : now.story = engine.story) (refused : ¬ why.IsMishap → engine.SameRecord now) :
    Changes (Goes slug begins fun _ => why.IsMishap) since
      (before.placed number ⟨now, true⟩) := by
  refine gone.stop.trans ?_
  by_cases mishap : why.IsMishap
  · exact changes_left gone.ordered ⟨rfl, mishap⟩ holds there story
  · exact changes_waited gone.ordered rfl holds there (refused mishap)

include plain

/-- A change that is written is a change played. -/
theorem works_persist (there : before.live[number]? = some live)
    (story : now.story = live.engine.story) :
    Works slug begins since (persist slug number) (before.placed number ⟨now, true⟩)
      fun _ _ => True := by
  obtain ⟨bound, _⟩ := List.getElem?_eq_some_iff.mp there
  have there' : (before.placed number ⟨now, true⟩).live[number]? = some ⟨now, true⟩ := by
    simp [placed, bound]
  refine (ends_persist there').mpr ⟨fun storage saved => ?_, fun why _ => ?_⟩
  · exact ⟨gone.trans (changes_played gone.ordered plain rfl holds there story saved), trivial⟩
  · exact gone.stop.trans (changes_left gone.ordered ⟨rfl, trivial⟩ holds there story)

/-- A change is written before it is shown. -/
theorem works_present (there : before.live[number]? = some live)
    (story : now.story = live.engine.story) :
    Works slug begins since (present slug number) (before.placed number ⟨now, true⟩)
      fun _ _ => True := by
  refine (works_persist gone plain holds there story).bind fun _ between gone _ => ?_
  refine (works_engineOf gone).bind ?_
  rintro engine _ _ ⟨rfl, _⟩
  refine (works_settle gone).bind ?_
  rintro view _ _ ⟨rfl, _⟩
  exact .value gone trivial

theorem works_presented (there : before.live[number]? = some live)
    (story : now.story = live.engine.story) :
    Works slug begins since (presented slug number) (before.placed number ⟨now, true⟩)
      fun _ _ => True :=
  ends_map.mpr (works_present gone plain holds there story)

/-- A playthrough is written every time that it is shown. -/
theorem works_presented_again :
    Works slug begins since (presented slug number) before fun _ _ => True := by
  by_cases intact : ∃ engine, before.live[number]? = some ⟨engine, true⟩
  · obtain ⟨engine, there⟩ := intact
    have works := works_presented gone plain holds there (rfl : engine.story = engine.story)
    rwa [placed_self there] at works
  · refine ends_map.mpr (ends_bind.mpr (ends_bind.mpr (Ends.mono (works_engineOf gone) ?_ ?_)))
    · exact fun engine _ found => absurd ⟨engine, found.2.2⟩ intact
    · exact fun _ _ stop => stop

end

/-- What keeps an action from being carried out is a refusal or a mishap. -/
theorem ends_giveUp {fault : Fault} {done : α → Backend → Prop} {stopped : Stop → Backend → Prop}
    (ends : ∀ why : Stop, (¬ why.IsMishap → fault.isRefusal = true) → stopped why before) :
    Ends (giveUp fault) before done stopped := by
  unfold giveUp
  split
  · exact ends _ fun _ => rfl
  · exact ends _ fun _ => rfl
  · split
    · rename_i refusal
      exact ends _ fun _ => refusal
    · exact ends _ fun harmless => absurd trivial harmless

/-- A regular action changes the playthrough if it is carried out, and only then. -/
theorem perform_ends {action : Engine → Turn α} (gone : GoneOn slug begins since before)
    (holds : before.sessions.get? slug = some number) (regular : Engine.Regular action) :
    Ends (perform number action) before
      (fun value after => ∃ engine, before.live[number]? = some ⟨engine, true⟩ ∧
        (action engine).outcome = .ok value ∧
        after = before.placed number ⟨(action engine).engine, true⟩)
      (fun why after => Changes (Goes slug begins fun _ => why.IsMishap) since after) := by
  refine ends_bind.mpr (Ends.mono (works_engineOf gone) ?_ fun _ _ stop => stop)
  rintro engine _ ⟨_, rfl, there⟩
  refine ends_bind.mpr (ends_replace.mpr ?_)
  cases came : (action engine).outcome with
  | ok value => exact ⟨engine, there, came, rfl⟩
  | error fault =>
    refine ends_giveUp fun why harmless => ?_
    refine changes_stopped gone holds there (regular.story engine) fun mild => ?_
    rw [regular.refuses engine fault came (harmless mild)]
    exact .refl engine

section

variable (gone : GoneOn slug begins since before)
include gone

theorem works_feedback : Works slug begins since (feedback slug) before fun _ _ => True := by
  refine (works_current gone).bind fun number between gone _ => ?_
  exact (works_engineOf gone).bind fun _ _ gone _ => .value gone trivial

/-- What is saved apart has nothing to do with the record. -/
theorem works_save : Works slug begins since (save slug) before fun _ _ => True := by
  refine (works_current gone).bind fun number between gone _ => ?_
  refine (works_engineOf gone).bind ?_
  rintro engine between gone ⟨rfl, _⟩
  refine ends_bind.mpr (ends_put.mpr ⟨fun storage saved => ?_, fun why _ => gone.stop⟩)
  have same := Storage.write_same Storage.savesFolder_plain Storage.slot_plain saved
  exact ⟨gone.trans (changes_noted gone.ordered same (by decide) (by decide) (by decide)), trivial⟩

/-- A state that is loaded is still to be written. -/
theorem loadState_ends {state : Json} (holds : before.sessions.get? slug = some number) :
    Ends (loadState number state) before
      (fun _ after => ∃ (live : Live) (now : Engine), before.live[number]? = some live ∧
        now.story = live.engine.story ∧ after = before.placed number ⟨now, true⟩)
      (fun why after => Changes (Goes slug begins fun _ => why.IsMishap) since after) := by
  unfold loadState
  split
  · refine ends_bind.mpr (Ends.mono (works_anyEngine gone) ?_ fun _ _ stop => stop)
    rintro _ _ ⟨gone, rfl, live, there, rfl⟩
    unfold Engine.loadDocument
    split
    · rename_i loaded
      split at loaded
      · cases loaded
        exact ends_replace.mpr ⟨live, _, there, (live.engine.load_loaded _).story, rfl⟩
      · cases loaded
    · exact gone.stop
  · refine ends_bind.mpr (ends_bind.mpr (Ends.mono (works_anyEngine gone) ?_ fun _ _ stop => stop))
    rintro _ _ ⟨gone, rfl, live, there, rfl⟩
    exact gone.stop.trans (changes_left gone.ordered ⟨rfl, trivial⟩ holds there rfl)

variable (plain : IsPlain slug)
include plain

/-- An action that is carried out is written. -/
theorem works_act {action : Engine → Turn Unit} (regular : Engine.Regular action) :
    Works slug begins since (act slug action) before fun _ _ => True := by
  refine (works_current gone).bind fun number between gone holds => ?_
  refine ends_bind.mpr ((perform_ends gone holds regular).mono ?_ fun _ _ stop => stop)
  rintro _ _ ⟨engine, there, _, rfl⟩
  exact works_presented gone plain holds there (regular.story engine)

theorem works_play (asked : begins) :
    Works slug begins since (play slug) before fun _ _ => True := by
  refine (works_newEngine gone plain asked).bind fun found between gone held => ?_
  split
  · exact .stop gone
  · exact works_presented_again gone plain (held _ rfl)

theorem works_watch : Works slug begins since (watch slug) before fun _ _ => True :=
  (works_current gone).bind fun _ _ gone holds => works_presented_again gone plain holds

/-- Beginning again empties the save slot before the new game is written. -/
theorem works_restart : Works slug begins since (restart slug) before fun _ _ => True := by
  refine (works_current gone).bind fun number between gone holds => ?_
  refine (works_anyEngine gone).bind ?_
  rintro engine _ gone ⟨rfl, live, there, rfl⟩
  have story := live.engine.restart_story
  refine ends_bind.mpr (ends_replace.mpr (ends_bind.mpr ?_))
  cases came : live.engine.restart.outcome with
  | error fault =>
    cases Engine.restart_outcome came
    exact gone.stop.trans (changes_left gone.ordered ⟨rfl, trivial⟩ holds there story)
  | ok value =>
    refine ends_bind.mpr (ends_keep.mpr ⟨fun _ storage removed => ?_, fun why _ => ?_⟩)
    · have same := Storage.remove_same Storage.savesFolder_plain Storage.slot_plain removed
      have gone : GoneOn slug begins since { between with storage } :=
        gone.trans (changes_noted gone.ordered same (by decide) (by decide) (by decide))
      exact works_presented gone plain holds there story
    · exact gone.stop.trans (changes_left gone.ordered ⟨rfl, trivial⟩ holds there story)

/-- A playthrough to load into is taken up if need be, or else begun. -/
theorem works_currentOrNew (asked : begins) :
    Works slug begins since (currentOrNew slug) before fun number after =>
      after.sessions.get? slug = some number := by
  refine (works_getEngine gone).bind fun found between gone held => ?_
  split
  · exact .value gone (held _ rfl)
  · refine (works_newEngine gone plain asked).bind fun found between gone held => ?_
    split
    · exact .value gone (held _ rfl)
    · exact .stop gone

theorem works_loadInto (asked : begins) (state : Json) :
    Works slug begins since
      (do
        let number ← currentOrNew slug
        loadState number state
        presented slug number) before fun _ _ => True := by
  refine (works_currentOrNew gone plain asked).bind fun number between gone holds => ?_
  refine ends_bind.mpr ((loadState_ends gone holds).mono ?_ fun _ _ stop => stop)
  rintro _ _ ⟨live, now, there, story, rfl⟩
  exact works_presented gone plain holds there story

/-- The slot is loaded only into the story that it belongs to. -/
theorem works_load (asked : begins) :
    Works slug begins since (load slug) before fun _ _ => True := by
  unfold load
  refine (works_look gone).bind ?_
  rintro snapshot _ _ ⟨rfl, _⟩
  split
  · exact .stop gone
  · refine (works_demand gone).bind ?_
    rintro fields _ _ ⟨rfl, _⟩
    dsimp only
    -- Whoever the slot belongs to, what follows is the same.
    split
    · split
      · exact works_loadInto gone plain asked _
      · exact ends_bind.mpr gone.stop
    · exact ends_bind.mpr gone.stop

end

/-! ## Responses -/

theorem ends_giveUpResponse {fault : ResponseFault} {done : α → Backend → Prop}
    {stopped : Stop → Backend → Prop}
    (ends : ∀ why : Stop, (¬ why.IsMishap → fault.isRefusal = true) → stopped why before) :
    Ends (giveUpResponse fault) before done stopped := by
  unfold giveUpResponse
  split
  · exact ends_giveUp ends
  · exact ends _ fun _ => rfl
  · exact ends _ fun _ => rfl
  · exact ends _ fun harmless => absurd trivial harmless

section

variable (gone : GoneOn slug begins since before)
include gone

/-- A response is opened in the current playthrough, and nothing is written. -/
theorem works_openResponse {value : String} :
    Works slug begins since (openResponse slug value) before fun inFlight after =>
      after.sessions.get? slug = some inFlight.number := by
  refine (works_current gone).bind fun number between gone holds => ?_
  refine (works_look gone).bind ?_
  rintro config _ _ ⟨rfl, _⟩
  refine (works_get gone).bind ?_
  rintro _ _ _ ⟨rfl, rfl⟩
  refine (works_demand gone).bind ?_
  rintro setup _ _ ⟨rfl, _⟩
  have regular := Engine.regular_openResponse setup.grader value
  refine ends_bind.mpr ((perform_ends gone holds regular).mono ?_ fun _ _ stop => stop)
  rintro _ _ ⟨engine, there, _, rfl⟩
  have same := engine.openResponse_same setup.grader value
  exact ⟨gone.trans (changes_waited gone.ordered rfl holds there same), holds⟩

/-- A response that is closed in time, while its playthrough is the current one, is written. -/
theorem works_closeResponse {inFlight : InFlight} {outcome : Except GradingFailure GradingResult}
    (plain : IsPlain slug) (inTime : before.sessions.get? slug = some inFlight.number) :
    Works slug begins since (closeResponse slug inFlight outcome) before fun _ _ => True := by
  refine (works_get gone).bind ?_
  rintro _ _ _ ⟨rfl, rfl⟩
  dsimp only
  split
  · refine ends_bind.mpr (Ends.mono (works_engineOf gone) ?_ fun _ _ stop => stop)
    rintro engine _ ⟨_, rfl, there⟩
    obtain ⟨story, same⟩ := engine.closeResponse_same inFlight.ticket outcome
    generalize engine.closeResponse inFlight.ticket outcome = closed at story same
    obtain ⟨outcome, now⟩ := closed
    refine ends_bind.mpr (ends_replace.mpr ?_)
    cases outcome with
    | error fault =>
      refine ends_giveUpResponse fun why harmless => ?_
      exact changes_stopped gone inTime there story fun mild => same fault rfl (harmless mild)
    | ok result =>
      refine (works_present gone plain inTime there story).bind fun fields _ gone _ => ?_
      exact .value gone trivial
  · split
    · exact ends_giveUpResponse fun why _ => gone.stop
    · exact .stop gone

theorem works_finishedGame :
    Works slug begins since (finishedGame slug) before fun _ _ => True := by
  refine (works_current gone).bind fun number between gone holds => ?_
  refine (works_look gone).bind ?_
  rintro config _ _ ⟨rfl, _⟩
  refine (works_get gone).bind ?_
  rintro _ _ _ ⟨rfl, rfl⟩
  refine (works_demand gone).bind ?_
  rintro connection _ _ ⟨rfl, _⟩
  refine (works_engineOf gone).bind ?_
  rintro engine _ _ ⟨rfl, _⟩
  exact .value gone trivial

theorem works_concludeGame {outcome : Except RecommendationsFailure Recommendations} :
    Works slug begins since (concludeGame outcome) before fun _ _ => True := by
  unfold concludeGame
  split
  · exact .value gone trivial
  · exact .stop gone
  · exact .stop gone

end

theorem ends_payloadAs {payload : Payload} {expects : Schema.Expects α}
    {done : α → Backend → Prop} {stopped : Stop → Backend → Prop}
    (goes : ∀ value, done value before)
    (stops : ∀ why, payload.expect expects = .error why → stopped why before) :
    Ends (payloadAs payload expects) before done stopped := by
  unfold payloadAs
  split
  · rename_i value _
    exact goes value
  · rename_i why came
    exact stops why came

/-! ## Stories -/

/-- What may be done to the standing of a story by a single deed. -/
def Only (slug : String) (deed : Deed) (other : String) (done : Deed) : Prop :=
  other = slug ∧ done = deed

/-- A body that is turned down is not answered with a success. -/
theorem payload_fails {payload : Payload} {expects : Schema.Expects α} {why : Stop}
    (stopped : payload.expect expects = .error why) : Stop.Fails why := by
  rcases Outcome.bind_eq_error.mp stopped with unread | ⟨given, _, unfit⟩
  · cases payload with
    | nothing => cases unread
    | document value => cases value <;> cases unread
    | text content =>
      simp only [Payload.read] at unread
      split at unread
      · cases unread
      · split at unread
        · cases unread
        · cases unread
        · split at unread <;> cases unread <;> exact nofun
  · cases given with
    | none =>
      cases unfit
      exact nofun
    | some given =>
      dsimp only at unfit
      split at unfit
      · cases unfit
      · split at unfit <;> cases unfit <;> exact nofun

section

variable (ordered : Ordered before) (plain : IsPlain slug)
include ordered plain

/-- A story that is uploaded takes the place of any other, and is without a playthrough. -/
theorem uploadStory_ends {fields : List (String × Json)} (named : slug ≠ "") :
    Ends (uploadStory slug fields) before
      (fun _ after => Changes (Only slug .upload) before after ∧ (after.standing slug).Vacant)
      (fun why after => before = after ∧ Stop.Fails why) := by
  unfold uploadStory
  split
  · exact ⟨rfl, nofun⟩
  · rename_i story valid
    refine ends_bind.mpr (ends_keep.mpr ⟨fun _ first saved => ?_, fun why _ => ⟨rfl, nofun⟩⟩)
    have written : before.storage.write Storage.storiesFolder slug (.obj fields) = .ok first := by
      simp only [Storage.saveStory, nonempty?, named, ↓reduceIte, Outcome.bind_eq_ok,
        Outcome.pure_eq_ok, Prod.mk.injEq] at saved
      obtain ⟨_, rfl, _, written, _, rfl⟩ := saved
      exact written
    have suits := Storage.suits_of_write plain written
    refine ends_bind.mpr (ends_bind.mpr (ends_keep.mpr ⟨fun found storage removed => ?_, ?_⟩))
    · exact changes_uploaded ordered plain ⟨rfl, rfl⟩ valid written removed
    · intro why failed
      obtain ⟨_, _, removed⟩ := Storage.remove_of_suits plain suits
      cases removed.symm.trans failed

/-- A story is removed together with its playthrough, if it can be removed. -/
theorem deleteStory_ends :
    Ends (deleteStory slug) before
      (fun _ after => Changes (Only slug .remove) before after ∧ (after.standing slug).Vacant)
      (fun why after => before = after ∧ Stop.Fails why) := by
  unfold deleteStory
  refine ends_bind.mpr (ends_keep.mpr ⟨fun found first deleted => ?_, fun why _ => ⟨rfl, nofun⟩⟩)
  rcases Storage.remove_cases deleted with ⟨path, _, leads, _, rfl, _⟩ | ⟨_, rfl, rfl⟩
  · have suits := ((Directory.path?_plain_eq_ok plain).mp leads).1
    refine ends_bind.mpr (ends_bind.mpr (ends_keep.mpr ⟨fun found storage removed => ?_, ?_⟩))
    · exact changes_removed ordered plain ⟨rfl, rfl⟩ deleted removed
    · intro why failed
      obtain ⟨_, _, removed⟩ := Storage.remove_of_suits plain suits
      cases removed.symm.trans failed
  · exact ⟨rfl, nofun⟩

end

/-! ## Settings -/

/-- Settings are kept apart from stories and from playthroughs. -/
theorem works_changeSettings {changes : List (String × Json)}
    (gone : GoneOn slug begins since before) :
    Works slug begins since (changeSettings changes) before fun _ _ => True := by
  refine ends_bind.mpr (ends_keep.mpr ⟨fun config storage updated => ?_, fun _ _ => gone.stop⟩)
  have same := Storage.updateConfig_same updated
  exact ⟨gone.trans (changes_noted gone.ordered same (by decide) (by decide) (by decide)), trivial⟩

/-! ## Tools -/

/-- A playthrough that is left unwritten because the player is nowhere, which is complained of. -/
def Unshown (answer : Json) (now : Live) : Prop :=
  ∃ sceneId nodeId, now.IsLost sceneId nodeId ∧
    answer = complaint (Fault.nodeNotFound sceneId nodeId).message

theorem ends_complainOf {fault : Fault} {done : Json → Backend → Prop}
    {stopped : Stop → Backend → Prop}
    (complains : fault.isRefusal = true → done (complaint fault.message) before)
    (fails : fault.isRefusal = false → stopped (.mishap (.fault fault)) before) :
    Ends (complainOf fault) before done stopped := by
  unfold complainOf
  split
  · rename_i refusal
    exact complains refusal
  · rename_i failure
    exact fails (by simpa using failure)

section

variable (gone : GoneOn slug begins since before) (plain : IsPlain slug)
include gone plain

/-- A tool writes only what it can show. -/
theorem useTool_ends {action : Engine → Turn Unit} (regular : Engine.Regular action) :
    Ends (useTool slug action) before
      (fun answer after => Changes (Goes slug begins (Unshown answer)) since after)
      (fun why after => Changes (Goes slug begins fun _ => why.IsMishap) since after) := by
  refine ends_bind.mpr (Ends.mono (works_getEngine gone) ?_ fun _ _ stop => stop)
  rintro found between ⟨gone, held⟩
  cases found with
  | none => exact gone.stop
  | some number =>
    have holds := held number rfl
    refine ends_bind.mpr (Ends.mono (works_engineOf gone) ?_ fun _ _ stop => stop)
    rintro engine _ ⟨_, rfl, there⟩
    have story := regular.story engine
    refine ends_bind.mpr (ends_replace.mpr ?_)
    have left (why : Mishap) : Changes (Goes slug begins fun _ => (Stop.mishap why).IsMishap) since
        (between.placed number ⟨(action engine).engine, true⟩) :=
      gone.stop.trans (changes_left gone.ordered ⟨rfl, trivial⟩ holds there story)
    cases came : (action engine).outcome with
    | error fault =>
      refine ends_complainOf (fun refusal => ?_) fun _ => left _
      rw [regular.refuses engine fault came refusal, placed_self there]
      exact gone.mono fun _ _ goes => goes.mono fun _ => False.elim
    | ok value =>
      cases viewed : (action engine).engine.view with
      | error fault =>
        refine ends_complainOf (fun refusal => ?_) fun _ => left _
        obtain ⟨sceneId, nodeId, rfl⟩ := Engine.view_refused viewed refusal
        refine (gone.mono fun _ _ goes => goes.mono fun _ => False.elim).trans ?_
        exact changes_left gone.ordered ⟨rfl, sceneId, nodeId, ⟨rfl, viewed⟩, rfl⟩ holds there story
      | ok view =>
        refine ends_bind.mpr (Ends.mono (works_persist gone plain holds there story) ?_ ?_)
        · exact fun _ _ written => written.1.mono fun _ _ goes => goes.mono fun _ => False.elim
        · exact fun _ _ stop => stop

end


end Backend

/-- The story that a tool is used on. -/
def Tool.slug : Tool → String
  | startStory slug _ | viewNode slug | advance slug | choose slug _ | submitText slug _ => slug

/-- Whether a tool begins a new playthrough. -/
def Tool.Begins : Tool → Prop
  | startStory _ _ => True
  | viewNode _ | advance _ | choose _ _ | submitText _ _ => False

namespace Backend

theorem use_ends {tool : Tool} (ordered : Ordered before) (plain : IsPlain tool.slug) :
    Ends (use tool) before
      (fun answer after => Changes (Goes tool.slug tool.Begins (Unshown answer)) before after)
      (fun why after =>
        Changes (Goes tool.slug tool.Begins fun _ => why.IsMishap) before after) := by
  have gone {begins : Prop} : GoneOn tool.slug begins before before := .refl ordered
  cases tool with
  | startStory slug playerName =>
    refine ends_bind.mpr (Ends.mono (works_newEngine gone plain trivial) ?_ fun _ _ stop => stop)
    rintro found between ⟨gone, _⟩
    cases found with
    | none => exact gone.mono fun _ _ goes => goes.mono fun _ => False.elim
    | some number => exact useTool_ends gone plain (Engine.regular_startUnlessStarted playerName)
  | viewNode slug => exact useTool_ends gone plain Engine.regular_done
  | advance slug => exact useTool_ends gone plain Engine.regular_advance
  | choose slug choiceId => exact useTool_ends gone plain (Engine.regular_choose choiceId)
  | submitText slug value => exact useTool_ends gone plain (Engine.regular_submit value)

end Backend

end VisualNovel
