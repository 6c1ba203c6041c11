import VisualNovel.Proofs.Playing
import VisualNovel.Proofs.Reloading
import VisualNovel.Proofs.Scripts
import VisualNovel.Proofs.Showing
import VisualNovel.Proofs.Watching

/-! The save slot as one register for all stories. Saving overwrites it with a story and a state,
beginning again empties it, and nothing else that is asked for reaches it, whatever is done to
stories, to playthroughs and to their records. So what is loaded can be told from the requests
alone. -/
namespace VisualNovel

open Storage

/-- What has been saved of a story, if anything: the name of the story and the state. -/
abbrev Saved := Option (String × GameState)

/-- A request that has been answered, with the backend that it has left behind. -/
structure Moment where
  call : Call
  given : HttpAnswer
  after : Backend

/-- What a register holds after a moment. A story that is saved takes the place of whatever was
there, and one that is begun again, as far as it was being played, leaves nothing there. -/
def Moment.overwrite (held : Saved) (moment : Moment) : Saved :=
  match Endpoint.find moment.call.method moment.call.path with
  | .ok (.here (.play slug .save)) =>
    if moment.given.status = 200 then
      (moment.after.standing slug).playing.map fun live => (slug, live.engine.state)
    else held
  | .ok (.here (.play _ .restart)) => if moment.given.status = 404 then held else none
  | _ => held

/-- What a register holds after some moments; at first it holds nothing. -/
def register (moments : List Moment) : Saved := moments.foldl Moment.overwrite none

theorem register_snoc (moments : List Moment) (moment : Moment) :
    register (moments ++ [moment]) = moment.overwrite (register moments) := by
  simp [register]

namespace Backend

variable {before after first : Backend} {slug : String} {number : Nat} {held : Saved}
  {saved : GameState} {document : Json} {call : Call} {given : HttpAnswer} {moments : List Moment}

/-- Requests that a backend answers one after the other. -/
inductive Course (first : Backend) : List Moment → Backend → Prop
  | begun : Course first [] first
  | next {moments : List Moment} {before after : Backend} {call : Call} {given : HttpAnswer}
      (earlier : Course first moments before)
      (visited : Visited before (.request call (.ok given)) after) :
      Course first (moments ++ [⟨call, given, after⟩]) after

/-- The visits of a course. -/
def visitsOf (moments : List Moment) : List Visit :=
  moments.map fun moment => .request moment.call (.ok moment.given)

theorem Course.series (course : Course first moments before) :
    Series first (visitsOf moments) before := by
  induction course with
  | begun => exact .none
  | next earlier visited ih =>
    simp only [visitsOf, List.map_append, List.map_cons, List.map_nil] at ih ⊢
    exact ih.next visited

theorem visitsOf_plain : ∀ visit ∈ visitsOf moments, visit.IsPlain := by
  intro visit among
  obtain ⟨moment, _, rfl⟩ := List.mem_map.mp among
  exact trivial

/-! ## The slot -/

/-- What the slot holds when the register holds the same. -/
def slotOf : Saved → Json
  | none => .null
  | some (owner, saved) => snapshotOf owner (saved.toJson .authored)

/-- The slot is as it was. -/
def SameSlot (before after : Backend) : Prop := after.storage.snapshot = before.storage.snapshot

theorem snapshot_same {folder : List String} {name : String} {before after : Storage}
    (same : SameBesides folder name before after) (apart : savesFolder ≠ folder) :
    after.snapshot = before.snapshot := by
  simp only [snapshot, Storage.read, same _ _ savesFolder_plain slot_plain (by simp [apart])]

/-- Records are kept in another folder. -/
theorem playing_sameSlot (plain : IsPlain slug) : Playing slug SameSlot where
  refl _ := rfl
  trans first second := second.trans first
  placed _ _ _ := rfl
  enrolled _ _ := rfl
  recorded saved :=
    snapshot_same (write_same playthroughsFolder_plain plain saved) (by decide)

/-- So are stories and settings. -/
theorem tending_sameSlot (named : IsPlain slug ∧ slug ≠ "") : Tending slug SameSlot where
  toPlaying := playing_sameSlot named.1
  uploaded saved := by
    simp only [saveStory, nonempty?, named.2, ↓reduceIte, Outcome.bind_eq_ok,
      Outcome.pure_eq_ok, Prod.mk.injEq] at saved
    obtain ⟨_, rfl, _, written, _, rfl⟩ := saved
    exact snapshot_same (write_same storiesFolder_plain named.1 written) (by decide)
  removed removed :=
    snapshot_same (remove_same storiesFolder_plain named.1 removed) (by decide)
  dropped _ := rfl
  cleared removed :=
    snapshot_same (remove_same playthroughsFolder_plain named.1 removed) (by decide)
  set updated := snapshot_same (updateConfig_same updated) (by decide)

/-- The slot holds what has been saved, and the playthrough that it was saved from is there. -/
theorem save_ends (ordered : Ordered before) (plain : IsPlain slug) :
    Ends (save slug) before
      (fun _ after => ∃ engine, (after.standing slug).playing = some ⟨engine, true⟩ ∧
        after.storage.snapshot = .ok (slotOf (some (slug, engine.state))))
      (fun _ after => SameSlot before after) := by
  have gone : GoneOn slug False before before := .refl ordered
  have same := keeps_current (playing_sameSlot plain) before
  refine ends_bind.mpr (((works_current gone).and same).mono ?_ fun _ _ => And.right)
  rintro number between ⟨⟨_, holds⟩, same⟩
  refine ends_bind.mpr (ends_engineOf.mpr ⟨fun engine there => ?_, fun _ => same⟩)
  refine ends_bind.mpr (ends_put.mpr ⟨fun storage saved => ?_, fun _ _ => same⟩)
  exact ⟨engine, (playing_eq holds).trans there, read_write saved⟩

/-- What is refused for want of a playthrough has not been begun again; anything else leaves the
slot empty. -/
theorem restart_ends (plain : IsPlain slug) :
    Ends (restart slug) before (fun _ after => after.storage.snapshot = .ok (slotOf none))
      (fun why after => (why.Among [404] ∧ SameSlot before after) ∨
        (why.Among [409] ∧ after.storage.snapshot = .ok (slotOf none))) := by
  have playing := playing_sameSlot plain
  refine ends_bind.mpr (((refusedWith_current (by decide) before).and
    (keeps_current playing before)).mono ?_ fun _ _ => .inl)
  rintro number found ⟨_, same⟩
  refine ends_bind.mpr (((refusedWith_anyEngine found).and (keeps_anyEngine playing found)).mono ?_
    fun _ _ stop => .inl ⟨stop.1, stop.2.trans same⟩)
  rintro engine between ⟨_, same'⟩
  have same : SameSlot before between := same'.trans same
  refine ends_bind.mpr (ends_replace.mpr (ends_bind.mpr ?_))
  refine ((refusedWith_beginAgain _).and (keeps_settle playing _)).mono ?_
    fun _ _ stop => .inl ⟨stop.1, stop.2.trans same⟩
  rintro _ again ⟨_, same'⟩
  have same : SameSlot before again := same'.trans same
  refine ends_bind.mpr (ends_keep.mpr
    ⟨fun _ storage removed => ?_, fun _ _ => .inl ⟨trivial, same⟩⟩)
  have empty : storage.snapshot = .ok .null := by
    simp only [snapshot, Storage.read, file?_remove slot_plain removed]
    rfl
  exact ((refusedWith_presented (by decide) _).and (keeps_presented playing _)).mono
    (fun _ _ shown => shown.2.trans empty) fun _ _ stop => .inr ⟨stop.1, stop.2.trans empty⟩

/-- The slot holds what the register holds, from one answer to the next. -/
theorem request_slot (ordered : Ordered before)
    (visited : Visited before (.request call (.ok given)) after)
    (holds : before.storage.snapshot = .ok (slotOf held)) :
    after.storage.snapshot = .ok (slotOf (Moment.overwrite held ⟨call, given, after⟩)) := by
  unfold Moment.overwrite
  dsimp only
  split
  · rename_i slug found
    have plain := (Endpoint.find_slug found rfl).1
    obtain ⟨outcome, came, answered⟩ := request_answered visited found
    have ended := ((save_ends ordered plain).and (refusedWith_save before)).came came
    rcases written_cases answered with ⟨body, rfl, rfl⟩ | ⟨why, rfl, _, told⟩
    · obtain ⟨⟨engine, playing, kept⟩, _⟩ := ended
      simpa [playing] using kept
    · have missing : given.status = 404 := List.mem_singleton.mp (told _ ended.2)
      simpa [missing] using ended.1.trans holds
  · rename_i slug found
    have plain := (Endpoint.find_slug found rfl).1
    obtain ⟨outcome, came, answered⟩ := request_answered visited found
    have ended := (restart_ends plain).came came
    rcases written_cases answered with ⟨body, rfl, rfl⟩ | ⟨why, rfl, _, told⟩
    · exact ended
    · rcases ended with ⟨refused, same⟩ | ⟨refused, empty⟩
      · have missing : given.status = 404 := List.mem_singleton.mp (told _ refused)
        simpa [missing] using same.trans holds
      · have stuck : given.status = 409 := List.mem_singleton.mp (told _ refused)
        simpa [stuck] using empty
  · rename_i other other'
    refine (?_ : SameSlot before after).trans holds
    refine request_keeps (fun slug named => tending_sameSlot named) visited ?_
    intro slug action found writes
    cases action with
    | save => exact absurd found (other slug)
    | restart => exact absurd found (other' slug)
    | _ => exact writes.elim

/-- Requests reach the slot only through the register. -/
theorem Course.slot (idle : ∀ slug, first.sessions.get? slug = none)
    (empty : first.storage.snapshot = .ok .null) (course : Course first moments before) :
    before.storage.snapshot = .ok (slotOf (register moments)) := by
  induction course with
  | begun => exact empty
  | next earlier visited ih =>
    rw [register_snoc]
    exact request_slot (earlier.series.ordered (ordered_of_idle idle) visitsOf_plain) visited ih

/-! ## Loading -/

theorem load_nothing (holds : before.storage.snapshot = .ok (slotOf none)) :
    Ends (load slug) before (fun _ _ => False)
      (fun why after => why = .refused 404 "No save data found" ∧ after = before) := by
  refine ends_bind.mpr (ends_look.mpr ⟨fun value came => ?_, fun why failed => ?_⟩)
  · cases holds.symm.trans came
    exact ⟨rfl, rfl⟩
  · cases holds.symm.trans failed

theorem load_foreign {owner : String} (foreign : owner ≠ slug)
    (holds : before.storage.snapshot = .ok (slotOf (some (owner, saved)))) :
    Ends (load slug) before (fun _ _ => False)
      (fun why after =>
        why = .refused 409 ("The save slot belongs to story " ++ Text.quoted owner) ∧
          after = before) := by
  refine ends_bind.mpr (ends_look.mpr ⟨fun value came => ?_, fun why failed => ?_⟩)
  · cases holds.symm.trans came
    refine ends_bind.mpr (ends_demand.mpr ⟨fun fields given => ?_, nofun⟩)
    cases given
    simp only [Json.lookup?, ↓reduceIte, Option.getD_some, foreign]
    exact ⟨rfl, rfl⟩
  · cases holds.symm.trans failed

/-- Going on with a story leaves its document in place. -/
theorem GoneOn.story {begins : Prop} (gone : GoneOn slug begins before after)
    (plain : IsPlain slug) : after.storage.story slug = before.storage.story slug := by
  have keeps {earlier later : Standing} {deed : Deed}
      (may : Goes slug begins (fun _ => False) slug deed) (step : earlier.Step deed later)
      (same : earlier.script = before.storage.story slug) :
      later.script = before.storage.story slug := by
    cases step with
    | uploaded | removed => exact may.elim
    | takenUp | begun | played | waited | left => exact same
  exact (gone.moves slug plain).keeps keeps rfl

theorem currentOrNew_ends (ordered : Ordered before) (plain : IsPlain slug)
    (stored : before.storage.story slug = .ok document) (there : document ≠ .null) :
    Ends (currentOrNew slug) before
      (fun number after => GoneOn slug True before after ∧ after.sessions.get? slug = some number)
      (fun why _ => why.IsMishap) := by
  have gone : GoneOn slug True before before := .refl ordered
  refine ((works_currentOrNew gone plain trivial).and (?_ : Ends (currentOrNew slug) before
    (fun _ _ => True) fun why _ => why.IsMishap)).mono (fun _ _ => And.left) fun _ _ => And.right
  refine ends_bind.mpr (Ends.mono ((works_getEngine gone).and (refusedWith_getEngine before)) ?_
    fun _ _ stop => Stop.among_nil.mp stop.2)
  rintro found between ⟨⟨gone, _⟩, _⟩
  split
  · exact trivial
  · have stored : between.storage.story slug = .ok document := (gone.story plain).trans stored
    refine ends_bind.mpr (newEngine_reads.mono ?_ fun _ _ mishap => mishap)
    intro found _ nothing
    split
    · exact trivial
    · cases stored.symm.trans (scripted_eq_none.mp (nothing rfl).1)
      exact there rfl

/-- The state that has been saved is read back and put in place. -/
theorem loadState_saved {live : Live} (there : before.live[number]? = some live) :
    Ends (loadState number (saved.toJson .authored)) before
      (fun _ after => after = before.placed number ⟨live.engine.load saved, true⟩)
      (fun why _ => why.IsMishap) := by
  have reads : live.engine.loadDocument (saved.toJson .authored) =
      (.valid (), live.engine.load saved) := by
    simp [Engine.loadDocument, GameState.faithful saved]
  obtain ⟨fields, written⟩ : ∃ fields, saved.toJson .authored = .obj fields := ⟨_, rfl⟩
  rw [written] at reads ⊢
  refine ends_bind.mpr (ends_bind.mpr (ends_get.mpr ?_))
  simp only [there, ends_pure, reads]
  exact ends_replace.mpr rfl

/-- What is shown after a change has been written. -/
theorem presented_ends (ordered : Ordered before) (plain : IsPlain slug)
    (holds : before.sessions.get? slug = some number) (now : Engine) :
    Ends (presented slug number) (before.placed number ⟨now, true⟩)
      (fun body after =>
        after.standing slug = { before.standing slug with
          playing := some ⟨now, true⟩, record := .ok (recordOf now) } ∧
        ∃ view, now.view = .ok view ∧ body = .obj (shown now view))
      (fun why after => why.IsMishap ∨
        after.standing slug = { before.standing slug with
          playing := some ⟨now, true⟩, record := .ok (recordOf now) } ∧
        ∃ sceneId nodeId, now.view = .error (.nodeNotFound sceneId nodeId) ∧ why =
          .refused 409 ("Cannot continue: " ++ (Fault.nodeNotFound sceneId nodeId).message)) := by
  have there : (before.placed number ⟨now, true⟩).live[number]? = some ⟨now, true⟩ := by
    simp [placed, ordered.there slug number holds]
  refine ends_map.mpr (ends_bind.mpr ((ends_persist there).mpr ⟨?_, fun _ _ => .inl trivial⟩))
  intro storage saved
  have standing := (standing_saved (before.placed number ⟨now, true⟩) plain saved).1
  rw [standing_placed ordered holds] at standing
  refine ends_bind.mpr (ends_engineOf.mpr ⟨fun engine there' => ?_, fun nobody => ?_⟩)
  · cases there.symm.trans there'
    refine ends_bind.mpr (ends_view.mono ?_ ?_)
    · rintro view _ ⟨rfl, viewed⟩
      exact ⟨standing, view, viewed, rfl⟩
    · rintro why _ ⟨rfl, stopped⟩
      exact stopped.imp_right fun missing => ⟨standing, missing⟩
  · exact absurd there (nobody now)

/-- The playthrough of a story has been replaced by a state, in memory and in its record. -/
structure Resumes (slug : String) (document : Json) (saved : GameState) (after : Backend)
    (engine : Engine) : Prop where
  standing : after.standing slug = ⟨some ⟨engine, true⟩, .ok document, .ok (recordOf engine)⟩
  story : Story.ofJson document = .valid engine.story
  state : engine.state = saved
  pending : engine.pending = none

theorem load_own (ordered : Ordered before) (upToDate : (before.standing slug).UpToDate)
    (plain : IsPlain slug) (stored : before.storage.story slug = .ok document)
    (there : document ≠ .null)
    (holds : before.storage.snapshot = .ok (slotOf (some (slug, saved)))) :
    Ends (load slug) before
      (fun body after => ∃ engine, Resumes slug document saved after engine ∧
        ∃ view, engine.view = .ok view ∧ body = .obj (shown engine view))
      (fun why after => why.IsMishap ∨ ∃ engine, Resumes slug document saved after engine ∧
        ∃ sceneId nodeId, engine.view = .error (.nodeNotFound sceneId nodeId) ∧ why =
          .refused 409 ("Cannot continue: " ++ (Fault.nodeNotFound sceneId nodeId).message)) := by
  refine ends_bind.mpr (ends_look.mpr ⟨fun value came => ?_, fun _ _ => .inl trivial⟩)
  cases holds.symm.trans came
  refine ends_bind.mpr (ends_demand.mpr ⟨fun fields given => ?_, nofun⟩)
  cases given
  have whole : (saved.toJson .authored).truthy = true := rfl
  simp only [Json.lookup?, ↓reduceIte, Option.getD_some, String.reduceEq, whole]
  refine ends_bind.mpr ((currentOrNew_ends ordered plain stored there).mono ?_ fun _ _ => .inl)
  rintro number between ⟨gone, current⟩
  obtain ⟨live, playing⟩ := gone.ordered.playing current
  refine ends_bind.mpr ((loadState_saved playing).mono ?_ fun _ _ => .inl)
  rintro _ _ rfl
  have loaded := live.engine.load_loaded saved
  have upToDate : (between.standing slug).UpToDate :=
    (gone.moves slug plain).keeps (fun _ step => Standing.step_upToDate step) upToDate
  obtain ⟨document', stored', valid⟩ := upToDate live ((playing_eq current).trans playing)
  have stored : (between.standing slug).script = .ok document := (gone.story plain).trans stored
  cases stored.symm.trans stored'
  have resumes {after : Backend} (standing : after.standing slug = { between.standing slug with
      playing := some ⟨live.engine.load saved, true⟩
      record := .ok (recordOf (live.engine.load saved)) }) :
      Resumes slug document saved after (live.engine.load saved) :=
    ⟨by simp only [standing, stored], loaded.story ▸ valid, loaded.state, loaded.pending⟩
  refine (presented_ends gone.ordered plain current _).mono ?_ ?_
  · exact fun _ _ shown => ⟨_, resumes shown.1, shown.2⟩
  · exact fun _ _ stopped => stopped.imp_right fun stuck => ⟨_, resumes stuck.1, stuck.2⟩

/-- A state that has been saved is loaded: it has taken the place of the playthrough, and is
answered with. Once the game has begun, its node may not be there any more, which is answered
instead. -/
structure Loads (slug : String) (document : Json) (saved : GameState) (given : HttpAnswer)
    (after : Backend) (engine : Engine) : Prop
    extends Resumes slug document saved after engine where
  shown : engine.state.gameStarted = false ∨ engine.node?.isSome = true →
    ∃ view, engine.view = .ok view ∧ given = ⟨200, .obj (shown engine view)⟩
  stuck : engine.state.gameStarted = true → engine.node? = none → given = detail 409
    ("Cannot continue: " ++ (Fault.nodeNotFound saved.currentSceneId saved.currentNodeId).message)

/-- Whatever has been asked of a backend that began with an empty slot, what comes of loading into a
story that is there is told by the register: nothing has been saved since a story was begun again,
or another story has been saved last, or else the playthrough is replaced by the very state that has
been saved last. -/
theorem loading_follows_the_register (idle : ∀ slug, first.sessions.get? slug = none)
    (empty : first.storage.snapshot = .ok .null) (course : Course first moments before)
    (visited : Visited before (.request call (.ok given)) after)
    (asked : Endpoint.find call.method call.path = .ok (.here (.play slug .load)))
    (stored : before.storage.story slug = .ok document) (there : document ≠ .null) :
    match register moments with
    | none => given = detail 404 "No save data found" ∧ after = before
    | some (owner, saved) =>
      if owner = slug then ∃ engine, Loads slug document saved given after engine
      else given = detail 409 ("The save slot belongs to story " ++ Text.quoted owner) ∧
        after = before := by
  have plain := (Endpoint.find_slug asked rfl).1
  have holds := course.slot idle empty
  obtain ⟨outcome, came, answered⟩ := request_answered visited asked
  split
  · rename_i nothing
    rw [nothing] at holds
    have ended := (load_nothing holds).came came
    cases outcome with
    | ok body => exact ended.elim
    | error why =>
      obtain ⟨rfl, same⟩ := ended
      exact ⟨written_refused answered, same⟩
  · rename_i owner saved something
    rw [something] at holds
    split
    · rename_i own
      subst own
      have ordered := course.series.ordered (ordered_of_idle idle) visitsOf_plain
      have upToDate := series_upToDate idle course.series visitsOf_plain plain
      have ended := (load_own ordered upToDate plain stored there holds).came came
      rcases written_cases answered with ⟨body, rfl, rfl⟩ | ⟨why, rfl, unbroken, _⟩
      · obtain ⟨engine, resumes, view, viewed, rfl⟩ := ended
        refine ⟨engine, resumes, fun _ => ⟨view, viewed, rfl⟩, fun started missing => ?_⟩
        exact nomatch viewed.symm.trans (Engine.view_nowhere started missing)
      · obtain ⟨engine, resumes, sceneId, nodeId, viewed, rfl⟩ := ended.resolve_left unbroken
        refine ⟨engine, resumes, fun visible => ?_, fun started missing => ?_⟩
        · obtain ⟨started, missing⟩ := Engine.nowhere_of_view viewed
          simp [started, missing] at visible
        · cases viewed.symm.trans (Engine.view_nowhere started missing)
          rw [← resumes.state]
          exact written_refused answered
    · rename_i foreign
      have ended := (load_foreign foreign holds).came came
      cases outcome with
      | ok body => exact ended.elim
      | error why =>
        obtain ⟨rfl, same⟩ := ended
        exact ⟨written_refused answered, same⟩

/-- A backend with a house to walk through. -/
def lodge : Backend := fresh (some [("house", Engine.house.toJson .authored)])

/-- A request to play there. -/
def errand (path : String) : Call := ⟨"POST", "/api/stories/house/play" ++ path, .nothing⟩

/-- What comes of it where there is no network. -/
def errandOf (path : String) (backend : Backend) : Except Mishap HttpAnswer × Backend × Unit :=
  serve (fun _ network => (.foreign "", network)) (errand path) backend ()

/-- Someone has come into the hall, has saved the game there and has gone on. -/
def arrived : Except Mishap HttpAnswer × Backend × Unit := errandOf "" lodge

def noted : Except Mishap HttpAnswer × Backend × Unit := errandOf "/save" arrived.2.1

def strayed : Except Mishap HttpAnswer × Backend × Unit := errandOf "/advance" noted.2.1

/-- The same one has come back by loading. -/
def retrieved : Except Mishap HttpAnswer × Backend × Unit := errandOf "/load" strayed.2.1

theorem errand_visited {path : String} {backend : Backend} {given : HttpAnswer}
    (answered : (errandOf path backend).1 = .ok given) :
    Visited backend (.request (errand path) (.ok given)) (errandOf path backend).2.1 := by
  rw [← answered]
  exact .served rfl

theorem errand_found (path : String) (action : PlayAction)
    (found : (Endpoint.find (errand path).method (errand path).path).toOption =
      some (.here (.play "house" action))) :
    Endpoint.find (errand path).method (errand path).path = .ok (.here (.play "house" action)) :=
  Outcome.toOption_eq_some.mp found

/-- All of this is answered, and the game is saved in the hall. -/
theorem errands_succeed : arrived.1.toOption.isSome = true ∧
    noted.1.toOption.map (·.status) = some 200 ∧ strayed.1.toOption.isSome = true ∧
      retrieved.1.toOption.isSome = true ∧
        (strayed.2.1.storage.story "house").toOption.map (·.truthy) = some true ∧
          (noted.2.1.standing "house").playing.map (·.engine.state.currentNodeId) =
            some "hall" := by
  decide +kernel

/-- Where the game has been saved is where it goes on. -/
theorem hall_is_loaded : ∃ given document saved engine, retrieved.1 = .ok given ∧
    Loads "house" document saved given retrieved.2.1 engine ∧ saved.currentNodeId = "hall" := by
  obtain ⟨came, kept, went, loaded, place⟩ := errands_succeed
  obtain ⟨coming, came⟩ := Outcome.isSome_toOption.mp came
  obtain ⟨⟨_, saving⟩, kept, rfl⟩ := Option.map_eq_some_iff.mp kept
  replace kept := Outcome.toOption_eq_some.mp kept
  obtain ⟨going, went⟩ := Outcome.isSome_toOption.mp went
  obtain ⟨loading, loaded⟩ := Outcome.isSome_toOption.mp loaded
  have begins := errand_found "" .begin (by decide +kernel)
  have saves := errand_found "/save" .save (by decide +kernel)
  have advances := errand_found "/advance" .advance (by decide +kernel)
  have loads := errand_found "/load" .load (by decide +kernel)
  have course : Course lodge [⟨errand "", coming, arrived.2.1⟩,
      ⟨errand "/save", ⟨200, saving⟩, noted.2.1⟩,
      ⟨errand "/advance", going, strayed.2.1⟩] strayed.2.1 :=
    ((Course.begun.next (errand_visited came)).next (errand_visited kept)).next
      (errand_visited went)
  have visited : Visited strayed.2.1 (.request (errand "/load") (.ok loading)) retrieved.2.1 :=
    errand_visited loaded
  obtain ⟨document, stored, whole⟩ := Option.map_eq_some_iff.mp place.1
  have told := loading_follows_the_register (fun _ => rfl) rfl course visited loads
    (Outcome.toOption_eq_some.mp stored) fun nothing => by cases nothing ▸ whole
  obtain ⟨live, playing, at_hall⟩ := Option.map_eq_some_iff.mp place.2
  simp only [register, List.foldl_cons, List.foldl_nil, Moment.overwrite, begins, saves, advances,
    ↓reduceIte, playing, Option.map_some] at told
  obtain ⟨engine, loads⟩ := told
  exact ⟨loading, document, live.engine.state, engine, loaded, loads, at_hall⟩

end Backend

end VisualNovel
