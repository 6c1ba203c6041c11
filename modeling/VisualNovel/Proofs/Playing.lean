import VisualNovel.Proofs.Standings
import VisualNovel.Proofs.Visits

/-! What playing a story keeps. All that the work on it does to a backend is done by a few steps: a
playthrough in memory is put in place or added, its record is written, and the save slot is filled
or emptied. So a relation that holds across each of these steps holds across the work as a whole,
however the work ends. -/
namespace VisualNovel

/-- Whether the save slot is written in the course of what is done with a playthrough. -/
def PlayAction.WritesSlot : PlayAction → Prop
  | .save | .restart => True
  | .begin | .watch | .name | .advance | .choice | .input => False
  | .showFeedback | .feedback | .load => False

namespace Backend

variable {α β : Type} {slug : String} {number : Nat} {rel : Backend → Backend → Prop}

/-- However work ends, the backend that it leaves is related to the one before. -/
def Keeps (rel : Backend → Backend → Prop) (work : Serving α) : Prop :=
  ∀ before, Ends work before (fun _ after => rel before after) (fun _ after => rel before after)

/-- A relation that holds across each step of playing a story, the save slot apart. -/
structure Playing (slug : String) (rel : Backend → Backend → Prop) : Prop where
  refl : ∀ backend, rel backend backend
  trans : ∀ {before between after}, rel before between → rel between after → rel before after
  placed : ∀ backend number live, rel backend (backend.placed number live)
  enrolled : ∀ backend engine, rel backend (backend.enrolled slug engine)
  recorded : ∀ {backend engine storage},
    backend.storage.savePlaythrough slug (recordOf engine) = .ok storage →
      rel backend { backend with storage }

/-- A relation that holds across each step of playing a story. -/
structure PlayingWithSlot (slug : String) (rel : Backend → Backend → Prop) : Prop
    extends Playing slug rel where
  saved : ∀ {backend snapshot storage}, backend.storage.saveSnapshot snapshot = .ok storage →
    rel backend { backend with storage }
  emptied : ∀ {backend found storage}, backend.storage.deleteSnapshot = .ok (found, storage) →
    rel backend { backend with storage }

/-- A relation that holds across each step of looking after a story: it is played, put in place or
taken away, and settings are changed. -/
structure Tending (slug : String) (rel : Backend → Backend → Prop) : Prop
    extends Playing slug rel where
  uploaded : ∀ {backend document given storage},
    backend.storage.saveStory document (some slug) = .ok (given, storage) →
      rel backend { backend with storage }
  removed : ∀ {backend found storage}, backend.storage.deleteStory slug = .ok (found, storage) →
    rel backend { backend with storage }
  dropped : ∀ backend, rel backend { backend with sessions := backend.sessions.erase slug }
  cleared : ∀ {backend found storage},
    backend.storage.deletePlaythrough slug = .ok (found, storage) →
      rel backend { backend with storage }
  set : ∀ {backend changes config storage},
    backend.storage.updateConfig changes = .ok (config, storage) →
      rel backend { backend with storage }

/-- What is kept when work has come to an end. -/
theorem Keeps.came {work : Serving α} {before after : Backend} {outcome : Except Stop α}
    (keeps : Keeps rel work) (came : work.run.run before = (outcome, after)) :
    rel before after := by
  have ended := (keeps before).came came
  cases outcome <;> exact ended

theorem keeps_map {work : Serving α} {f : α → β} (keeps : Keeps rel work) :
    Keeps rel (f <$> work) :=
  fun before => ends_map.mpr (keeps before)

section

variable (playing : Playing slug rel)
include playing

/-! ## Parts of work -/

theorem keeps_pure {value : α} : Keeps rel (pure value : Serving α) := playing.refl

theorem keeps_throw {why : Stop} : Keeps rel (throw why : Serving α) := playing.refl

theorem keeps_get : Keeps rel get := playing.refl

theorem keeps_bind {first : Serving α} {next : α → Serving β} (keeps : Keeps rel first)
    (rest : ∀ value, Keeps rel (next value)) : Keeps rel (first >>= next) := by
  intro before
  refine ends_bind.mpr ((keeps before).mono ?_ fun _ _ related => related)
  intro value between related
  exact (rest value between).mono (fun _ _ => playing.trans related)
    fun _ _ => playing.trans related

theorem keeps_demand {outcome : Except Mishap α} : Keeps rel (demand outcome) := by
  cases outcome with
  | ok value => exact keeps_pure playing
  | error why => exact keeps_throw playing

theorem keeps_look {read : Storage → Except Mishap α} : Keeps rel (look read) :=
  keeps_bind playing (keeps_get playing) fun _ => keeps_demand playing

theorem keeps_expect {expects : Schema.Expects α} {document : Json} :
    Keeps rel (expect expects document) := by
  unfold expect
  split
  · exact keeps_pure playing
  · exact keeps_throw playing

theorem keeps_payloadAs {payload : Payload} {expects : Schema.Expects α} :
    Keeps rel (payloadAs payload expects) := by
  unfold payloadAs
  split
  · exact keeps_pure playing
  · exact keeps_throw playing

theorem keeps_giveUp {fault : Fault} : Keeps rel (giveUp fault : Serving α) := by
  unfold giveUp
  split
  · exact keeps_throw playing
  · exact keeps_throw playing
  · split <;> exact keeps_throw playing

theorem keeps_settle {outcome : Except Fault α} : Keeps rel (settle outcome) := by
  cases outcome with
  | ok value => exact keeps_pure playing
  | error fault => exact keeps_giveUp playing

theorem keeps_giveUpResponse {fault : ResponseFault} :
    Keeps rel (giveUpResponse fault : Serving α) := by
  unfold giveUpResponse
  split
  · exact keeps_giveUp playing
  · exact keeps_throw playing
  · exact keeps_throw playing
  · exact keeps_throw playing

theorem keeps_complainOf {fault : Fault} : Keeps rel (complainOf fault) := by
  unfold complainOf
  split
  · exact keeps_pure playing
  · exact keeps_throw playing

/-! ## Playthroughs -/

theorem keeps_engineOf : Keeps rel (engineOf number) := by
  refine keeps_bind playing (keeps_get playing) fun backend => ?_
  split
  · exact keeps_pure playing
  · exact keeps_throw playing

theorem keeps_anyEngine : Keeps rel (anyEngine number) := by
  refine keeps_bind playing (keeps_get playing) fun backend => ?_
  split
  · exact keeps_pure playing
  · exact keeps_throw playing

theorem keeps_replace {engine : Engine} : Keeps rel (replace number engine) :=
  fun backend => playing.placed backend number ⟨engine, true⟩

theorem keeps_spoil : Keeps rel (spoil number) :=
  keeps_bind playing (keeps_anyEngine playing) fun engine backend =>
    playing.placed backend number ⟨engine.cancelGrading, false⟩

theorem keeps_enroll {engine : Engine} : Keeps rel (enroll slug engine) :=
  fun backend => playing.enrolled backend engine

theorem keeps_persist : Keeps rel (persist slug number) := by
  refine keeps_bind playing (keeps_engineOf playing) fun engine backend => ?_
  exact ends_put.mpr ⟨fun _ saved => playing.recorded saved, fun _ _ => playing.refl backend⟩

theorem keeps_loadStory (slug : String) : Keeps rel (loadStory slug) := by
  refine keeps_bind playing (keeps_look playing) fun document => ?_
  split
  · exact keeps_pure playing
  · exact keeps_bind playing (keeps_expect playing) fun story => keeps_pure playing

theorem keeps_newEngine : Keeps rel (newEngine slug) := by
  refine keeps_bind playing (keeps_loadStory playing slug) fun found => ?_
  split
  · exact keeps_pure playing
  · refine keeps_bind playing (keeps_look playing) fun config => ?_
    refine keeps_bind playing (keeps_demand playing) fun playback => ?_
    dsimp only
    split
    · exact keeps_throw playing
    · refine keeps_bind playing (keeps_enroll playing) fun number => ?_
      exact keeps_bind playing (keeps_persist playing) fun _ => keeps_pure playing

theorem keeps_getEngine : Keeps rel (getEngine slug) := by
  refine keeps_bind playing (keeps_get playing) fun backend => ?_
  split
  · exact keeps_pure playing
  · refine keeps_bind playing (keeps_look playing) fun record => ?_
    split
    · exact keeps_pure playing
    · refine keeps_bind playing (keeps_loadStory playing slug) fun found => ?_
      split
      · exact keeps_pure playing
      · split
        · split
          · exact keeps_pure playing
          · refine keeps_bind playing (keeps_demand playing) fun playback => ?_
            refine keeps_bind playing (keeps_demand playing) fun background => ?_
            exact keeps_bind playing (keeps_enroll playing) fun number => keeps_pure playing
        · exact keeps_throw playing

theorem keeps_current : Keeps rel (current slug) := by
  refine keeps_bind playing (keeps_look playing) fun document => ?_
  split
  · exact keeps_throw playing
  · refine keeps_bind playing (keeps_getEngine playing) fun found => ?_
    split
    · exact keeps_pure playing
    · exact keeps_throw playing

theorem keeps_currentOrNew : Keeps rel (currentOrNew slug) := by
  refine keeps_bind playing (keeps_getEngine playing) fun found => ?_
  split
  · exact keeps_pure playing
  · refine keeps_bind playing (keeps_newEngine playing) fun found => ?_
    split
    · exact keeps_pure playing
    · exact keeps_throw playing

theorem keeps_perform {action : Engine → Turn α} : Keeps rel (perform number action) := by
  refine keeps_bind playing (keeps_engineOf playing) fun engine => ?_
  exact keeps_bind playing (keeps_replace playing) fun _ => keeps_settle playing

theorem keeps_present : Keeps rel (present slug number) := by
  refine keeps_bind playing (keeps_persist playing) fun _ => ?_
  refine keeps_bind playing (keeps_engineOf playing) fun engine => ?_
  exact keeps_bind playing (keeps_settle playing) fun view => keeps_pure playing

theorem keeps_presented : Keeps rel (presented slug number) := keeps_map (keeps_present playing)

theorem keeps_act {action : Engine → Turn Unit} : Keeps rel (act slug action) := by
  refine keeps_bind playing (keeps_current playing) fun number => ?_
  exact keeps_bind playing (keeps_perform playing) fun _ => keeps_presented playing

theorem keeps_play : Keeps rel (play slug) := by
  refine keeps_bind playing (keeps_newEngine playing) fun found => ?_
  split
  · exact keeps_throw playing
  · exact keeps_presented playing

theorem keeps_feedback : Keeps rel (feedback slug) := by
  refine keeps_bind playing (keeps_current playing) fun number => ?_
  exact keeps_bind playing (keeps_engineOf playing) fun engine => keeps_pure playing

theorem keeps_loadState {state : Json} : Keeps rel (loadState number state) := by
  unfold loadState
  split
  · refine keeps_bind playing (keeps_anyEngine playing) fun engine => ?_
    split
    · exact keeps_replace playing
    · exact keeps_throw playing
  · exact keeps_bind playing (keeps_spoil playing) fun _ => keeps_throw playing

theorem keeps_load : Keeps rel (load slug) := by
  have loads (state : Json) : Keeps rel (do
      let number ← currentOrNew slug
      loadState number state
      presented slug number) := by
    refine keeps_bind playing (keeps_currentOrNew playing) fun number => ?_
    exact keeps_bind playing (keeps_loadState playing) fun _ => keeps_presented playing
  refine keeps_bind playing (keeps_look playing) fun snapshot => ?_
  split
  · exact keeps_throw playing
  · refine keeps_bind playing (keeps_demand playing) fun fields => ?_
    dsimp only
    -- Whoever the slot belongs to, what follows is the same.
    split
    · split
      · exact loads _
      · exact keeps_bind playing (keeps_throw playing) fun _ => loads _
    · exact keeps_bind playing (keeps_throw playing) fun _ => loads _

theorem keeps_openResponse {value : String} : Keeps rel (openResponse slug value) := by
  refine keeps_bind playing (keeps_current playing) fun number => ?_
  refine keeps_bind playing (keeps_look playing) fun config => ?_
  refine keeps_bind playing (keeps_get playing) fun backend => ?_
  refine keeps_bind playing (keeps_demand playing) fun setup => ?_
  exact keeps_bind playing (keeps_perform playing) fun opened => keeps_pure playing

theorem keeps_closeResponse {inFlight : InFlight} {outcome : Except GradingFailure GradingResult} :
    Keeps rel (closeResponse slug inFlight outcome) := by
  refine keeps_bind playing (keeps_get playing) fun backend => ?_
  dsimp only
  split
  · refine keeps_bind playing (keeps_engineOf playing) fun engine => ?_
    refine keeps_bind playing (keeps_replace playing) fun _ => ?_
    split
    · exact keeps_giveUpResponse playing
    · exact keeps_bind playing (keeps_present playing) fun fields => keeps_pure playing
  · split
    · exact keeps_giveUpResponse playing
    · exact keeps_throw playing

theorem keeps_finishedGame : Keeps rel (finishedGame slug) := by
  refine keeps_bind playing (keeps_current playing) fun number => ?_
  refine keeps_bind playing (keeps_look playing) fun config => ?_
  refine keeps_bind playing (keeps_get playing) fun backend => ?_
  refine keeps_bind playing (keeps_demand playing) fun connection => ?_
  exact keeps_bind playing (keeps_engineOf playing) fun engine => keeps_pure playing

theorem keeps_concludeGame {outcome : Except RecommendationsFailure Recommendations} :
    Keeps rel (concludeGame outcome) := by
  unfold concludeGame
  split
  · exact keeps_pure playing
  · exact keeps_throw playing
  · exact keeps_throw playing

theorem keeps_useTool {action : Engine → Turn Unit} : Keeps rel (useTool slug action) := by
  refine keeps_bind playing (keeps_getEngine playing) fun found => ?_
  split
  · exact keeps_throw playing
  · refine keeps_bind playing (keeps_engineOf playing) fun engine => ?_
    refine keeps_bind playing (keeps_replace playing) fun _ => ?_
    split
    · exact keeps_complainOf playing
    · split
      · exact keeps_complainOf playing
      · exact keeps_bind playing (keeps_persist playing) fun _ => keeps_pure playing

end

/-! ## The save slot -/

section

variable (playing : PlayingWithSlot slug rel)
include playing

theorem keeps_save : Keeps rel (save slug) := by
  refine keeps_bind playing.toPlaying (keeps_current playing.toPlaying) fun number => ?_
  refine keeps_bind playing.toPlaying (keeps_engineOf playing.toPlaying) fun engine => ?_
  refine keeps_bind playing.toPlaying (fun backend => ends_put.mpr ⟨?_, ?_⟩) fun _ =>
    keeps_pure playing.toPlaying
  · exact fun storage saved => playing.saved saved
  · exact fun _ _ => playing.refl backend

theorem keeps_restart : Keeps rel (restart slug) := by
  refine keeps_bind playing.toPlaying (keeps_current playing.toPlaying) fun number => ?_
  refine keeps_bind playing.toPlaying (keeps_anyEngine playing.toPlaying) fun engine => ?_
  refine keeps_bind playing.toPlaying (keeps_replace playing.toPlaying) fun _ => ?_
  refine keeps_bind playing.toPlaying (keeps_settle playing.toPlaying) fun _ => ?_
  refine keeps_bind playing.toPlaying (fun backend => ends_keep.mpr ⟨?_, ?_⟩) fun _ =>
    keeps_presented playing.toPlaying
  · exact fun _ storage removed => playing.emptied removed
  · exact fun _ _ => playing.refl backend

end

/-! ## Requests and tools -/

/-- What is done with a playthrough keeps the relation, if the save slot is not written or does not
matter. -/
theorem keeps_playLocally {payload : Payload} (playing : Playing slug rel) (action : PlayAction)
    (slot : action.WritesSlot → PlayingWithSlot slug rel) :
    Keeps rel (playLocally slug payload action) := by
  cases action with
  | begin => exact keeps_play playing
  | watch =>
    exact keeps_bind playing (keeps_current playing) fun _ => keeps_presented playing
  | advance => exact keeps_act playing
  | name | choice | input | showFeedback =>
    exact keeps_bind playing (keeps_payloadAs playing) fun _ => keeps_act playing
  | feedback => exact keeps_feedback playing
  | load => exact keeps_load playing
  | save => exact keeps_save (slot trivial)
  | restart => exact keeps_restart (slot trivial)

theorem keeps_use (tool : Tool) (playing : Playing tool.slug rel) : Keeps rel (use tool) := by
  cases tool with
  | startStory slug playerName =>
    refine keeps_bind playing (keeps_newEngine playing) fun found => ?_
    split
    · exact keeps_pure playing
    · exact keeps_useTool playing
  | viewNode | advance | choose | submitText => exact keeps_useTool playing

/-- Waiting for a network between two parts of work takes nothing away from what they keep. -/
theorem InParts.keeps {Answer : Type} {first : Serving α} {second : α → Answer → Serving Json}
    {before after : Backend} {outcome : Except Stop Json}
    (parts : InParts first second before outcome after) (playing : Playing slug rel)
    (opens : Keeps rel first) (closes : ∀ value answer, Keeps rel (second value answer)) :
    rel before after := by
  cases parts with
  | stopped came => exact opens.came came
  | finished came went => exact playing.trans (opens.came came) ((closes _ _).came went)

/-! ## Stories and settings -/

section

variable (tending : Tending slug rel)
include tending

theorem keeps_uploadStory {fields : List (String × Json)} :
    Keeps rel (uploadStory slug fields) := by
  have playing := tending.toPlaying
  unfold uploadStory
  split
  · exact keeps_throw playing
  · refine keeps_bind playing (fun backend => ends_keep.mpr ⟨?_, ?_⟩) fun _ => ?_
    · exact fun _ storage saved => tending.uploaded saved
    · exact fun _ _ => playing.refl backend
    · refine keeps_bind playing tending.dropped fun _ => ?_
      refine keeps_bind playing (fun backend => ends_keep.mpr ⟨?_, ?_⟩) fun _ => keeps_pure playing
      · exact fun _ storage cleared => tending.cleared cleared
      · exact fun _ _ => playing.refl backend

theorem keeps_deleteStory : Keeps rel (deleteStory slug) := by
  have playing := tending.toPlaying
  refine keeps_bind playing (fun backend => ends_keep.mpr ⟨?_, ?_⟩) fun found => ?_
  · exact fun _ storage removed => tending.removed removed
  · exact fun _ _ => playing.refl backend
  · split
    · refine keeps_bind playing tending.dropped fun _ => ?_
      refine keeps_bind playing (fun backend => ends_keep.mpr ⟨?_, ?_⟩) fun _ => keeps_pure playing
      · exact fun _ storage cleared => tending.cleared cleared
      · exact fun _ _ => playing.refl backend
    · exact keeps_throw playing

theorem keeps_changeSettings {changes : List (String × Json)} :
    Keeps rel (changeSettings changes) := by
  have playing := tending.toPlaying
  refine keeps_bind playing (fun backend => ends_keep.mpr ⟨?_, ?_⟩) fun _ => keeps_pure playing
  · exact fun _ storage updated => tending.set updated
  · exact fun _ _ => playing.refl backend

end

section

variable (tending : ∀ slug, IsPlain slug ∧ slug ≠ "" → Tending slug rel)
include tending

/-- What is answered without a network keeps a relation that holds for every story. -/
theorem keeps_answerLocally {payload : Payload} {endpoint : LocalEndpoint}
    (named : ∀ slug, (Endpoint.here endpoint).slug? = some slug → IsPlain slug ∧ slug ≠ "")
    (slot : ∀ slug action, endpoint = .play slug action → action.WritesSlot →
      PlayingWithSlot slug rel) : Keeps rel (answerLocally payload endpoint) := by
  have anywhere := tending "story" (by decide)
  have playing := anywhere.toPlaying
  cases endpoint with
  | health => exact keeps_pure playing
  | settings | stories =>
    exact keeps_bind playing (keeps_look playing) fun _ => keeps_pure playing
  | changeSettings =>
    exact keeps_bind playing (keeps_payloadAs playing) fun _ => keeps_changeSettings anywhere
  | story slug =>
    refine keeps_bind playing (keeps_look playing) fun document => ?_
    split
    · exact keeps_throw playing
    · exact keeps_pure playing
  | uploadStory slug =>
    exact keeps_bind playing (keeps_payloadAs playing) fun _ =>
      keeps_uploadStory (tending slug (named slug rfl))
  | deleteStory slug => exact keeps_deleteStory (tending slug (named slug rfl))
  | play slug action =>
    exact keeps_playLocally (tending slug (named slug rfl)).toPlaying action (slot slug action rfl)

/-- Whatever is asked for over the network, a relation that holds for every story is kept. -/
theorem request_keeps {before after : Backend} {call : Call} {answer : Except Mishap HttpAnswer}
    (visited : Visited before (.request call answer) after)
    (slot : ∀ slug action, Endpoint.find call.method call.path = .ok (.here (.play slug action)) →
      action.WritesSlot → PlayingWithSlot slug rel) : rel before after := by
  have anywhere := (tending "story" (by decide)).toPlaying
  cases visited with | served came =>
  rcases serve_cases came with ⟨rfl, _⟩ | ⟨endpoint, outcome, found, answered, _⟩
  · exact anywhere.refl _
  · have named (slug : String) (asked : endpoint.slug? = some slug) : IsPlain slug ∧ slug ≠ "" :=
      Endpoint.find_slug found asked
    cases endpoint with
    | here endpoint =>
      cases answered
      refine (keeps_answerLocally tending named fun slug action plays => ?_).came rfl
      exact slot slug action (plays ▸ found)
    | checkConnection =>
      cases answered
      exact anywhere.refl _
    | respond slug =>
      have playing := (tending slug (named slug rfl)).toPlaying
      refine (respond_parts answered).keeps playing ?_ fun _ _ => keeps_closeResponse playing
      exact keeps_bind playing (keeps_payloadAs playing) fun value => keeps_openResponse playing
    | recommend slug =>
      have playing := (tending slug (named slug rfl)).toPlaying
      exact (recommend_parts answered).keeps playing (keeps_finishedGame playing) fun _ _ =>
        keeps_concludeGame playing

end

end Backend

end VisualNovel
