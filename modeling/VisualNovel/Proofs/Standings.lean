import Mathlib.Logic.Relation
import VisualNovel.Proofs.Slugs
import VisualNovel.Server.Backend

/-! How it stands with a story: its playthrough in memory, its document and its record. A backend
changes by single deeds, each of which moves one standing and leaves all others as they are. So
whatever every deed keeps is kept by any work that comes to a series of deeds, whichever stories the
series is about. -/
namespace VisualNovel

open Relation

/-- The same is written of two playthroughs. -/
structure Engine.SameRecord (engine now : Engine) : Prop where
  story : now.story = engine.story
  state : now.state = engine.state
  playback : now.playback = engine.playback
  background : now.background = engine.background

theorem Engine.SameRecord.refl (engine : Engine) : engine.SameRecord engine := ⟨rfl, rfl, rfl, rfl⟩

theorem Engine.SameRecord.recordOf {engine now : Engine} (same : engine.SameRecord now) :
    Backend.recordOf now = Backend.recordOf engine := by
  simp only [Backend.recordOf, snapshot, same.state, same.playback, same.background]

/-- What a backend holds of one story. -/
structure Standing where
  playing : Option Live
  script : Except Mishap Json
  record : Except Mishap Json

/-- What can be done to a standing at one stroke. -/
inductive Deed where
  | takeUp
  | begin
  /-- the playthrough has changed, and its record with it -/
  | play
  /-- the playthrough has changed in nothing that a record holds -/
  | wait
  /-- the playthrough is another one now, but not its record -/
  | leave (now : Live)
  | upload
  | remove

namespace Standing

/-- What each deed makes of a standing. -/
inductive Step (before : Standing) : Deed → Standing → Prop
  | takenUp {document : Json} {record : List (String × Json)} {engine : Engine}
      (idle : before.playing = none) (stored : before.script = .ok document)
      (valid : Story.ofJson document = .valid engine.story)
      (kept : before.record = .ok (.obj record))
      (place : Backend.recordedState? record = some engine.state)
      (heard : Backend.recordedPlayback record = .ok engine.playback)
      (seen : Backend.recordedBackground record = .ok engine.background) :
      Step before .takeUp { before with playing := some ⟨engine, true⟩ }
  | begun {document : Json} {engine : Engine} (stored : before.script = .ok document)
      (valid : Story.ofJson document = .valid engine.story) :
      Step before .begin
        { before with playing := some ⟨engine, true⟩, record := .ok (Backend.recordOf engine) }
  | played {live : Live} {engine : Engine} (there : before.playing = some live)
      (story : engine.story = live.engine.story) :
      Step before .play
        { before with playing := some ⟨engine, true⟩, record := .ok (Backend.recordOf engine) }
  | waited {engine now : Engine} (there : before.playing = some ⟨engine, true⟩)
      (same : engine.SameRecord now) :
      Step before .wait { before with playing := some ⟨now, true⟩ }
  | left {live now : Live} (there : before.playing = some live)
      (story : now.engine.story = live.engine.story) :
      Step before (.leave now) { before with playing := some now }
  | uploaded {document : Json} {story : Story} (valid : Story.ofJson document = .valid story) :
      Step before .upload ⟨none, .ok document, .ok .null⟩
  | removed {script : Except Mishap Json} : Step before .remove ⟨none, script, .ok .null⟩

/-- A story without a playthrough, in memory or in a record. -/
def Vacant (standing : Standing) : Prop := standing.playing = none ∧ standing.record = .ok .null

/-- One standing becomes another by deeds of the allowed kinds. -/
def Reaches (allowed : Deed → Prop) : Standing → Standing → Prop :=
  ReflTransGen fun before after => ∃ deed, allowed deed ∧ Step before deed after

/-- What every allowed deed keeps is kept on the way. -/
theorem Reaches.keeps {allowed : Deed → Prop} {kept : Standing → Prop} {before after : Standing}
    (keeps : ∀ {before deed after},
      allowed deed → Step before deed after → kept before → kept after)
    (reaches : Reaches allowed before after) (holds : kept before) : kept after := by
  induction reaches with
  | refl => exact holds
  | tail _ last ih =>
    obtain ⟨_, may, step⟩ := last
    exact keeps may step ih

theorem Reaches.mono {allowed more : Deed → Prop} {before after : Standing}
    (reaches : Reaches allowed before after) (allows : ∀ deed, allowed deed → more deed) :
    Reaches more before after :=
  ReflTransGen.mono (fun _ _ ⟨deed, may, step⟩ => ⟨deed, allows deed may, step⟩) _ _ reaches

end Standing

namespace Backend

variable {before between after : Backend} {slug other : String} {number : Nat} {live : Live}
  {allowed : String → Deed → Prop}

def standing (backend : Backend) (slug : String) : Standing where
  playing := (backend.sessions.get? slug).bind fun number => backend.live[number]?
  script := backend.storage.story slug
  record := backend.storage.playthrough slug

/-- Every current playthrough is there, and no two stories have the same one. -/
structure Ordered (backend : Backend) : Prop where
  there : ∀ slug number, backend.sessions.get? slug = some number → number < backend.live.length
  apart : ∀ slug other number, backend.sessions.get? slug = some number →
    backend.sessions.get? other = some number → slug = other

theorem playing_eq (holds : before.sessions.get? slug = some number) :
    (before.standing slug).playing = before.live[number]? := by
  simp [standing, holds]

theorem Ordered.playing (ordered : Ordered before)
    (holds : before.sessions.get? slug = some number) :
    ∃ live, before.live[number]? = some live :=
  ⟨_, List.getElem?_eq_getElem (ordered.there slug number holds)⟩

/-- A story without a current playthrough has none in memory, and the other way round. -/
theorem Ordered.playing_eq_none (ordered : Ordered before) :
    (before.standing slug).playing = none ↔ before.sessions.get? slug = none := by
  cases holds : before.sessions.get? slug with
  | none => simp [standing, holds]
  | some number =>
    have there := ordered.there slug number holds
    simp [standing, holds, there]

/-! ## What work changes -/

/-- A backend at a later moment: no number has been given to another playthrough meanwhile. -/
structure Later (before after : Backend) : Prop where
  ordered : Ordered after
  more : before.live.length ≤ after.live.length
  new : ∀ slug number, after.sessions.get? slug = some number →
    before.sessions.get? slug = some number ∨ before.live.length ≤ number

namespace Later

theorem refl (ordered : Ordered before) : Later before before :=
  ⟨ordered, Nat.le_refl _, fun _ _ => .inl⟩

theorem trans (first : Later before between) (second : Later between after) :
    Later before after := by
  refine ⟨second.ordered, Nat.le_trans first.more second.more, fun slug number holds => ?_⟩
  rcases second.new slug number holds with held | new
  · exact first.new slug number held
  · exact .inr (Nat.le_trans first.more new)

theorem of_same (later : Later before between) (sessions : after.sessions = between.sessions)
    (count : after.live.length = between.live.length) : Later before after := by
  refine ⟨⟨?_, ?_⟩, count ▸ later.more, ?_⟩
  · rw [sessions, count]
    exact later.ordered.there
  · rw [sessions]
    exact later.ordered.apart
  · rw [sessions]
    exact later.new

end Later

/-- A backend has become another one by deeds that are allowed for the stories they concern. -/
structure Changes (allowed : String → Deed → Prop) (before after : Backend) : Prop where
  later : Later before after
  moves : ∀ slug, IsPlain slug →
    (before.standing slug).Reaches (allowed slug) (after.standing slug)

namespace Changes

theorem ordered (changes : Changes allowed before after) : Ordered after := changes.later.ordered

theorem refl (ordered : Ordered before) : Changes allowed before before :=
  ⟨.refl ordered, fun _ _ => .refl⟩

theorem trans (first : Changes allowed before between) (second : Changes allowed between after) :
    Changes allowed before after :=
  ⟨first.later.trans second.later, fun slug plain =>
    (first.moves slug plain).trans (second.moves slug plain)⟩

theorem mono {more : String → Deed → Prop} (changes : Changes allowed before after)
    (allows : ∀ slug deed, allowed slug deed → more slug deed) : Changes more before after :=
  ⟨changes.later, fun slug plain => (changes.moves slug plain).mono (allows slug)⟩

/-- Whatever leaves all standings as they are needs no deed. -/
theorem still (later : Later before after)
    (same : ∀ slug, IsPlain slug → after.standing slug = before.standing slug) :
    Changes allowed before after :=
  ⟨later, fun slug plain => same slug plain ▸ .refl⟩

/-- One deed moves the standing of one story. -/
theorem single {deed : Deed} (later : Later before after) (may : allowed slug deed)
    (step : (before.standing slug).Step deed (after.standing slug))
    (elsewhere : ∀ other, IsPlain other → other ≠ slug →
      after.standing other = before.standing other) : Changes allowed before after := by
  refine ⟨later, fun other plain => ?_⟩
  by_cases here : other = slug
  · subst here
    exact .single ⟨deed, may, step⟩
  · exact elsewhere other plain here ▸ .refl

end Changes

/-! ## Playthroughs in memory -/

/-- The backend with a playthrough put in the place of a number. -/
def placed (backend : Backend) (number : Nat) (live : Live) : Backend :=
  { backend with live := backend.live.set number live }

theorem placed_self (there : before.live[number]? = some live) :
    before.placed number live = before := by
  obtain ⟨bound, rfl⟩ := List.getElem?_eq_some_iff.mp there
  simp [placed]

/-- The backend with a new current playthrough of a story. -/
def enrolled (backend : Backend) (slug : String) (engine : Engine) : Backend :=
  { backend with
    live := backend.live ++ [⟨engine, true⟩]
    sessions := backend.sessions.insert slug backend.live.length }

theorem later_placed (ordered : Ordered before) : Later before (before.placed number live) :=
  (Later.refl ordered).of_same rfl (by simp [placed])

theorem standing_placed (ordered : Ordered before)
    (holds : before.sessions.get? slug = some number) :
    (before.placed number live).standing slug =
      { before.standing slug with playing := some live } := by
  have there := ordered.there slug number holds
  simp [standing, Backend.placed, holds, there]

/-- The playthroughs of other stories have other numbers. -/
theorem standing_placed_other (ordered : Ordered before)
    (holds : before.sessions.get? slug = some number) (differ : other ≠ slug) :
    (before.placed number live).standing other = before.standing other := by
  simp only [standing, Backend.placed, Standing.mk.injEq, and_self, and_true]
  cases held : before.sessions.get? other with
  | none => rfl
  | some number' =>
    have apart : number ≠ number' := fun same =>
      differ (ordered.apart other slug number' held (same ▸ holds))
    simp [apart]

/-- A new playthrough has a new number. -/
theorem later_enrolled {engine : Engine} (ordered : Ordered before) :
    Later before (before.enrolled slug engine) := by
  have numbers (other : String) (number : Nat)
      (held : (before.enrolled slug engine).sessions.get? other = some number) :
      (slug = other ∧ number = before.live.length) ∨ before.sessions.get? other = some number := by
    simp only [enrolled, Named.get?_insert] at held
    split at held
    · rename_i here
      exact .inl ⟨here, (Option.some.inj held).symm⟩
    · exact .inr held
  refine ⟨⟨fun other number held => ?_, fun first second number held held' => ?_⟩, ?_, ?_⟩
  · rcases numbers other number held with ⟨_, rfl⟩ | held
    · simp [enrolled]
    · simpa [enrolled] using Nat.lt_succ_of_lt (ordered.there other number held)
  · rcases numbers first number held with ⟨rfl, rfl⟩ | held
    · rcases numbers second _ held' with ⟨rfl, _⟩ | held'
      · rfl
      · exact absurd (ordered.there second _ held') (Nat.lt_irrefl _)
    · rcases numbers second number held' with ⟨_, rfl⟩ | held'
      · exact absurd (ordered.there first _ held) (Nat.lt_irrefl _)
      · exact ordered.apart first second number held held'
  · simp [enrolled]
  · intro other number held
    rcases numbers other number held with ⟨_, rfl⟩ | held
    · exact .inr (Nat.le_refl _)
    · exact .inl held

theorem standing_enrolled {engine : Engine} :
    (before.enrolled slug engine).standing slug =
      { before.standing slug with playing := some ⟨engine, true⟩ } := by
  simp [standing, Backend.enrolled]

theorem standing_enrolled_other {engine : Engine} (ordered : Ordered before)
    (differ : other ≠ slug) :
    (before.enrolled slug engine).standing other = before.standing other := by
  simp only [standing, Backend.enrolled, Named.get?_insert, Ne.symm differ, ↓reduceIte,
    Standing.mk.injEq, and_self, and_true]
  cases held : before.sessions.get? other with
  | none => rfl
  | some number => simp [List.getElem?_append_left (ordered.there other number held)]

theorem later_dropped (ordered : Ordered before) :
    Later before { before with sessions := before.sessions.erase slug } := by
  have kept (other : String) (number : Nat)
      (held : (before.sessions.erase slug).get? other = some number) :
      before.sessions.get? other = some number := by
    simp only [Named.get?_erase] at held
    split at held
    · cases held
    · exact held
  exact ⟨⟨fun other number held => ordered.there other number (kept other number held),
    fun first second number held held' =>
      ordered.apart first second number (kept first number held) (kept second number held')⟩,
    Nat.le_refl _, fun other number held => .inl (kept other number held)⟩

/-! ## What is kept -/

variable {folder : List String} {name : String} {storage : Storage}

/-- A standing does not change with files that have nothing to do with it. -/
theorem standing_stored (same : Storage.SameBesides folder name before.storage storage)
    (plain : IsPlain other) (scripts : (Storage.storiesFolder, other) ≠ (folder, name))
    (presets : (Storage.presetStoriesFolder, other) ≠ (folder, name))
    (records : (Storage.playthroughsFolder, other) ≠ (folder, name)) :
    ({ before with storage } : Backend).standing other = before.standing other := by
  simp only [standing, same.story plain scripts presets, same.playthrough plain records]

/-- A record that is written is that of its story, and of no other. -/
theorem standing_saved {record : Json} (backend : Backend) (plain : IsPlain slug)
    (saved : backend.storage.savePlaythrough slug record = .ok storage) :
    ({ backend with storage } : Backend).standing slug =
        { backend.standing slug with record := .ok record } ∧
      ∀ other, IsPlain other → other ≠ slug →
        ({ backend with storage } : Backend).standing other = backend.standing other := by
  have same := Storage.write_same Storage.playthroughsFolder_plain plain saved
  constructor
  · simp only [standing, Storage.playthrough_save saved,
      same.story plain (by simp [Storage.storiesFolder, Storage.playthroughsFolder])
        (by simp [Storage.presetStoriesFolder, Storage.playthroughsFolder])]
  · intro other plain' differ
    exact standing_stored same plain'
      (by simp [Storage.storiesFolder, Storage.playthroughsFolder])
      (by simp [Storage.presetStoriesFolder, Storage.playthroughsFolder]) (by simpa using differ)

/-! ## The deeds -/

section

variable {engine now : Engine} {document : Json} {record : List (String × Json)}

/-- Files outside the folders of stories and of playthroughs are of no consequence. -/
theorem changes_noted (ordered : Ordered before)
    (same : Storage.SameBesides folder name before.storage storage)
    (scripts : folder ≠ Storage.storiesFolder) (presets : folder ≠ Storage.presetStoriesFolder)
    (records : folder ≠ Storage.playthroughsFolder) :
    Changes allowed before { before with storage } :=
  .still ((Later.refl ordered).of_same rfl rfl) fun _ plain =>
    standing_stored same plain (by simp [scripts.symm]) (by simp [presets.symm])
      (by simp [records.symm])

theorem changes_takenUp (ordered : Ordered before) (may : allowed slug .takeUp)
    (forgotten : before.sessions.get? slug = none)
    (stored : before.storage.story slug = .ok document)
    (valid : Story.ofJson document = .valid engine.story)
    (kept : before.storage.playthrough slug = .ok (.obj record))
    (place : recordedState? record = some engine.state)
    (heard : recordedPlayback record = .ok engine.playback)
    (seen : recordedBackground record = .ok engine.background) :
    Changes allowed before (before.enrolled slug engine) := by
  refine .single (later_enrolled ordered) may ?_ fun other _ differ =>
    standing_enrolled_other ordered differ
  rw [standing_enrolled]
  exact .takenUp (ordered.playing_eq_none.mpr forgotten) stored valid kept place heard seen

theorem changes_begun (ordered : Ordered before) (plain : IsPlain slug)
    (may : allowed slug .begin) (stored : before.storage.story slug = .ok document)
    (valid : Story.ofJson document = .valid engine.story)
    (saved : before.storage.savePlaythrough slug (recordOf engine) = .ok storage) :
    Changes allowed before { before.enrolled slug engine with storage } := by
  obtain ⟨here, elsewhere⟩ := standing_saved (before.enrolled slug engine) plain saved
  refine .single ((later_enrolled ordered).of_same rfl rfl) may ?_ fun other plain' differ =>
    (elsewhere other plain' differ).trans (standing_enrolled_other ordered differ)
  rw [here, standing_enrolled]
  exact .begun stored valid

theorem changes_played (ordered : Ordered before) (plain : IsPlain slug)
    (may : allowed slug .play) (holds : before.sessions.get? slug = some number)
    (there : before.live[number]? = some live) (story : now.story = live.engine.story)
    (saved : before.storage.savePlaythrough slug (recordOf now) = .ok storage) :
    Changes allowed before { before.placed number ⟨now, true⟩ with storage } := by
  obtain ⟨here, elsewhere⟩ := standing_saved (before.placed number ⟨now, true⟩) plain saved
  refine .single ((later_placed ordered).of_same rfl rfl) may ?_ fun other plain' differ =>
    (elsewhere other plain' differ).trans (standing_placed_other ordered holds differ)
  rw [here, standing_placed ordered holds]
  exact .played ((playing_eq holds).trans there) story

theorem changes_waited (ordered : Ordered before) (may : allowed slug .wait)
    (holds : before.sessions.get? slug = some number)
    (there : before.live[number]? = some ⟨engine, true⟩) (same : engine.SameRecord now) :
    Changes allowed before (before.placed number ⟨now, true⟩) := by
  refine .single (later_placed ordered) may ?_ fun other _ differ =>
    standing_placed_other ordered holds differ
  rw [standing_placed ordered holds]
  exact .waited ((playing_eq holds).trans there) same

theorem changes_left {left : Live} (ordered : Ordered before) (may : allowed slug (.leave left))
    (holds : before.sessions.get? slug = some number) (there : before.live[number]? = some live)
    (story : left.engine.story = live.engine.story) :
    Changes allowed before (before.placed number left) := by
  refine .single (later_placed ordered) may ?_ fun other _ differ =>
    standing_placed_other ordered holds differ
  rw [standing_placed ordered holds]
  exact .left ((playing_eq holds).trans there) story

/-- When the current playthrough of a story is given up together with its record, only its document
can be another one. -/
theorem standing_cleared {first : Storage} {found : Bool} (plain : IsPlain slug)
    (same : Storage.SameBesides Storage.storiesFolder slug before.storage first)
    (removed : first.deletePlaythrough slug = .ok (found, storage)) :
    ({ before with sessions := before.sessions.erase slug, storage } : Backend).standing slug =
        ⟨none, first.story slug, .ok .null⟩ ∧
      ∀ other, IsPlain other → other ≠ slug →
        ({ before with sessions := before.sessions.erase slug, storage } : Backend).standing other =
          before.standing other := by
  have same' := Storage.remove_same Storage.playthroughsFolder_plain plain removed
  have scripts {folder : List String} {other : String}
      (apart : folder ≠ Storage.playthroughsFolder) :
      (folder, other) ≠ (Storage.playthroughsFolder, slug) := by simp [apart]
  constructor
  · simp only [standing, Named.get?_erase, ↓reduceIte, Option.bind_none,
      same'.story plain (scripts (by decide)) (scripts (by decide)),
      Storage.playthrough_delete plain removed]
  · intro other plain' differ
    have elsewhere {folder : List String} :
        (folder, other) ≠ (Storage.storiesFolder, slug) := by simp [differ]
    simp only [standing, Named.get?_erase, Ne.symm differ, ↓reduceIte,
      same'.story plain' (scripts (by decide)) (scripts (by decide)),
      same.story plain' elsewhere elsewhere,
      same'.playthrough plain' (by simp [differ]), same.playthrough plain' elsewhere]

theorem changes_uploaded {first : Storage} {story : Story} {found : Bool} (ordered : Ordered before)
    (plain : IsPlain slug) (may : allowed slug .upload)
    (valid : Story.ofJson document = .valid story)
    (written : before.storage.write Storage.storiesFolder slug document = .ok first)
    (removed : first.deletePlaythrough slug = .ok (found, storage)) :
    let after : Backend := { before with sessions := before.sessions.erase slug, storage }
    Changes allowed before after ∧ (after.standing slug).Vacant := by
  have same := Storage.write_same Storage.storiesFolder_plain plain written
  obtain ⟨here, elsewhere⟩ := standing_cleared plain same removed
  refine ⟨.single ((later_dropped ordered).of_same rfl rfl) may ?_ elsewhere, here ▸ ⟨rfl, rfl⟩⟩
  rw [here, Storage.story_write written]
  exact .uploaded valid

theorem changes_removed {first : Storage} {found found' : Bool} (ordered : Ordered before)
    (plain : IsPlain slug) (may : allowed slug .remove)
    (deleted : before.storage.deleteStory slug = .ok (found, first))
    (removed : first.deletePlaythrough slug = .ok (found', storage)) :
    let after : Backend := { before with sessions := before.sessions.erase slug, storage }
    Changes allowed before after ∧ (after.standing slug).Vacant := by
  have same := Storage.remove_same Storage.storiesFolder_plain plain deleted
  obtain ⟨here, elsewhere⟩ := standing_cleared plain same removed
  refine ⟨.single ((later_dropped ordered).of_same rfl rfl) may ?_ elsewhere, here ▸ ⟨rfl, rfl⟩⟩
  rw [here]
  exact .removed

end

end Backend

end VisualNovel
