import VisualNovel.Proofs.Slugs
import VisualNovel.Server.Backend

/-! Where a name leads, told from the name alone. On the way to a file a name may lead out of the
folder it starts in, and whether it leads anywhere depends on the folders that are there; but it
never leads to two places. So the places that a playthrough can be written to are known beforehand:
the save slot, and the place of its record. -/
namespace VisualNovel

/-! ## Where names lead -/

namespace Directory

variable {directory after : Directory} {folder path : List String} {name : String}

/-- The place that names lead to from a folder, as far as they lead anywhere. -/
def walk : List String → List String → List String
  | folder, [] => folder
  | folder, [name] => name :: folder
  | folder, name :: next :: rest =>
    if name = "" ∨ name = "." then walk folder (next :: rest)
    else if name = ".." then walk (above folder) (next :: rest)
    else walk (name :: folder) (next :: rest)

theorem follow_walk : ∀ (names folder : List String), directory.follow folder names = .ok path →
    path = walk folder names
  | [], folder, followed => (Except.ok.inj followed).symm
  | [name], folder, followed => by
    unfold follow at followed
    split at followed
    · cases followed
    · exact (Except.ok.inj followed).symm
  | name :: next :: rest, folder, followed => by
    unfold follow at followed
    unfold walk
    split at followed
    · rename_i stays
      rw [if_pos stays]
      exact follow_walk (next :: rest) folder followed
    · rename_i goes
      rw [if_neg goes]
      split at followed
      · rename_i back
        rw [if_pos back]
        exact follow_walk (next :: rest) (above folder) followed
      · rename_i down
        rw [if_neg down]
        split at followed
        · cases followed
        · dsimp only at followed
          split at followed
          · exact follow_walk (next :: rest) (name :: folder) followed
          · split at followed <;> cases followed

/-- The place of the file of a name inside a folder. -/
def placeOf (folder : List String) (name : String) : String :=
  joinPath (walk folder.reverse (((name ++ ".json").toList.splitOn '/').map String.ofList)).reverse

/-- A name leads to its place or nowhere. -/
theorem path?_eq_placeOf {path : String} (leads : directory.path? folder name = .ok path) :
    path = placeOf folder name := by
  simp only [path?] at leads
  split at leads
  · cases leads
  · split at leads
    · cases leads
    · obtain ⟨way, followed, named⟩ := Outcome.bind_eq_ok.mp leads
      cases named
      rw [placeOf, ← follow_walk _ _ followed]

theorem placeOf_plain (plain : IsPlain name) :
    placeOf folder name = joinPath (folder ++ [name ++ ".json"]) := by
  rw [placeOf, List.splitOn_eq_singleton plain.withEnding]
  simp [walk]

end Directory

namespace Storage

variable {storage before between after : Storage} {folder : List String} {name slug : String}

/-- What is kept is the same except at one place. -/
structure SameApartFrom (place : String) (before after : Storage) : Prop where
  folders : after.directory.folders = before.directory.folders
  files : ∀ path, path ≠ place → after.directory.files.get? path = before.directory.files.get? path

theorem write_place {document : Json} (written : storage.write folder name document = .ok after) :
    SameApartFrom (Directory.placeOf folder name) storage after ∧
      after.directory.files.get? (Directory.placeOf folder name) = some (.document document) := by
  obtain ⟨path, leads, rfl⟩ := write_eq_ok.mp written
  rw [← Directory.path?_eq_placeOf leads]
  refine ⟨⟨rfl, fun other apart => ?_⟩, ?_⟩
  · simp [Directory.put, Ne.symm apart]
  · simp [Directory.put]

theorem remove_place {found : Bool} (removed : storage.remove folder name = .ok (found, after)) :
    SameApartFrom (Directory.placeOf folder name) storage after := by
  rcases remove_cases removed with ⟨path, _, leads, _, _, left⟩ | ⟨_, _, rfl⟩
  · rw [← Directory.path?_eq_placeOf leads]
    exact ⟨by rw [left], fun other apart => by simp [left, Ne.symm apart]⟩
  · exact ⟨rfl, fun _ _ => rfl⟩

/-- The place of the save slot. -/
def slotPlace : String := Directory.placeOf savesFolder slot

theorem slotPlace_eq : slotPlace = "data/saves/visual_novel_save.json" := by decide

/-- The place of the record of a story. -/
def recordPlace (slug : String) : String := Directory.placeOf playthroughsFolder slug

/-- A name that leads up at once forgets which folder it has started in, so the record of a story of
such a name has the place of the story itself. -/
theorem recordPlace_up (name : String) :
    recordPlace ("../" ++ name) = Directory.placeOf storiesFolder ("../" ++ name) := by
  have parts : ("../" ++ name ++ ".json").toList.splitOn '/' =
      ['.', '.'] :: (name ++ ".json").toList.splitOn '/' := by
    simp [List.splitOn_cons_eq_if_modifyHead]
  obtain ⟨first, more, split⟩ :=
    List.exists_cons_of_ne_nil (List.splitOn_ne_nil '/' (name ++ ".json").toList)
  rw [recordPlace, Directory.placeOf, Directory.placeOf, parts, split]
  rfl

/-- Nothing is different besides the save slot and places of records, which hold records. -/
structure Touches (about : String → Prop) (before after : Storage) : Prop where
  folders : after.directory.folders = before.directory.folders
  files : ∀ path, path ≠ slotPlace →
    after.directory.files.get? path = before.directory.files.get? path ∨
      ∃ slug engine, about slug ∧ path = recordPlace slug ∧
        after.directory.files.get? path = some (.document (Backend.recordOf engine))

namespace Touches

variable {about about' : String → Prop}

theorem refl (about : String → Prop) (storage : Storage) : Touches about storage storage :=
  ⟨rfl, fun _ _ => .inl rfl⟩

theorem trans (first : Touches about before between) (second : Touches about between after) :
    Touches about before after where
  folders := second.folders.trans first.folders
  files path apart := by
    rcases second.files path apart with same | recorded
    · rw [same]
      exact first.files path apart
    · exact .inr recorded

theorem mono (touches : Touches about before after) (more : ∀ slug, about slug → about' slug) :
    Touches about' before after where
  folders := touches.folders
  files path apart := (touches.files path apart).imp_right
    fun ⟨slug, engine, within, place, holds⟩ => ⟨slug, engine, more slug within, place, holds⟩

/-- What is only done to the slot touches nothing else. -/
theorem of_slot (same : SameApartFrom slotPlace before after) : Touches about before after :=
  ⟨same.folders, fun path apart => .inl (same.files path apart)⟩

theorem savePlaythrough {engine : Engine} (within : about slug)
    (saved : before.savePlaythrough slug (Backend.recordOf engine) = .ok after) :
    Touches about before after := by
  obtain ⟨same, holds⟩ := write_place saved
  refine ⟨same.folders, fun path _ => ?_⟩
  by_cases here : path = recordPlace slug
  · subst here
    exact .inr ⟨slug, engine, within, rfl, holds⟩
  · exact .inl (same.files path here)

end Touches

/-- Whatever is kept outside the folder of records and the save slot is the same. -/
structure SameBesidesRecords (before after : Storage) : Prop where
  files : ∀ path, Directory.leadsInto (Directory.joinPath playthroughsFolder) path = false →
    path ≠ slotPlace → after.directory.files.get? path = before.directory.files.get? path
  story : ∀ slug, IsPlain slug → after.story slug = before.story slug
  config : after.config = before.config

/-- The record of a story is inside the folder of records. -/
def KeepsToRecords (slug : String) : Prop :=
  Directory.leadsInto (Directory.joinPath playthroughsFolder) (recordPlace slug) = true

instance (slug : String) : Decidable (KeepsToRecords slug) :=
  inferInstanceAs (Decidable (_ = true))

/-- Only a name with a slash can lead out of it. -/
theorem keepsToRecords_of_plain (plain : IsPlain slug) : KeepsToRecords slug := by
  rw [KeepsToRecords, recordPlace, Directory.placeOf_plain plain]
  simp [Directory.leadsInto, Directory.joinPath, playthroughsFolder]

theorem Touches.sameBesidesRecords {about : String → Prop} (touches : Touches about before after)
    (keeps : ∀ slug, about slug → KeepsToRecords slug) : SameBesidesRecords before after := by
  have files (path : String)
      (outside : Directory.leadsInto (Directory.joinPath playthroughsFolder) path = false)
      (apart : path ≠ slotPlace) :
      after.directory.files.get? path = before.directory.files.get? path := by
    rcases touches.files path apart with same | ⟨slug, _, within, rfl, _⟩
    · exact same
    · cases outside.symm.trans (keeps slug within)
  refine ⟨files, fun slug plain => ?_, ?_⟩
  · have kept (folder : List String)
        (outside : Directory.leadsInto (Directory.joinPath playthroughsFolder)
          (Directory.joinPath (folder ++ [slug ++ ".json"])) = false)
        (apart : Directory.joinPath (folder ++ [slug ++ ".json"]) ≠ slotPlace) :
        after.file? folder slug = before.file? folder slug := by
      refine congrArg (·.mapError Mishap.noPlace) (Directory.file?_same plain fun path leads => ?_)
      obtain ⟨_, rfl⟩ := (Directory.path?_plain_eq_ok plain).mp leads
      exact files _ outside apart
    have stories : after.file? storiesFolder slug = before.file? storiesFolder slug := by
      refine kept storiesFolder ?_ fun same => ?_
      · simp [Directory.leadsInto, Directory.joinPath, playthroughsFolder, storiesFolder,
          List.isPrefixOf]
      · have texts := congrArg String.toList same
        simp [slotPlace_eq, Directory.joinPath, storiesFolder] at texts
    have presets :
        after.file? presetStoriesFolder slug = before.file? presetStoriesFolder slug := by
      refine kept presetStoriesFolder ?_ fun same => ?_
      · simp [Directory.leadsInto, Directory.joinPath, playthroughsFolder, presetStoriesFolder,
          List.isPrefixOf]
      · have texts := congrArg String.toList same
        simp [slotPlace_eq, Directory.joinPath, presetStoriesFolder] at texts
    simp only [story, read, stories, presets]
  · simp only [config, files configPath (by decide) (by decide)]

end Storage

end VisualNovel
