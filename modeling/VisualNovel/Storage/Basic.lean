import VisualNovel.Storage.Config
import VisualNovel.Storage.Directory
import VisualNovel.Text.Slug
/-!
What the application keeps: stories, one playthrough for each, one save slot for all, and settings.
Stories that were uploaded cover the built-in ones of the same name; removing one brings the
built-in story back.
-/

namespace VisualNovel

/-- The files that are kept and the built-in files, side by side in folders of their own. -/
structure Storage where
  directory : Directory

namespace Storage

/-- The folders of what is kept. -/
def dataFolders : List String := ["data/stories", "data/playthroughs", "data/saves"]

/-- The folders of the built-in files. -/
def presetFolders : List String := ["presets", "presets/stories"]

/-- A storage in which nothing is kept yet, with built-in stories by their slugs if there is a place
for them. -/
def fresh (presets : Option (List (String × Json))) : Storage where
  directory :=
    { files := Named.ofList ((presets.getD []).map fun (slug, document) =>
        ("presets/stories/" ++ slug ++ ".json", File.document document))
      folders := "data" :: dataFolders ++ (if presets.isSome then presetFolders else []) }

/-- A refusal to read as a mishap. -/
def reading {α : Type} (outcome : Except Json.ReadError α) : Except Mishap α :=
  outcome.mapError .unreadable

/-- The file of a name inside a folder. -/
def file? (storage : Storage) (folder : List String) (name : String) :
    Except Mishap (Option File) :=
  (storage.directory.file? folder name).mapError .noPlace

/-- The document of a name inside a folder; null when there is no file. -/
def read (storage : Storage) (folder : List String) (name : String) : Except Mishap Json := do
  match ← storage.file? folder name with
  | some file => reading file.read
  | none => return .null

/-- Writes a document under a name. -/
def write (storage : Storage) (folder : List String) (name : String) (document : Json) :
    Except Mishap Storage :=
  ((storage.directory.write? folder name document).map Storage.mk).mapError .noPlace

/-- Removes the file of a name, and tells whether there was one. -/
def remove (storage : Storage) (folder : List String) (name : String) :
    Except Mishap (Bool × Storage) :=
  ((storage.directory.remove? folder name).map fun (found, directory) =>
    (found, ⟨directory⟩)).mapError .noPlace

/-! Stories -/

def storiesFolder : List String := ["data", "stories"]

def presetStoriesFolder : List String := ["presets", "stories"]

/-- The document of a story as it was written, an uploaded one before a built-in one; null when
there is none. -/
def story (storage : Storage) (slug : String) : Except Mishap Json := do
  match ← storage.file? storiesFolder slug with
  | some file => reading file.read
  | none => storage.read presetStoriesFolder slug

/-- What a list of stories tells of one. -/
def summary (slug source : String) (document : Json) : Except Mishap Json := do
  let fields ← Json.demandFields document
  return .obj [("slug", .str slug), ("title", (Json.lookup? "title" fields).getD (.str slug)),
    ("author", (Json.lookup? "author" fields).getD .null),
    ("version", (Json.lookup? "version" fields).getD .null), ("source", .str source)]

/-- The summaries of the stories of one source by their slugs. -/
def summaries (storage : Storage) (folder : List String) (source : String) :
    Except Mishap (List (String × Json)) :=
  (storage.directory.filesIn (Directory.joinPath folder)).mapM fun (slug, file) => do
    return (slug, ← summary slug source (← reading file.read))

/-- All stories, the built-in ones first; an uploaded story takes the place of the one it covers. -/
def stories (storage : Storage) : Except Mishap (List Json) := do
  let builtIn ← storage.summaries presetStoriesFolder "preset"
  let uploaded ← storage.summaries storiesFolder "user"
  return ((Named.ofList builtIn).insertAll uploaded).entries.map Prod.snd

/-- The slug that a story's own title gives it. -/
def slugOfTitle (document : Json) : Except Mishap String := do
  match Json.lookup? "title" (← Json.demandFields document) with
  | some (.str title) => return Text.slugify title
  | none => return Text.slugify ""
  | some _ => throw .wrongKind

/-- Keeps a story under a slug, or under the slug of its title, and gives that slug. -/
def saveStory (storage : Storage) (document : Json) (slug : Option String) :
    Except Mishap (String × Storage) := do
  let slug ← match nonempty? slug with
    | some slug => pure slug
    | none => slugOfTitle document
  return (slug, ← storage.write storiesFolder slug document)

def deleteStory (storage : Storage) (slug : String) : Except Mishap (Bool × Storage) :=
  storage.remove storiesFolder slug

/-! Playthroughs -/

def playthroughsFolder : List String := ["data", "playthroughs"]

/-- The record of a playthrough; null when there is none. -/
def playthrough (storage : Storage) (slug : String) : Except Mishap Json :=
  storage.read playthroughsFolder slug

/-- What stands in a record for the time when it was written, which is not kept. -/
def someTime : Json := .str ""

def playthroughRecord (state playback background : Json) : Json :=
  .obj [("state", state), ("playback", if playback.truthy then playback else .obj []),
    ("background", background), ("updated_at", someTime)]

def savePlaythrough (storage : Storage) (slug : String) (record : Json) : Except Mishap Storage :=
  storage.write playthroughsFolder slug record

def deletePlaythrough (storage : Storage) (slug : String) : Except Mishap (Bool × Storage) :=
  storage.remove playthroughsFolder slug

/-! The save slot -/

def savesFolder : List String := ["data", "saves"]

/-- The name of the one slot. -/
def slot : String := "visual_novel_save"

/-- What is in the slot; null when it is empty. -/
def snapshot (storage : Storage) : Except Mishap Json :=
  storage.read savesFolder slot

def snapshotOf (slug : String) (state : Json) : Json :=
  .obj [("story", .str slug), ("state", state), ("saved_at", someTime)]

def saveSnapshot (storage : Storage) (snapshot : Json) : Except Mishap Storage :=
  storage.write savesFolder slot snapshot

def deleteSnapshot (storage : Storage) : Except Mishap (Bool × Storage) :=
  storage.remove savesFolder slot

/-! Settings -/

def configPath : String := "data/config.json"

/-- The standard settings with what is stored laid over them. -/
def config (storage : Storage) : Except Mishap Config :=
  match storage.directory.files.get? configPath with
  | none => .ok .standard
  | some file => do
    let stored ← reading file.read
    return Config.standard.merge (← Json.demandFields stored)

/-- Lays settings over those that are stored, and stores the whole. -/
def updateConfig (storage : Storage) (changes : List (String × Json)) :
    Except Mishap (Config × Storage) := do
  let config := (← storage.config).merge changes
  let directory := storage.directory
  let files := directory.files.insert configPath (.document config.toJson)
  return (config, ⟨{ directory with files }⟩)

end Storage

end VisualNovel
