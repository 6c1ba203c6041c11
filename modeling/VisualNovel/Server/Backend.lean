import VisualNovel.Storage.Basic
/-!
Playthroughs in memory, one for each story.  A playthrough stays in memory between requests, and
every completed action is written through to its record, from which it can be taken up again.  Each
has a number of its own, so that a response that is still being graded finds the playthrough it was
made in even when another one has taken its place.
-/

namespace VisualNovel

open Schema

/-- A playthrough in memory.  It is not intact after something that is no state has been put in the
place of its state. -/
structure Live where
  engine : Engine
  intact : Bool

structure Backend where
  storage : Storage
  /-- the key that stands in for a missing one in the settings -/
  environmentKey : String
  /-- every playthrough that there has been, by its number -/
  live : List Live
  /-- the number of the current playthrough of a story -/
  sessions : Named Nat

/-- Why work on a request ends early. -/
inductive Stop where
  | refused (status : Nat) (detail : String)
  | unacceptable (first : Issue) (more : List Issue)
  | mishap (why : Mishap)
  deriving DecidableEq

/-- Work on a request; what was changed before it ends early stays changed. -/
abbrev Serving := ExceptT Stop (StateM Backend)

namespace Backend

/-- A backend without playthroughs, with built-in stories if there is a place for them. -/
def fresh (presets : Option (List (String × Json))) : Backend := ⟨.fresh presets, "", [], .empty⟩

/-- Ends the work with a mishap. -/
def fail {α : Type} (why : Mishap) : Serving α := throw (.mishap why)

/-- Goes on with an outcome that a mishap may have prevented. -/
def demand {α : Type} : Except Mishap α → Serving α
  | .ok value => pure value
  | .error why => fail why

/-- Reads from what is kept. -/
def look {α : Type} (read : Storage → Except Mishap α) : Serving α := do
  demand (read (← get).storage)

/-- Changes what is kept. -/
def keep {α : Type} (change : Storage → Except Mishap (α × Storage)) : Serving α := do
  let (value, storage) ← demand (change (← get).storage)
  modify fun backend => { backend with storage }
  return value

/-- The engine of a number. -/
def engineOf (number : Nat) : Serving Engine := do
  match (← get).live[number]? with
  | some ⟨engine, true⟩ => return engine
  | _ => fail .wrongShape

/-- Puts an engine in the place of a number. -/
def replace (number : Nat) (engine : Engine) : Serving Unit :=
  modify fun backend => { backend with live := backend.live.set number ⟨engine, true⟩ }

/-- Makes an engine the current one of a story. -/
def enroll (slug : String) (engine : Engine) : Serving Nat := do
  let number := (← get).live.length
  modify fun backend =>
    { backend with
      live := backend.live ++ [⟨engine, true⟩]
      sessions := backend.sessions.insert slug number }
  return number

/-- Forgets the current playthrough of a story. -/
def dropSession (slug : String) : Serving Unit :=
  modify fun backend => { backend with sessions := backend.sessions.erase slug }

/-- Forgets all playthroughs. -/
def resetSessions : Serving Unit := modify fun backend => { backend with sessions := .empty }

/-- The record of an engine. -/
def recordOf (engine : Engine) : Json :=
  Storage.playthroughRecord engine.snapshot engine.playback.toJson (.ofText? engine.background)

/-- Writes a playthrough to its record. -/
def persist (slug : String) (number : Nat) : Serving Unit := do
  let engine ← engineOf number
  keep fun storage => do return ((), ← storage.savePlaythrough slug (recordOf engine))

/-- A document as the value that it should hold. -/
def expect {α : Type} (expects : Expects α) (document : Json) : Serving α :=
  match expects document with
  | .valid value => pure value
  | .invalid first more => fail (.invalid first more)

/-- The story of a slug, if there is one. -/
def loadStory (slug : String) : Serving (Option Story) := do
  match ← look fun storage => storage.story slug with
  | .null => return none
  | document => return some (← expect Story.ofJson document)

/-- Begins a playthrough of a story in place of any other, and gives its number. -/
def newEngine (slug : String) : Serving (Option Nat) := do
  match ← loadStory slug with
  | none => return none
  | some story =>
    let config ← look Storage.config
    let playback ← demand config.playback
    let turn := Engine.begin story playback none
    match turn.outcome with
    | .error fault => fail (.fault fault)
    | .ok _ =>
      let number ← enroll slug turn.engine
      persist slug number
      return some number

/-- The playback in a record. -/
def recordedPlayback (record : List (String × Json)) : Except Mishap Playback := do
  let document := (Json.lookup? "playback" record).getD .null
  let fields ← if document.truthy then Json.demandFields document else pure []
  (Playback.ofFields fields).mapError .volume

/-- The background in a record. -/
def recordedBackground (record : List (String × Json)) : Except Mishap (Option String) :=
  match (Json.lookup? "background" record).getD .null with
  | .null => .ok none
  | .str background => .ok (some background)
  | _ => .error (.invalid ⟨.notText, [.key "background"]⟩ [])

/-- The state in a record; nothing when it cannot be read. -/
def recordedState? (record : List (String × Json)) : Option GameState :=
  (Json.lookup? "state" record).bind fun state => (GameState.ofJson state).value?

/-- The number of the current playthrough of a story, which is taken up from its record if need be.
-/
def getEngine (slug : String) : Serving (Option Nat) := do
  match (← get).sessions.get? slug with
  | some number => return some number
  | none =>
    match ← look fun storage => storage.playthrough slug with
    | .null => return none
    | record =>
      match ← loadStory slug with
      | none => return none
      | some story =>
        match record with
        | .obj record =>
          match recordedState? record with
          | none => return none
          | some state =>
            let playback ← demand (recordedPlayback record)
            let background ← demand (recordedBackground record)
            return some (← enroll slug (.resume story state playback background))
        | _ => fail .wrongKind

/-- Keeps nothing but one story to try things out with. -/
def keepOnly (story : Story) : Serving Unit := do
  modify fun backend =>
    { backend with
      storage := ⟨Storage.dataFolders.foldl Directory.clear backend.storage.directory⟩ }
  resetSessions
  let _ ← keep fun storage => storage.saveStory (story.toJson .concise) none

end Backend

end VisualNovel
