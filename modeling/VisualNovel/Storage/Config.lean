import VisualNovel.Calls.Grading
import VisualNovel.LanguageModel.Connection
import VisualNovel.Mishap
/-!
Settings of the whole application in three sections.  What is stored is laid over the standard
settings key by key, and values are kept as they are given until they are used.
-/

namespace VisualNovel

/-- A section of settings. -/
abbrev Section := List (String × Json)

structure Config where
  connection : Section
  grading : Section
  audio : Section

namespace Config

def standard : Config where
  connection :=
    [("provider_url", .str Connection.standardUrl), ("provider_format", .str "gemini"),
     ("api_key", .str ""), ("model", .str Connection.standardModel), ("timeout", .int 120)]
  grading := [("max_attempts", .int 3), ("attempt_timeout", .int 30)]
  audio := [("bgm_volume", .float Playback.standardBgmVolume),
    ("sfx_volume", .float Playback.standardSfxVolume)]

/-- A section with the given values laid over it; what is no object gives none. -/
def layOver (layer : Option Json) (values : Section) : Section :=
  match layer with
  | some (.obj given) =>
    given.foldl (fun values (key, value) => Json.assign key value values) values
  | _ => values

/-- Settings with the sections of a document laid over them. -/
def merge (config : Config) (document : List (String × Json)) : Config where
  connection := layOver (Json.lookup? "llm_connection" document) config.connection
  grading := layOver (Json.lookup? "grading" document) config.grading
  audio := layOver (Json.lookup? "audio" document) config.audio

def toJson (config : Config) : Json :=
  .obj [("llm_connection", .obj config.connection), ("grading", .obj config.grading),
    ("audio", .obj config.audio)]

/-- The setting of a key in a section, which need not be there. -/
def setting (values : Section) (key : String) (standard : Json) : Json :=
  (Json.lookup? key values).getD standard

/-- The connection to the language model; a key of the environment stands in for a missing one. -/
def connectionTo (config : Config) (environmentKey : String) : Except Mishap Connection :=
  match Json.lookup? "provider_url" config.connection with
  | some (.str _) =>
    let known := config.connection.filter fun (key, _) => key != "max_output_tokens"
    let connection := Connection.ofSettings known
    .ok (if connection.apiKey.truthy then connection
      else { connection with apiKey := .str environmentKey })
  | _ => .error .wrongShape

/-- How responses are graded under some settings. -/
structure GradingSetup where
  connection : Connection
  maxAttempts : Number
  attemptTimeout : Json

def gradingSetup (config : Config) (environmentKey : String) : Except Mishap GradingSetup := do
  let connection ← config.connectionTo environmentKey
  let maxAttempts ← Grader.atLeastOne (setting config.grading "max_attempts" (.int 3))
  return { connection, maxAttempts
           attemptTimeout := setting config.grading "attempt_timeout" (.int 30) }

/-- The grader of a setup; attempts that are no integer cannot be counted. -/
def GradingSetup.grader (setup : GradingSetup) : Grader :=
  Grader.counting setup.maxAttempts setup.attemptTimeout

/-- A silent playback with the volumes of the settings. -/
def playback (config : Config) : Except Mishap Playback :=
  let volumes := config.audio.filter fun (key, _) => key == "bgm_volume" || key == "sfx_volume"
  (Playback.ofFields volumes).mapError .volume

end Config

end VisualNovel
