import VisualNovel.Server.Body
import VisualNovel.Server.Endpoint
import VisualNovel.Server.Play
/-!
Answering requests.  A request that needs a language model sends requests of its own over a network;
all others are answered from what the backend holds.
-/

namespace VisualNovel

open Schema

/-- A request to the server. -/
structure Call where
  method : String
  path : String
  payload : Payload

/-- Whether a request can be sent: every character in its texts has bytes.  A document is sent with
escapes for those that have none. -/
def Call.isEncodable (call : Call) : Bool :=
  !Text.holdsSurrogate call.path &&
    match call.payload with
    | .text content => !Text.holdsSurrogate content
    | .nothing | .document _ => true

structure HttpAnswer where
  status : Nat
  body : Json

namespace Backend

/-- The value that a body stands for. -/
def payloadAs {α : Type} (payload : Payload) (expects : Expects α) : Serving α :=
  match payload.expect expects with
  | .ok value => pure value
  | .error stop => throw stop

/-- Keeps a story under a slug; its playthrough is given up. -/
def uploadStory (slug : String) (fields : List (String × Json)) : Serving Json := do
  match Story.ofJson (.obj fields) with
  | .invalid first more =>
    refuse 422 ("Invalid story document: " ++ toString (first :: more).length ++ " error(s)")
  | .valid _ =>
    let _ ← keep fun storage => storage.saveStory (.obj fields) (some slug)
    dropSession slug
    let _ ← keep fun storage => storage.deletePlaythrough slug
    return .obj [("slug", .str slug), ("title", (Json.lookup? "title" fields).getD (.str slug))]

/-- Removes an uploaded story together with its playthrough. -/
def deleteStory (slug : String) : Serving Json := do
  if ← keep fun storage => storage.deleteStory slug then
    dropSession slug
    let _ ← keep fun storage => storage.deletePlaythrough slug
    return .obj [("ok", .bool true)]
  else refuse 404 storyNotFound

/-- The document of a story. -/
def storyDocument (slug : String) : Serving Json := do
  match ← look fun storage => storage.story slug with
  | .null => refuse 404 storyNotFound
  | document => return document

/-- Changes settings and gives all of them. -/
def changeSettings (changes : List (String × Json)) : Serving Json := do
  let config ← keep fun storage => storage.updateConfig changes
  return config.toJson

/-- What is done with a playthrough. -/
def playLocally (slug : String) (payload : Payload) : PlayAction → Serving Json
  | .begin => play slug
  | .watch => watch slug
  | .name => do
    let name ← payloadAs payload (oneText "name")
    act slug fun engine => engine.start name
  | .advance => act slug Engine.advance
  | .choice => do
    let choiceId ← payloadAs payload (oneText "choice_id")
    act slug fun engine => engine.choose choiceId
  | .input => do
    let value ← payloadAs payload (oneText "value")
    act slug fun engine => engine.submit value
  | .showFeedback => do showFeedback slug (← payloadAs payload visibleBody)
  | .feedback => feedback slug
  | .save => save slug
  | .load => load slug
  | .restart => restart slug

/-- What is answered without a network. -/
def answerLocally (payload : Payload) : LocalEndpoint → Serving Json
  | .health => return .obj [("status", .str "ok")]
  | .settings => do return (← look Storage.config).toJson
  | .changeSettings => do changeSettings (← payloadAs payload anyObject)
  | .stories => do return .arr (← look Storage.stories)
  | .story slug => storyDocument slug
  | .uploadStory slug => do uploadStory slug (← payloadAs payload uploadBody)
  | .deleteStory slug => deleteStory slug
  | .play slug action => playLocally slug payload action

section Network

variable {Network : Type} (send : Request → Network → Exchange × Network)

/-- Responds in the playthrough of a story and waits for the grade. -/
def respond (slug : String) (payload : Payload) (backend : Backend) (network : Network) :
    Except Stop Json × Backend × Network :=
  let opening : Serving InFlight := do openResponse slug (← payloadAs payload (oneText "value"))
  let (opened, backend) := opening.run.run backend
  match opened with
  | .error stop => (.error stop, backend, network)
  | .ok inFlight =>
    let (outcome, network) := inFlight.grading.run (inFlight.connection.ask send) network
    let (answer, backend) := (closeResponse slug inFlight outcome).run.run backend
    (answer, backend, network)

/-- Asks for recommendations on the playthrough of a story. -/
def recommend (slug : String) (backend : Backend) (network : Network) :
    Except Stop Json × Backend × Network :=
  let (found, backend) := (finishedGame slug).run.run backend
  match found with
  | .error stop => (.error stop, backend, network)
  | .ok (game, connection) =>
    let (outcome, network) := game.recommend (connection.ask send) network
    let (answer, backend) := (concludeGame outcome).run.run backend
    (answer, backend, network)

/-- Finds out whether a backend for language models can be reached. -/
def checkConnection (payload : Payload) (network : Network) : Except Stop Json × Network :=
  match payload.expect probeBody with
  | .error stop => (.error stop, network)
  | .ok probe =>
    let (exchange, network) := send probe.request network
    match Probe.reached exchange with
    | .ok ok => (.ok (.obj [("ok", .bool ok)]), network)
    | .error why => (.error (.mishap why), network)

/-- What comes of asking for something. -/
def answer (endpoint : Endpoint) (payload : Payload) (backend : Backend) (network : Network) :
    Except Stop Json × Backend × Network :=
  match endpoint with
  | .here endpoint =>
    let (answer, backend) := (answerLocally payload endpoint).run.run backend
    (answer, backend, network)
  | .checkConnection =>
    let (answer, network) := checkConnection send payload network
    (answer, backend, network)
  | .respond slug => respond send slug payload backend network
  | .recommend slug => recommend send slug backend network

/-- An answer that only says what is wrong. -/
def detail (status : Nat) (text : String) : HttpAnswer := ⟨status, .obj [("detail", .str text)]⟩

/-- The answer that an outcome is written as. -/
def written : Except Stop Json → Except Mishap HttpAnswer
  | .ok body => (obstacle? [body]).elim (.ok ⟨200, body⟩) .error
  | .error (.refused status text) =>
    (obstacle? [.str text]).elim (.ok (detail status text)) .error
  | .error (.unacceptable first more) =>
    .ok ⟨422, .obj [("detail", .arr ((first :: more).map Issue.toJson))]⟩
  | .error (.mishap why) => .error why

/-- What comes of reading an answer without a body. -/
def noBody : Mishap := .unreadable (.at .expectingValue [] [])

/-- Serves a request. -/
def serve (call : Call) (backend : Backend) (network : Network) :
    Except Mishap HttpAnswer × Backend × Network :=
  match Endpoint.find call.method call.path, call.isEncodable with
  | .error .noAddress, _ => (.error .noAddress, backend, network)
  | _, false => (.error .unencodable, backend, network)
  | .error .unknownPath, true => (.ok (detail 404 "Not Found"), backend, network)
  | .error .wrongMethod, true => (.ok (detail 405 "Method Not Allowed"), backend, network)
  | .error .nobody, true => (.error noBody, backend, network)
  | .ok endpoint, true =>
    let (outcome, backend, network) := answer send endpoint call.payload backend network
    (written outcome, backend, network)

end Network

end Backend

end VisualNovel
