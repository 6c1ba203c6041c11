import VisualNovel.Json.Display
import VisualNovel.Json.Reader
import VisualNovel.LanguageModel.Reply
/-!
Language models behind an address.  A connection turns a prompt into a request in one of three wire
formats, and whatever comes back into a reply.  Settings are taken as they are given: what is no
text becomes one only where it is put into an address or a header.
-/

namespace VisualNovel

inductive Method where
  | get
  | post
  deriving DecidableEq

def Method.word : Method → String
  | get => "GET"
  | post => "POST"

structure Request where
  method : Method
  url : String
  params : List (String × Json)
  headers : List (String × String)
  body : Option Json

/-- The body of an answer: a document, or text that may hold one. -/
inductive Body where
  | document (value : Json)
  | text (content : String)

/-- How a request can end. -/
inductive Exchange where
  | answered (status : Int) (body : Body)
  | noConnection
  | timedOut
  /-- a failure of a kind that connections do not have -/
  | foreign (kind : String)
  /-- any other failure of the connection, with its kind and what is said of it -/
  | failed (kind message : String)

/-- Whether a status stands for success. -/
def isSuccess (status : Int) : Bool := 200 ≤ status && status ≤ 299

/-- The document in a body. -/
def Body.read : Body → Except Json.ReadError Json
  | document value => .ok value
  | text content => Json.readBytes content

inductive WireFormat where
  | gemini
  | openai
  | koboldcpp
  deriving DecidableEq

/-- The format that a setting names; one that is not known counts as the last. -/
def WireFormat.ofJson : Json → WireFormat
  | .str "gemini" => .gemini
  | .str "openai" => .openai
  | _ => .koboldcpp

/-- How a model is reached. -/
structure Connection where
  baseUrl : String
  apiKey : Json
  format : Json
  model : Json
  timeout : Json
  maxOutputTokens : Json

namespace Connection

def standardUrl : String := "https://generativelanguage.googleapis.com"

def standardModel : String := "gemini-2.5-flash"

def standardTimeout : Json := .float (.ofDecimal false 120 0)

def standardMaxOutputTokens : Json := .int 1024

/-- An address without the slashes at its end. -/
def dropSlashes (url : String) : String :=
  String.ofList (url.toList.reverse.dropWhile (· == '/')).reverse

/-- A connection with nothing set. -/
def standard : Connection :=
  ⟨standardUrl, .str "", .str "gemini", .str "", standardTimeout, standardMaxOutputTokens⟩

/-- A connection from settings by name; without an address there is only the standard one. -/
def ofSettings (settings : List (String × Json)) : Connection :=
  let given (name : String) (value : Json) : Json := (Json.lookup? name settings).getD value
  { baseUrl := dropSlashes (match Json.lookup? "provider_url" settings with
      | some (.str url) => url
      | _ => standardUrl)
    apiKey := given "api_key" standard.apiKey
    format := given "provider_format" standard.format
    model := given "model" standard.model
    timeout := given "timeout" standard.timeout
    maxOutputTokens := given "max_output_tokens" standard.maxOutputTokens }

def wireFormat (connection : Connection) : WireFormat := .ofJson connection.format

/-- What is said when a key is needed and there is none. -/
def missingKey : String := "Gemini API key not configured"

def harmCategories : List String :=
  ["HARM_CATEGORY_HARASSMENT", "HARM_CATEGORY_HATE_SPEECH", "HARM_CATEGORY_SEXUALLY_EXPLICIT",
   "HARM_CATEGORY_DANGEROUS_CONTENT"]

/-- From which degree on each kind of harm is blocked. -/
def safetySettings : Json := .arr (harmCategories.map fun category =>
  .obj [("category", .str category), ("threshold", .str "BLOCK_MEDIUM_AND_ABOVE")])

def headers (connection : Connection) : List (String × String) :=
  ("Content-Type", "application/json") ::
    if connection.apiKey.truthy && connection.wireFormat != .gemini then
      [("Authorization", "Bearer " ++ connection.apiKey.display)]
    else []

/-- A request for a completion at a place of the backend. -/
def post (connection : Connection) (place : String) (params body : List (String × Json)) :
    Request :=
  ⟨.post, connection.baseUrl ++ place, params, connection.headers, some (.obj body)⟩

/-- The body of a request in the first format. -/
def generationBody (connection : Connection) (prompt : Json) : List (String × Json) :=
  [("contents", .arr [.obj [("parts", .arr [.obj [("text", prompt)]])]]),
   ("generationConfig", .obj
     [("temperature", .float (.ofDecimal false 7 (-1))), ("topK", .int 40),
      ("topP", .float (.ofDecimal false 95 (-2))),
      ("maxOutputTokens", connection.maxOutputTokens)]),
   ("safetySettings", safetySettings)]

/-- The request that sends a prompt; nothing when a key is needed and there is none. -/
def request? (connection : Connection) (prompt : Json) : Option Request :=
  match connection.wireFormat with
  | .gemini =>
    if connection.apiKey.truthy then
      let model := if connection.model.truthy then connection.model.display else standardModel
      some (connection.post ("/v1beta/models/" ++ model ++ ":generateContent")
        [("key", connection.apiKey)] (connection.generationBody prompt))
    else none
  | .openai =>
    let model := if connection.model.truthy then [("model", connection.model)] else []
    some (connection.post "/v1/completions" [] (("prompt", prompt) :: model))
  | .koboldcpp => some (connection.post "/api/v1/generate" [] [("prompt", prompt)])

/-- What is said of an answer of the wrong shape from a kind of backend. -/
def unexpectedFrom (backend : String) : String :=
  "Unexpected response format from " ++ backend ++ " backend"

/-- What is said of an answer of the wrong shape. -/
def unexpected : String := unexpectedFrom "LLM"

/-- The first item of a list. -/
def first? : Json → Option Json
  | .arr (item :: _) => some item
  | _ => none

/-- The completion in an answer of the first format. -/
def candidateText? (answer : Json) : Option Json := do
  let candidate ← first? (← answer.get? "candidates")
  first? (← (← candidate.get? "content").get? "parts") >>= Json.get? "text"

/-- Whether one text occurs in another. -/
def occursIn (word : List Char) : List Char → Bool
  | [] => word.isEmpty
  | c :: rest => word.isPrefixOf (c :: rest) || occursIn word rest

def isText (word : String) : Json → Bool
  | .str text => text == word
  | _ => false

/-- The text of one alternative.  A complaint names the backend when no text is mentioned, and does
not when one is mentioned that cannot be looked up. -/
def alternativeText (backend : String) : Json → Except String Json
  | .obj fields => (Json.lookup? "text" fields).elim (.error (unexpectedFrom backend)) .ok
  | .arr items =>
    .error (if items.any (isText "text") then unexpected else unexpectedFrom backend)
  | .str word =>
    .error (if occursIn "text".toList word.toList then unexpected else unexpectedFrom backend)
  | _ => .error unexpected

/-- The text of the first of the alternatives under a key. -/
def firstAlternative (key backend : String) : Json → Except String Json
  | .obj fields =>
    let alternatives := (Json.lookup? key fields).getD .null
    if !alternatives.truthy then .error (unexpectedFrom backend)
    else
      match alternatives with
      | .arr (item :: _) => alternativeText backend item
      | .str text => alternativeText backend (.str (String.ofList (text.toList.take 1)))
      | _ => .error unexpected
  | _ => .error unexpected

/-- The completion in an answer, or what is wrong with it.  In the first format an answer without a
completion counts as an empty object. -/
def completion (connection : Connection) (answer : Json) : Except String Json :=
  match connection.wireFormat with
  | .gemini => .ok ((candidateText? answer).getD (.str "\x7b\x7d"))
  | .openai => firstAlternative "choices" "OpenAI-compatible" answer
  | .koboldcpp => firstAlternative "results" "KoboldCpp" answer

/-- A completion as a reply. -/
def replyOf : Json → Reply
  | .str text => .text text
  | .arr items => .document (.arr items)
  | .obj fields => .document (.obj fields)
  | _ => .broken .unmeasurable

/-- What comes of a request. -/
def reply (connection : Connection) : Exchange → Reply
  | .answered status body =>
    if isSuccess status then
      match body.read with
      | .error e =>
        if e.cause = .tooDeep then .broken .tooDeep
        else .failed (unexpected ++ ": " ++ e.message)
      | .ok answer =>
        match connection.completion answer with
        | .ok text => replyOf text
        | .error why => .failed why
    else .failed ("LLM backend returned HTTP " ++ toString status)
  | .noConnection => .failed ("Cannot connect to LLM backend at " ++ connection.baseUrl)
  | .timedOut => .failed ("LLM backend timed out after " ++ connection.timeout.display ++ "s")
  | .foreign kind => .broken (.foreign kind)
  | .failed kind message =>
    .failed ("LLM request failed: " ++ kind ++ "(" ++ Text.quoted message ++ ")")

/-- Whether a document has a length, as texts and collections have. -/
def isMeasurable : Json → Bool
  | .str _ | .arr _ | .obj _ => true
  | _ => false

/-- Sends a prompt, which need not be a text, by way of a network and gives the reply. -/
def askWith {Network : Type} (connection : Connection)
    (send : Request → Network → Exchange × Network) (prompt : Json) (network : Network) :
    Reply × Network :=
  match connection.request? prompt with
  | none => (.unconfigured missingKey, network)
  | some request =>
    if isMeasurable prompt then
      let (exchange, network) := send request network
      (connection.reply exchange, network)
    else (.broken .unmeasurable, network)

/-- Sends a prompt by way of a network and gives the reply. -/
def ask {Network : Type} (connection : Connection) (send : Request → Network → Exchange × Network)
    (prompt : String) (network : Network) : Reply × Network :=
  connection.askWith send (.str prompt) network

end Connection

end VisualNovel
