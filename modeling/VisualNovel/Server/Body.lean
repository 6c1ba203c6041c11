import VisualNovel.Server.Backend
/-!
What requests have to bring with them.
-/

namespace VisualNovel

open Schema

/-- The body of a request as it arrives. -/
inductive Payload where
  | nothing
  | document (value : Json)
  | text (content : String)

mutual

/-- Whether a document can be written into an answer: it holds no number without digits. -/
def Json.isWritable : Json → Bool
  | .float value => value.isFinite
  | .arr items => Json.areWritable items
  | .obj fields => Json.fieldsAreWritable fields
  | _ => true

def Json.areWritable : List Json → Bool
  | [] => true
  | item :: rest => item.isWritable && Json.areWritable rest

def Json.fieldsAreWritable : List (String × Json) → Bool
  | [] => true
  | (_, value) :: rest => value.isWritable && Json.fieldsAreWritable rest

end

mutual

/-- Whether a document can be sent: every character in it has bytes. -/
def Json.isEncodable : Json → Bool
  | .str text => !Text.holdsSurrogate text
  | .arr items => Json.areEncodable items
  | .obj fields => Json.fieldsAreEncodable fields
  | _ => true

def Json.areEncodable : List Json → Bool
  | [] => true
  | item :: rest => item.isEncodable && Json.areEncodable rest

def Json.fieldsAreEncodable : List (String × Json) → Bool
  | [] => true
  | (name, value) :: rest =>
    !Text.holdsSurrogate name && value.isEncodable && Json.fieldsAreEncodable rest

end

/-- What keeps documents from being sent in one answer, if anything does. -/
def obstacle? (documents : List Json) : Option Mishap :=
  if !documents.all Json.isWritable then some .notWritable
  else if !documents.all Json.isEncodable then some .unencodable
  else none

namespace Payload

/-- The document in a body; nothing when there is no body, or null. -/
def read : Payload → Except Stop (Option Json)
  | nothing => .ok none
  | document .null => .ok none
  | document value => .ok (some value)
  | text content =>
    if content = "" then .ok none
    else
      match (Body.text content).read with
      | .ok .null => .ok none
      | .ok value => .ok (some value)
      | .error error =>
        if error.cause.isGrammatical then
          .error (.unacceptable ⟨.unreadable, [.key "body", .index error.offset]⟩ [])
        else .error (.refused 400 "There was an error parsing the body")

/-- What a path leads to inside a document. -/
def inputAt : List Step → Json → Json
  | [], value => value
  | .key name :: rest, value => inputAt rest ((value.get? name).getD .null)
  | .index position :: rest, .arr items => inputAt rest ((items[position]?).getD .null)
  | .index _ :: _, _ => .null

/-- The part of a document that an issue complains of; what is missing is missing from its parent.
-/
def blamed (given : Json) (issue : Issue) : Json :=
  inputAt (if issue.problem = .missing then issue.path.dropLast else issue.path) given

/-- The value that a body stands for.  A refusal shows what it complains of, so that has to be
fit to be sent. -/
def expect {α : Type} (payload : Payload) (expects : Expects α) : Except Stop α := do
  match ← payload.read with
  | none => throw (.unacceptable ⟨.missing, [.key "body"]⟩ [])
  | some given =>
    match expects given with
    | .valid value => return value
    | .invalid first more =>
      match obstacle? ((first :: more).map (blamed given)) with
      | none =>
        throw (.unacceptable (first.within (.key "body")) (more.map (·.within (.key "body"))))
      | some why => throw (.mishap why)

end Payload

/-- An object whose fields are checked. -/
def bodyOf {α : Type} (check : List (String × Json) → Checked α) : Expects α
  | .obj entries => check entries
  | _ => .problem .notTaggedModel

/-- An object of any kind. -/
def anyObject : Expects (List (String × Json))
  | .obj entries => .valid entries
  | _ => .problem .notObject

/-- A body with one text. -/
def oneText (key : String) : Expects String := bodyOf fun o => field o (.word key) textual

/-- A story to be kept. -/
def uploadBody : Expects (List (String × Json)) := bodyOf fun o => field o (.word "story") anyObject

/-- Whether something is to be shown; it is unless said otherwise. -/
def visibleBody : Expects Bool := bodyOf fun o => fieldOr o (.word "visible") boolean true

/-- A backend that may or may not be reachable. -/
structure Probe where
  providerUrl : String
  providerFormat : String
  apiKey : String
  deriving DecidableEq

def probeBody : Expects Probe := bodyOf fun o =>
  Probe.mk <$> field o (.word "provider_url") textual
    <*> fieldOr o (.word "provider_format") textual "gemini"
    <*> fieldOr o (.word "api_key") textual ""

namespace Probe

/-- Where a backend tells which models it has. -/
def place : WireFormat → String
  | .gemini => "/v1beta/models"
  | .openai => "/v1/models"
  | .koboldcpp => "/api/v1/model"

/-- The request that finds out whether a backend can be reached. -/
def request (probe : Probe) : Request :=
  let format := WireFormat.ofJson (.str probe.providerFormat)
  { method := .get
    url := Connection.dropSlashes probe.providerUrl ++ place format
    params := if format = .gemini then [("key", .str probe.apiKey)] else []
    headers := if format ≠ .gemini ∧ probe.apiKey ≠ "" then
      [("Authorization", "Bearer " ++ probe.apiKey)] else []
    body := none }

/-- Whether the backend has been reached. -/
def reached : Exchange → Except Mishap Bool
  | .answered status _ => .ok (isSuccess status)
  | .foreign kind => .error (.foreign kind)
  | _ => .ok false

end Probe

end VisualNovel
