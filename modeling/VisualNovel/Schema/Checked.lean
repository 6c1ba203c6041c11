import VisualNovel.Json.Basic
/-!
Checking a document against what is expected of it.  A check goes on after the first thing that is
wrong, so a refusal lists every issue, in the order in which the expectations are stated.
-/

namespace VisualNovel.Schema

/-- A step into a document. -/
inductive Step where
  | key (name : String)
  | index (position : Nat)
  deriving DecidableEq

/-- What can be wrong at one place of a document. -/
inductive Problem where
  | missing
  | notText
  | notList
  | notObject
  | notModel
  | notTaggedModel
  | tagMissing
  | tagUnknown
  | notAmongChoices
  | notBoolText
  | notBool
  | notIntText
  | intOutOfRange
  | notWhole
  | notFinite
  | notInt
  | notNumberText
  | notNumber
  | unreadable
  deriving DecidableEq

/-- The name under which a problem is reported. -/
def Problem.text : Problem → String
  | missing => "missing"
  | notText => "string_type"
  | notList => "list_type"
  | notObject => "dict_type"
  | notModel => "model_type"
  | notTaggedModel => "model_attributes_type"
  | tagMissing => "union_tag_not_found"
  | tagUnknown => "union_tag_invalid"
  | notAmongChoices => "literal_error"
  | notBoolText => "bool_parsing"
  | notBool => "bool_type"
  | notIntText => "int_parsing"
  | intOutOfRange => "int_parsing_size"
  | notWhole => "int_from_float"
  | notFinite => "finite_number"
  | notInt => "int_type"
  | notNumberText => "float_parsing"
  | notNumber => "float_type"
  | unreadable => "json_invalid"

/-- A problem and the way to its place. -/
structure Issue where
  problem : Problem
  path : List Step
  deriving DecidableEq

/-- The same issue seen from one step further out. -/
def Issue.within (step : Step) (issue : Issue) : Issue := { issue with path := step :: issue.path }

/-- A step as it is written. -/
def Step.toJson : Step → Json
  | key name => .str name
  | index position => .int position

/-- An issue as it is written. -/
def Issue.toJson (issue : Issue) : Json :=
  .obj [("type", .str issue.problem.text), ("loc", .arr (issue.path.map Step.toJson))]

/-- The outcome of a check: the value that was meant, or everything that is wrong. -/
inductive Checked (α : Type) where
  | valid (value : α)
  | invalid (first : Issue) (more : List Issue)

namespace Checked

/-- A single problem at the place under consideration. -/
def problem {α : Type} (problem : Problem) : Checked α := invalid ⟨problem, []⟩ []

def map {α β : Type} (f : α → β) : Checked α → Checked β
  | valid value => valid (f value)
  | invalid first more => invalid first more

/-- Checks two things whatever comes of the first. -/
def apply {α β : Type} : Checked (α → β) → Checked α → Checked β
  | valid f, valid value => valid (f value)
  | valid _, invalid first more => invalid first more
  | invalid first more, valid _ => invalid first more
  | invalid first more, invalid second others => invalid first (more ++ second :: others)

instance : Applicative Checked where
  pure := valid
  map := map
  seq f x := apply f (x ())

/-- The issues of a check, seen from one step further out. -/
def within {α : Type} (step : Step) : Checked α → Checked α
  | valid value => valid value
  | invalid first more => invalid (first.within step) (more.map (·.within step))

def value? {α : Type} : Checked α → Option α
  | valid value => some value
  | invalid _ _ => none

def issues {α : Type} : Checked α → List Issue
  | valid _ => []
  | invalid first more => first :: more

def toExcept {α : Type} : Checked α → Except (List Issue) α
  | valid value => .ok value
  | invalid first more => .error (first :: more)

end Checked

/-- What is expected of a document that is to stand for a value. -/
abbrev Expects (α : Type) := Json → Checked α

/-- Checks the items of a list one by one. -/
def each {α : Type} (expects : Expects α) (position : Nat) : List Json → Checked (List α)
  | [] => .valid []
  | item :: rest =>
    List.cons <$> (expects item).within (.index position) <*> each expects (position + 1) rest

/-- Checks documents one after the other, up to the first one that is wrong. -/
def inTurn {α : Type} (expects : Expects α) : List Json → Checked (List α)
  | [] => .valid []
  | document :: rest =>
    match expects document with
    | .valid value => (value :: ·) <$> inTurn expects rest
    | .invalid first more => .invalid first more

/-- A list. -/
def list {α : Type} (expects : Expects α) : Expects (List α)
  | .arr items => each expects 0 items
  | _ => .problem .notList

/-- Checks the values of fields one by one. -/
def eachField {α : Type} (expects : Expects α) : List (String × Json) → Checked (List (String × α))
  | [] => .valid []
  | (name, value) :: rest =>
    (fun value others => (name, value) :: others) <$> (expects value).within (.key name) <*>
      eachField expects rest

/-- An object of values by name. -/
def fields {α : Type} (expects : Expects α) : Expects (List (String × α))
  | .obj entries => eachField expects entries
  | _ => .problem .notObject

/-- A value or null. -/
def nullable {α : Type} (expects : Expects α) : Expects (Option α)
  | .null => .valid none
  | document => some <$> expects document

/-- The two keys of a field: the one that documents are written with, and the one that is understood
besides it. -/
structure Key where
  camel : String
  snake : String
  deriving DecidableEq

/-- A key of one word is written in one way only. -/
def Key.word (word : String) : Key := ⟨word, word⟩

/-- The field of an object, with the key under which it was found; of the two keys of a field the
first wins. -/
def Key.find? (key : Key) (entries : List (String × Json)) : Option (String × Json) :=
  match Json.lookup? key.camel entries with
  | some value => some (key.camel, value)
  | none => (Json.lookup? key.snake entries).map (key.snake, ·)

/-- A field that has to be there. -/
def field {α : Type} (entries : List (String × Json)) (key : Key) (expects : Expects α) :
    Checked α :=
  match key.find? entries with
  | some (name, value) => (expects value).within (.key name)
  | none => .invalid ⟨.missing, [.key key.camel]⟩ []

/-- A field with a value to fall back on when it is not there. -/
def fieldOr {α : Type} (entries : List (String × Json)) (key : Key) (expects : Expects α)
    (fallback : α) : Checked α :=
  match key.find? entries with
  | some (name, value) => (expects value).within (.key name)
  | none => .valid fallback

/-- An object whose fields are checked together. -/
def model {α : Type} (check : List (String × Json) → Checked α) : Expects α
  | .obj entries => check entries
  | _ => .problem .notModel

end VisualNovel.Schema
