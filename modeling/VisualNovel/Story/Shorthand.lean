import VisualNovel.Story.Document
/-!
Shorthands for writing a story: each takes a few details in a fixed order, and further ones by name,
and makes a part of a story of them.  A part is checked when it is made, so mistakes come to light
before anything is played.
-/

namespace VisualNovel

open Schema

/-- A part of a story. -/
inductive Part where
  | character (character : Character)
  | background (background : Background)
  | node (node : Node)
  | scene (scene : Scene)
  | story (story : Story)
  deriving DecidableEq

/-- Why a shorthand makes nothing. -/
inductive ShorthandFault where
  /-- details that are missing, given twice or unknown -/
  | wrongDetails
  | invalid (first : Issue) (more : List Issue)
  deriving DecidableEq

inductive Shorthand where
  | character
  | background
  | dialogue
  | narration
  | choice
  | textInput
  | gradedInput
  | ending
  | scene
  | story
  deriving DecidableEq

/-- Details by name. -/
abbrev Details := List (String × Json)

/-- The details that a shorthand takes. -/
structure Signature where
  /-- the details that can be given without their names, in order -/
  ordered : List String
  /-- details that are always given by name -/
  byName : List String
  /-- what details that can be left out are then -/
  standard : Details
  /-- whether there can be further details -/
  takesMore : Bool
  /-- the names that further details cannot have -/
  reserved : List String

namespace Signature

/-- A signature of details in order. -/
def of (ordered : List String) (standard : Details) (takesMore : Bool) : Signature :=
  ⟨ordered, [], standard, takesMore, []⟩

def names (signature : Signature) : List String := signature.ordered ++ signature.byName

/-- Whether details may be given by these names besides those given without. -/
def admits (signature : Signature) (taken : List String) (name : String) : Bool :=
  !taken.contains name &&
    (signature.names.contains name || signature.takesMore && !signature.reserved.contains name)

/-- The value of a detail of the signature, given or standard. -/
def detail? (signature : Signature) (given : Details) (name : String) : Option (String × Json) :=
  ((Json.lookup? name given).orElse fun _ => Json.lookup? name signature.standard).map (name, ·)

/-- All details, those of the signature first. -/
def gather? (signature : Signature) (inOrder : List Json) (named : Details) : Option Details := do
  guard (inOrder.length ≤ signature.ordered.length)
  let taken := signature.ordered.take inOrder.length
  guard (named.all fun (name, _) => signature.admits taken name)
  let given := taken.zip inOrder ++ named
  let known ← signature.names.mapM (signature.detail? given)
  return known ++ named.filter fun (name, _) => !signature.names.contains name

end Signature

namespace Shorthand

def ofWord? : String → Option Shorthand
  | "character" => some .character
  | "background" => some .background
  | "dialogue" => some .dialogue
  | "narration" => some .narration
  | "choice" => some .choice
  | "text_input" => some .textInput
  | "llm_input" => some .gradedInput
  | "end" => some .ending
  | "scene" => some .scene
  | "story" => some .story
  | _ => none

def signature : Shorthand → Signature
  | character =>
    { ordered := ["id", "display_name", "sprites", "default_expression", "name_color"]
      byName := []
      standard := [("default_expression", .str "neutral"), ("name_color", .str "#ffffff")]
      takesMore := true, reserved := ["name"] }
  | background => .of ["id", "name", "src"] [] false
  | dialogue => .of ["id", "character_id", "text", "next_node_id"] [] true
  | narration => .of ["id", "text", "next_node_id"] [] true
  | choice => { Signature.of ["id", "prompt", "choices"] [] true with reserved := ["text"] }
  | textInput => .of ["id", "prompt", "variable_name", "next_node_id"] [] true
  | gradedInput => .of ["id", "prompt", "next_node_id"] [] true
  | ending => .of ["id", "text"] [("text", .null)] false
  | scene => .of ["id", "start_node_id", "nodes", "name"] [("name", .str "")] false
  | story => { Signature.of ["title"] [] true with byName := ["start_scene_id", "scenes"] }

/-- A detail by its name. -/
def detail (details : Details) (name : String) : Json := (Json.lookup? name details).getD .null

/-- A document, or another one in place of nothing. -/
def orElse (document fallback : Json) : Json := if document.truthy then document else fallback

/-- The details other than the named ones. -/
def without (details : Details) (names : List String) : Details :=
  details.filter fun (name, _) => !names.contains name

/-- A checked value as a part. -/
def made {α : Type} (part : α → Part) : Checked α → Except ShorthandFault Part
  | .valid value => .ok (part value)
  | .invalid first more => .error (.invalid first more)

/-- The items that details list. -/
def itemsOf? : Json → Option (List Json)
  | .arr items => some items
  | .obj fields => some (fields.map fun (name, _) => .str name)
  | .str text => some (text.toList.map fun c => .str (String.singleton c))
  | _ => none

/-- A node of a kind. -/
def madeNode (kind : NodeKind) (details : Details) : Except ShorthandFault Part :=
  made .node (Node.ofFields kind details)

/-- A node that asks something, with the details of how it does. -/
def madeQuestion (kind : NodeKind) (key : String) (details settings : Details) :
    Except ShorthandFault Part :=
  madeNode kind [("id", detail details "id"), ("text", detail details "prompt"),
    ("next_node_id", detail details "next_node_id"), (key, .obj settings)]

/-- The part that a shorthand makes of its details. -/
def ofDetails (details : Details) : Shorthand → Except ShorthandFault Part
  | character =>
    made .character (Character.ofJson (.obj (("name", detail details "id") :: details)))
  | background => made .background (Background.ofJson (.obj details))
  | dialogue => madeNode .dialogue details
  | narration => madeNode .narration details
  | choice =>
    match itemsOf? (detail details "choices") with
    | none => .error .wrongDetails
    | some documents =>
      match inTurn Choice.ofJson documents with
      | .invalid first more => .error (.invalid first more)
      | .valid checked =>
        madeNode .choice <|
          ("text", detail details "prompt") ::
            ("choices", .arr (checked.map (Choice.toJson .plain))) ::
              without details ["prompt", "choices"]
  | textInput =>
    madeQuestion .input "input_config" details (without details ["id", "prompt", "next_node_id"])
  | gradedInput =>
    madeQuestion .graded "llm_config" details (without details ["id", "prompt", "next_node_id"])
  | ending =>
    madeNode .ending
      [("id", detail details "id"), ("text", orElse (detail details "text") (.str "The End"))]
  | scene =>
    made .scene (Scene.ofJson (.obj
      (("name", orElse (detail details "name") (detail details "id")) ::
        without details ["name"])))
  | story => made .story (Story.ofJson (.obj details))

/-- The part that a shorthand makes of details in order and of details by name. -/
def apply (shorthand : Shorthand) (inOrder : List Json) (named : Details) :
    Except ShorthandFault Part :=
  match shorthand.signature.gather? inOrder named with
  | some details => shorthand.ofDetails details
  | none => .error .wrongDetails

end Shorthand

/-- A part as a document. -/
def Part.toJson (style : Style) : Part → Json
  | .character part => part.toJson style
  | .background part => part.toJson style
  | .node part => part.toJson style
  | .scene part => part.toJson style
  | .story part => part.toJson style

end VisualNovel
