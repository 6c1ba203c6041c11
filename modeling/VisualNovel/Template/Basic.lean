import VisualNovel.Json.Basic
/-!
Templates: text with tags that a document fills.  A hole takes a value from the document, and a
block shows, hides or repeats what stands inside it.  Names lead to values, and a few of them to
helpers that are called with arguments.
-/

namespace VisualNovel

/-- The way to a value, one name after the other.  The empty name leads nowhere further, and one
name leads back to what surrounds a block. -/
abbrev Way := List String

/-- The name that leads from the inside of a block to what surrounds it. -/
def Way.outward : String := "@_parent"

/-- The name that leads out of a block to what is told of a place there. -/
def Way.outwardMark : String := "@@_parent"

/-- What a helper is called with. -/
inductive Argument where
  | literal (value : Json)
  | found (way : Way)
  /-- what a helper gives for further arguments -/
  | call (helper : String) (arguments : List Argument)
  /-- an argument that is given by its name -/
  | named (name : String) (argument : Argument)

/-- A piece of a template. -/
inductive Piece where
  /-- text that stands for itself -/
  | literal (text : String)
  /-- a value, with the characters of markup escaped or as it is -/
  | hole (escaped : Bool) (way : Way) (arguments : List Argument)
  /-- a body under a name, and what to put in its place -/
  | block (name : String) (arguments : List Argument) (body otherwise : List Piece)
  /-- a body for when a value does not count as given -/
  | absent (name : String) (body : List Piece)
  /-- another template, of which there is none -/
  | insertion

abbrev Template := List Piece

end VisualNovel
