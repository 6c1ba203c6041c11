import VisualNovel.Json.Display
/-!
Forms: the text of a prompt with holes in it.  A value is put in as it is and never read as a form
again, so what a player has written cannot change the shape of a prompt.
-/

namespace VisualNovel.Prompt

/-- A piece of a form.  A missing value is null and fills a hole with nothing. -/
inductive FormPiece where
  /-- text that stands for itself -/
  | literal (text : String)
  /-- the value of a name as it is -/
  | hole (name : String)
  /-- a body that is there if a value counts as given -/
  | given (name : String) (body : List FormPiece)
  /-- a body for every item of a list, filled from that item -/
  | each (name : String) (body : List FormPiece)

abbrev Form := List FormPiece

namespace Form

/-- The value of a name. -/
def valueOf (name : String) (document : Json) : Json := (document.get? name).getD .null

/-- What a value puts into a hole. -/
def filling : Json → List Char
  | .null => []
  | .bool value => (if value then "true" else "false").toList
  | value => value.display.toList

/-- The items of a list; there are none in anything else. -/
def itemsOf : Json → List Json
  | .arr items => items
  | _ => []

mutual

/-- What a piece becomes when it is filled from a document. -/
def fillPiece (document : Json) : FormPiece → List Char
  | .literal text => text.toList
  | .hole name => filling (valueOf name document)
  | .given name body => if (valueOf name document).truthy then fill document body else []
  | .each name body => (itemsOf (valueOf name document)).flatMap fun item => fill item body

/-- What pieces become one after the other. -/
def fill (document : Json) : List FormPiece → List Char
  | [] => []
  | piece :: rest => fillPiece document piece ++ fill document rest

end

/-- The text of a form filled from a document. -/
def render (form : Form) (document : Json) : String := String.ofList (fill document form)

end Form

end VisualNovel.Prompt
