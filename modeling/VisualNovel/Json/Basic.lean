import VisualNovel.Number.Binary64
/-!
Documents: trees of objects, arrays and scalars.  Integers are unbounded and distinct from
double-precision numbers, and the fields of an object keep the order in which they were first given.
-/

namespace VisualNovel

inductive Json where
  | null
  | bool (value : Bool)
  | int (value : Int)
  | float (value : Binary64)
  | str (value : String)
  | arr (items : List Json)
  | obj (fields : List (String × Json))

namespace Json

instance : Inhabited Json := ⟨null⟩

/-- The value of a key in a list of fields. -/
def lookup? (key : String) : List (String × Json) → Option Json
  | [] => none
  | (name, value) :: rest => if name = key then some value else lookup? key rest

/-- Gives a key a value, in its old place or else at the end. -/
def assign (key : String) (value : Json) : List (String × Json) → List (String × Json)
  | [] => [(key, value)]
  | (name, old) :: rest =>
    if name = key then (name, value) :: rest else (name, old) :: assign key value rest

/-- The value of a key of an object; nothing when the document is no object. -/
def get? (key : String) : Json → Option Json
  | obj fields => lookup? key fields
  | _ => none

/-- An optional text as a document. -/
def ofText? (text : Option String) : Json := text.elim null str

/-- The name of a document's kind in messages. -/
def kindName : Json → String
  | null => "NoneType"
  | bool _ => "bool"
  | int _ => "int"
  | float _ => "float"
  | str _ => "str"
  | arr _ => "list"
  | obj _ => "dict"

/-- Whether a document counts as given: everything except null, false, a zero, and what is empty. -/
def truthy : Json → Bool
  | null => false
  | bool value => value
  | int value => value != 0
  | float (.finite _ units _) => units != 0
  | float _ => true
  | str value => value != ""
  | arr items => !items.isEmpty
  | obj fields => !fields.isEmpty

end Json

end VisualNovel
