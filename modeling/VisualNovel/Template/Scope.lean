import VisualNovel.Json.Display
import VisualNovel.Template.Basic
import VisualNovel.Text.Numeral
/-!
Where names lead while a template is filled.  A scope is a value with its surroundings: the scope
around it, the whole document, and its place when it is one of several.  Besides the fields of an
object a name can lead to what every value of a kind has; most of that is there to be called, and
fails when it is.
-/

namespace VisualNovel.Template

/-- What the name of something that every value of a kind has leads to. -/
inductive Member where
  | value (document : Json)
  /-- something to be called, with what it gives when it is called with a scope alone -/
  | callable (result : Option Json)

/-- Whether a name is one that every value keeps to itself: it stands between double underscores. -/
def isKept (name : String) : Bool :=
  4 < name.length && name.startsWith "__" && name.endsWith "__"

def objectNames : List String :=
  ["clear", "copy", "fromkeys", "items", "keys", "pop", "popitem", "update", "values"]

def listNames : List String :=
  ["clear", "copy", "extend", "index", "insert", "pop", "remove", "reverse", "sort"]

def textNames : List String :=
  ["capitalize", "casefold", "center", "count", "encode", "endswith", "expandtabs", "find",
   "index", "isalnum", "isalpha", "isascii", "isdecimal", "isdigit", "isidentifier", "islower",
   "isnumeric", "isprintable", "isspace", "istitle", "isupper", "join", "ljust", "lower", "lstrip",
   "maketrans", "partition", "removeprefix", "removesuffix", "replace", "rfind", "rindex", "rjust",
   "rpartition", "rsplit", "rstrip", "split", "splitlines", "startswith", "strip", "swapcase",
   "title", "translate", "upper", "zfill"]

def integerNames : List String :=
  ["as_integer_ratio", "bit_count", "bit_length", "conjugate", "from_bytes", "to_bytes"]

def floatNames : List String :=
  ["as_integer_ratio", "conjugate", "fromhex", "hex", "is_integer"]

/-- What is asked in vain, if the name is one of some names. -/
def inVain (names : List String) (name : String) : Option Member :=
  if names.contains name || isKept name then some (.callable none) else none

/-- What an integer has besides its value. -/
def integerMember? (value : Int) (name : String) : Option Member :=
  match name with
  | "real" | "numerator" => some (.value (.int value))
  | "imag" => some (.value (.int 0))
  | "denominator" => some (.value (.int 1))
  | name => inVain integerNames name

/-- What every value of the kind of a document has under a name. -/
def member? (document : Json) (name : String) : Option Member :=
  match document with
  | .null => inVain [] name
  | .bool value => integerMember? (if value then 1 else 0) name
  | .int value => integerMember? value name
  | .float value =>
    match name with
    | "real" => some (.value (.float value))
    | "imag" => some (.value (.float .zero))
    | name => inVain floatNames name
  | .str text =>
    if name = "format" ∨ name = "format_map" then
      some (.callable (if text.contains '{' || text.contains '}' then none else some (.str text)))
    else inVain textNames name
  | .arr _ =>
    match name with
    | "append" => some (.callable (some .null))
    | "count" => some (.callable (some (.int 0)))
    | name => inVain listNames name
  | .obj _ =>
    match name with
    | "get" | "setdefault" => some (.callable (some .null))
    | name => inVain objectNames name

/-- The place of a value among others. -/
structure Place where
  index : Nat
  key : Option String
  isFirst : Bool
  isLast : Bool

mutual

/-- What a way leads to. -/
inductive Found where
  | value (document : Json)
  | scope (scope : Scope)
  | callable (result : Option Json)

inductive Scope where
  | mk (this around : Found) (root : Json) (place : Option Place)

end

namespace Scope

def this : Scope → Found
  | mk this _ _ _ => this

def around : Scope → Found
  | mk _ around _ _ => around

def root : Scope → Json
  | mk _ _ root _ => root

def place : Scope → Option Place
  | mk _ _ _ place => place

/-- The scope of a whole document. -/
def whole (document : Json) : Scope := mk (.value document) (.value document) document none

end Scope

/-- What a member is found as. -/
def Member.found : Member → Found
  | value document => .value document
  | callable result => .callable result

/-- What a name leads to from a document: a field, or what every value of its kind has. -/
def pick (document : Json) (name : String) : Found :=
  match document.get? name with
  | some value => .value value
  | none => ((member? document name).map Member.found).getD (.value .null)

/-- What is told of a place under a name. -/
def Place.tell? (place : Place) (name : String) : Option Json :=
  match name with
  | "@index" => some (.int place.index)
  | "@key" => place.key.map .str
  | "@first" => some (.bool place.isFirst)
  | "@last" => some (.bool place.isLast)
  | _ => none

mutual

/-- What a name leads to from a scope. -/
def Scope.find (name : String) : Scope → Found
  | .mk this around root place =>
    if name = "@root" then .value root
    else if name = Way.outward then around
    else
      match place.bind (Place.tell? · name) with
      | some told => .value told
      | none => if name = "this" then this else this.find name

/-- What a name leads to from what has been found. -/
def Found.find (name : String) : Found → Found
  | .value document => pick document name
  | .scope scope => scope.find name
  | .callable _ => .value .null

end

/-- The item of a list that a name leads to; there may be none. -/
def item? (items : List Json) (name : String) : Option Json :=
  if name = "length" then some (.int items.length)
  else do
    let index ← Text.integer? name.toList
    let position := if index < 0 then index + items.length else index
    if position < 0 then none else items[position.toNat]?

/-- Follows the names of a way.  A mark leads outward and makes the next name one of those that tell
of a place. -/
def follow (marked : Bool) (found : Found) : Way → Option Found
  | [] => some found
  | name :: rest =>
    let name := if marked then "@" ++ name else name
    let (name, marked) := if name = Way.outwardMark then (Way.outward, true) else (name, false)
    if name = "" then follow marked found rest
    else
      match found with
      | .value .null => some (.value .null)
      | .value (.arr items) => do follow marked (.value (← item? items name)) rest
      | found => follow marked (found.find name) rest

/-- What a way leads to from a scope; there may be no such thing. -/
def Scope.resolve (scope : Scope) : Way → Option Found
  | [""] => some (scope.find "this")
  | way => follow false (.scope scope) way

namespace Found

/-- Whether something counts as given; nobody can tell of the scope of a value without a length. -/
def truthy? : Found → Option Bool
  | .value document => some document.truthy
  | .callable _ => some true
  | .scope (.mk (.value (.str text)) _ _ _) => some (text != "")
  | .scope (.mk (.value (.arr items)) _ _ _) => some !items.isEmpty
  | .scope (.mk (.value (.obj fields)) _ _ _) => some !fields.isEmpty
  | .scope _ => none

/-- The text of something in a hole; null has none. -/
def text? : Found → Option (List Char)
  | .value .null => some []
  | .value (.bool truth) => some (if truth then "true" else "false").toList
  | .value document => some document.display.toList
  | .scope (.mk (.value document) _ _ _) => some document.display.toList
  | _ => none

/-- The document that has been found, if it is one. -/
def document? : Found → Option Json
  | .value document => some document
  | _ => none

end Found

end VisualNovel.Template
