import VisualNovel.Template.Scope
/-!
Filling a template from a document.  A value is put in as it is and never read as a template again,
so what a player has written cannot change the shape of a prompt.  What cannot be filled leaves
nothing behind: there is no text at all then.
-/

namespace VisualNovel.Template

/-- A character of markup as an entity. -/
def escapeMarkup (c : Char) : List Char :=
  match c with
  | '&' => "&amp;".toList
  | '<' => "&lt;".toList
  | '>' => "&gt;".toList
  | '"' => "&quot;".toList
  | '\'' => "&#x27;".toList
  | '\x60' => "&#x60;".toList
  | c => [c]

/-! Helpers -/

/-- The helpers that a name in a hole can stand for. -/
inductive Helper where
  | whenGiven
  | whenAbsent
  | forEach
  | under
  | lookup
  | log
  | missingValue
  | missingBlock
  deriving DecidableEq

def Helper.ofName? : String → Option Helper
  | "if" => some whenGiven
  | "unless" => some whenAbsent
  | "each" => some forEach
  | "with" => some under
  | "lookup" => some lookup
  | "log" => some log
  | "helperMissing" => some missingValue
  | "blockHelperMissing" => some missingBlock
  | _ => none

/-- Values for arguments: those in a row, and those that are given by name. -/
structure Given where
  inRow : List Found
  byName : List (String × Found)

/-- The one argument of a helper. -/
def Given.single? (given : Given) : Option Found :=
  match given with
  | ⟨[value], []⟩ => some value
  | ⟨[], [("context", value)]⟩ => some value
  | _ => none

/-- The characters of a text. -/
def characters (text : String) : List Json := text.toList.map fun c => .str c.toString

/-- The item at a place, which is counted from the end when it is negative; null when there is none.
-/
def itemAt (items : List Json) (index : Int) : Json :=
  let place := if index < 0 then index + items.length else index
  if place < 0 then .null else (items[place.toNat]?).getD .null

/-- What a key leads to in a value; null when it leads nowhere. -/
def lookUp (holder key : Found) : Option Json :=
  match holder, key with
  | .value (.obj fields), .value (.str name) => some ((Json.lookup? name fields).getD .null)
  | .value (.arr items), .value (.int index) => some (itemAt items index)
  | .value (.arr items), .value (.bool second) => some (itemAt items (if second then 1 else 0))
  | .value (.str text), .value (.int index) => some (itemAt (characters text) index)
  | .scope scope, .value (.str name) => (scope.find name).document?
  | _, _ => some .null

/-- What a helper gives in a hole or as an argument.  Those for blocks give nothing there. -/
def Helper.answer? (helper : Helper) (given : Given) : Option Json :=
  match helper, given with
  | lookup, ⟨[holder, key], []⟩ => lookUp holder key
  | log, ⟨[_], []⟩ => some .null
  | missingValue, ⟨[_], []⟩ => some .null
  | whenAbsent, ⟨[_, value], []⟩ => do if ← value.truthy? then some .null else none
  | _, _ => none

mutual

/-- The value of an argument, and its name if it is given by one. -/
def evaluate (scope : Scope) : Argument → Option Found
  | .literal value => some (.value value)
  | .found way => scope.resolve way
  | .named _ argument => evaluate scope argument
  | .call helper arguments => do
    let given ← givenOf scope arguments
    return .value (← (← Helper.ofName? helper).answer? given)

/-- The values of arguments. -/
def givenOf (scope : Scope) : List Argument → Option Given
  | [] => some ⟨[], []⟩
  | argument :: rest => do
    let value ← evaluate scope argument
    let given ← givenOf scope rest
    return match argument with
      | .named name _ => { given with byName := (name, value) :: given.byName }
      | _ => { given with inRow := value :: given.inRow }

end

/-! Blocks -/

/-- The items that a block is repeated for, each with its place; none when there is nothing that
could be counted, and no answer when there is and it cannot be gone through. -/
def itemsOf (found : Found) : Option (List (Json × Place)) :=
  let placed (items : List (Option String × Json)) : List (Json × Place) :=
    items.mapIdx fun index (key, item) => (item, ⟨index, key, index = 0, index + 1 = items.length⟩)
  let ofDocument : Json → Option (List (Json × Place))
    | .arr items => some (placed (items.map fun item => (none, item)))
    | .obj fields => some (placed (fields.map fun (name, value) => (some name, value)))
    | .str text => some (placed ((characters text).map fun item => (none, item)))
    | _ => some []
  match found with
  | .value document => ofDocument document
  | .callable _ => some []
  | .scope (.mk (.value (.obj fields)) _ _ _) => if fields.isEmpty then some [] else none
  | .scope (.mk (.value document) _ _ _) => ofDocument document
  | .scope _ => none

/-- Fills a body for every item of a value, or another body when there are none. -/
def fillEach (scope : Scope) (found : Found) (body otherwise : Scope → Option (List Char)) :
    Option (List Char) := do
  match ← itemsOf found with
  | [] => otherwise scope
  | items => return (← items.mapM fun (item, place) =>
      body (.mk (.value item) (.scope scope) scope.root (some place))).flatten

/-- The scope of a value inside another scope; a scope is its own. -/
def within (scope : Scope) : Found → Scope
  | .scope inner => inner
  | found => .mk found found scope.root none

/-- Fills a block that no helper is responsible for. -/
def fillBlock (scope : Scope) (found : Found) (body otherwise : Scope → Option (List Char)) :
    Option (List Char) := do
  let found ← match found with
    | .callable result => result.map Found.value
    | found => some found
  match found with
  | .value (.str text) => body (within scope (.value (.str text)))
  | .value (.bool true) => body scope
  | .value (.arr items) => fillEach scope (.value (.arr items)) body otherwise
  | found => if ← found.truthy? then body (within scope found) else otherwise scope

/-- The names of what a helper is told about the block that it is called for. -/
def blockOptions : List String := ["fn", "helpers", "partials", "root", "inverse"]

/-- Fills a block by way of a helper. -/
def Helper.fill (helper : Helper) (scope : Scope) (given : Given)
    (body otherwise : Scope → Option (List Char)) : Option (List Char) := do
  match helper with
  | whenGiven =>
    let chosen ← match ← given.single? with
      | .callable result => (← result).truthy
      | found => found.truthy?
    if chosen then body scope else otherwise scope
  | whenAbsent => if ← (← given.single?).truthy? then some [] else body scope
  | forEach => fillEach scope (← given.single?) body otherwise
  | under => body (within scope (← given.single?))
  | missingBlock => fillBlock scope (← given.single?) body otherwise
  | lookup =>
    match given with
    | ⟨[.value (.str name)], []⟩ => if blockOptions.contains name then none else some []
    | ⟨[_], []⟩ => some []
    | _ => none
  | log | missingValue => if given.inRow.isEmpty && given.byName.isEmpty then some [] else none

/-! Pieces -/

/-- The value of a hole.  A single name may be that of a helper; one that leads to nothing is a
mistake when arguments are given to it. -/
def holeValue? (scope : Scope) (way : Way) (arguments : List Argument) : Option Found := do
  let single := way.length == 1
  let helper := match way with
    | [name] => Helper.ofName? name
    | _ => none
  let found ← match helper with
    | some helper => Found.value <$> helper.answer? (← givenOf scope arguments)
    | none =>
      match ← scope.resolve way with
      | .callable result => if arguments.isEmpty then result.map Found.value else none
      | found => some found
  match found with
  | .value .null => if single && !arguments.isEmpty then none else some (.value .null)
  | found => some found

mutual

/-- What a piece becomes when it is filled from a scope. -/
def fillPiece (scope : Scope) : Piece → Option (List Char)
  | .literal text => some text.toList
  | .hole escaped way arguments => do
    let text ← (← holeValue? scope way arguments).text?
    return if escaped then text.flatMap escapeMarkup else text
  | .block name arguments body otherwise => do
    match Helper.ofName? name with
    | some helper =>
      let given ← givenOf scope arguments
      helper.fill scope given (fun scope => fill scope body) (fun scope => fill scope otherwise)
    | none =>
      fillBlock scope (← scope.resolve [name]) (fun scope => fill scope body)
        (fun scope => fill scope otherwise)
  | .absent name body => do
    if ← (← scope.resolve [name]).truthy? then some [] else fill scope body
  | .insertion => none

/-- What pieces become one after the other. -/
def fill (scope : Scope) : List Piece → Option (List Char)
  | [] => some []
  | piece :: rest => do
    let text ← fillPiece scope piece
    return text ++ (← fill scope rest)

end

/-- The text of a template filled from a document; there may be none. -/
def render? (template : Template) (document : Json) : Option String :=
  (fill (.whole document) template).map String.ofList

end VisualNovel.Template
