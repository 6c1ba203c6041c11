import VisualNovel.Prompt.Recommendation
import VisualNovel.Template.Reader
import VisualNovel.Template.Render

/-! Forms as templates. A form is what becomes of the text of a template once it has been read; here
it is written as that text, and both are shown to come to the same. Reading the text gives back the
form's pieces, and filling these from a document gives what the form gives. Since the text is read
before any value is put in, a value that looks like a tag is never read as one. -/
namespace VisualNovel

/-- What comes of a template's text when it is read and then filled from a document. -/
def Template.expand? (text : List Char) (document : Json) : Option String := do
  (← Template.read? (String.ofList text)).render? document

namespace Prompt

/-! ## Forms as text -/

namespace Form

/-- The tag that opens a block for the value of a name. -/
def opening (helper name : String) : List Char :=
  ['{', '{', '#'] ++ helper.toList ++ [' '] ++ name.toList ++ ['}', '}']

/-- The tag that closes a block. -/
def closing (helper : String) : List Char := ['{', '{', '/'] ++ helper.toList ++ ['}', '}']

mutual

/-- A piece in the text of a template, with what stands for each hole. -/
def writePiece (hole : String → List Char) : FormPiece → List Char
  | .literal text => text.toList
  | .hole name => hole name
  | .given name body => opening "if" name ++ write hole body ++ closing "if"
  | .each name body => opening "each" name ++ write hole body ++ closing "each"

def write (hole : String → List Char) : Form → List Char
  | [] => []
  | piece :: rest => writePiece hole piece ++ write hole rest

end

/-- The tag that stands for a hole; three braces keep a value as it is. -/
def holeTag (name : String) : List Char := ['{', '{', '{'] ++ name.toList ++ ['}', '}', '}']

/-- The text of a template that stands for a form. -/
def source (form : Form) : List Char := form.write holeTag

mutual

/-- A piece of a form as the piece of a template. -/
def tagPiece : FormPiece → Piece
  | .literal text => .literal text
  | .hole name => .hole false [name] []
  | .given name body => .block "if" [.found [name]] (tagged body) []
  | .each name body => .block "each" [.found [name]] (tagged body) []

/-- A form as a template. -/
def tagged : Form → Template
  | [] => []
  | piece :: rest => tagPiece piece :: tagged rest

end

/-! ## Filling -/

/-- The names that lead to something other than a field wherever they stand. -/
def takenNames : List String :=
  ["", "this", "@root", Way.outward, Way.outwardMark, "@index", "@key", "@first", "@last"]

/-- A name that can lead to nothing but a field. -/
def IsFieldName (name : String) : Prop :=
  Template.Helper.ofName? name = none ∧ name ∉ takenNames

instance (name : String) : Decidable (IsFieldName name) := inferInstanceAs (Decidable (_ ∧ _))

mutual

/-- A document has what a piece asks for: the field of every name, and a list for what is
repeated. -/
def FitsPiece (document : Json) : FormPiece → Prop
  | .literal _ => True
  | .hole name => IsFieldName name ∧ (document.get? name).isSome = true
  | .given name body => IsFieldName name ∧ (document.get? name).isSome = true ∧ Fits document body
  | .each name body => IsFieldName name ∧
      ∃ items, document.get? name = some (.arr items) ∧ ∀ item ∈ items, Fits item body

/-- A document has what a form asks for. -/
def Fits (document : Json) : Form → Prop
  | [] => True
  | piece :: rest => FitsPiece document piece ∧ Fits document rest

end

open Template

variable {scope : Scope} {document value : Json} {name : String}

/-- Inside a block too, a name leads to the field of the value that the block is for. -/
theorem resolve_field (here : scope.this = .value document) (field : IsFieldName name)
    (found : document.get? name = some value) : scope.resolve [name] = some (.value value) := by
  obtain ⟨-, free⟩ := field
  simp only [takenNames, List.mem_cons, List.not_mem_nil, or_false, not_or] at free
  obtain ⟨notEmpty, notThis, notRoot, notOut, notMark, notIndex, notKey, notFirst, notLast⟩ := free
  have untold (place : Place) : place.tell? name = none := by
    simp only [Place.tell?]
  have picked : Template.pick document name = .value value := by
    rw [Template.pick, found]
  have way : scope.resolve [name] = follow false (.scope scope) [name] := by
    unfold Scope.resolve
    split
    · exact absurd (List.head_eq_of_cons_eq ‹_›) notEmpty
    · rfl
  obtain ⟨this, around, root, place⟩ := scope
  cases here
  simp only [way, follow, notEmpty, notMark, ↓reduceIte, Bool.false_eq_true, Found.find,
    Scope.find, notRoot, notOut, untold, Option.bind_fun_none, notThis, picked]

theorem mapM_items {α : Type} {items : List (Json × Place)} {fill : Json × Place → Option α}
    {filled : Json → α} (each : ∀ item ∈ items, fill item = some (filled item.1)) :
    items.mapM fill = some ((items.map Prod.fst).map filled) := by
  induction items with
  | nil => rfl
  | cons item rest ih =>
    rw [List.mapM_cons, each item (.head _), ih fun other among => each other (.tail _ among)]
    rfl

/-- A block is filled for one item after the other. -/
theorem fillEach_items {items : List Json} {body : Scope → Option (List Char)}
    {filled : Json → List Char}
    (each : ∀ item ∈ items, ∀ inner : Scope, inner.this = .value item →
      body inner = some (filled item)) :
    fillEach scope (.value (.arr items)) body (fun _ => some []) =
      some (items.flatMap filled) := by
  simp only [fillEach, Template.itemsOf, Option.bind_eq_bind, Option.bind_some]
  generalize listed : List.mapIdx _ _ = placed
  have values : placed.map Prod.fst = items := by
    rw [← listed]
    apply List.ext_getElem? 
    simp [Function.comp_def]
  have filling : placed.mapM (fun item =>
        body (.mk (.value item.1) (.scope scope) scope.root (some item.2))) =
      some ((placed.map Prod.fst).map filled) :=
    mapM_items fun item among => each item.1 (values ▸ List.mem_map_of_mem among) _ rfl
  rw [values] at filling
  cases placed with
  | nil =>
    subst values
    rfl
  | cons item rest =>
    dsimp only
    rw [filling]
    simp [List.flatMap]

mutual

/-- A piece is filled as a template as it is filled as a form. -/
theorem fill_tagPiece : ∀ {scope : Scope} {document : Json} (piece : FormPiece),
    scope.this = .value document → FitsPiece document piece →
      Template.fillPiece scope (tagPiece piece) = some (fillPiece document piece)
  | _, _, .literal text, _, _ => rfl
  | scope, document, .hole name, here, ⟨field, found⟩ => by
    obtain ⟨value, found⟩ := Option.isSome_iff_exists.mp found
    have resolved := resolve_field here field found
    simp only [tagPiece, Template.fillPiece, holeValue?, field.1, resolved, fillPiece, valueOf,
      found]
    cases value <;> rfl
  | scope, document, .given name body, here, ⟨field, found, fits⟩ => by
    obtain ⟨value, found⟩ := Option.isSome_iff_exists.mp found
    have resolved := resolve_field here field found
    have inside := fill_tagged body here fits
    simp only [tagPiece, Template.fillPiece, Helper.ofName?, givenOf, evaluate, resolved,
      Helper.fill, fillPiece, valueOf, found, inside]
    cases given : value.truthy <;>
      simp [Given.single?, Found.truthy?, given, Template.fill]
  | scope, document, .each name body, here, ⟨field, items, found, fits⟩ => by
    have resolved := resolve_field here field found
    have inside (item : Json) (among : item ∈ items) (inner : Scope)
        (within : inner.this = .value item) :
        Template.fill inner (tagged body) = some (fill item body) :=
      fill_tagged body within (fits item among)
    simp only [tagPiece, Template.fillPiece, Helper.ofName?, givenOf, evaluate, resolved,
      Helper.fill, fillPiece, valueOf, found]
    simp [Given.single?, Template.fill, fillEach_items inside, Form.itemsOf]

/-- A form is filled as a template as it is filled as a form. -/
theorem fill_tagged : ∀ {scope : Scope} {document : Json} (form : Form),
    scope.this = .value document → Fits document form →
      Template.fill scope (tagged form) = some (fill document form)
  | _, _, [], _, _ => rfl
  | scope, document, piece :: rest, here, ⟨first, others⟩ => by
    rw [tagged, Template.fill, fill_tagPiece piece here first, fill_tagged rest here others, fill]
    rfl

end

/-! ## Reading -/

theorem tagPiece_literal (text : String) :
    tagPiece (.literal text) = .literal (String.ofList text.toList) := by
  rw [tagPiece, String.ofList_toList]

theorem tagPiece_hole (name : String) : tagPiece (.hole name) = .hole false [name] [] := rfl

theorem tagPiece_given (name : String) (body : Form) :
    tagPiece (.given name body) = .block "if" [.found [name]] (tagged body) [] := rfl

theorem tagPiece_each (name : String) (body : Form) :
    tagPiece (.each name body) = .block "each" [.found [name]] (tagged body) [] := rfl

end Form

open Form

/-- The forms of all prompts. -/
def forms : List Form := [gradingForm, retryForm, recommendationsForm]

set_option maxRecDepth 20000 in
/-- The text of each template is read as the pieces of its form. -/
theorem read?_source : ∀ form ∈ forms,
    Template.read? (String.ofList form.source) = some form.tagged := by
  simp only [forms, List.forall_mem_cons, List.not_mem_nil, false_implies, implies_true, and_true]
  simp only [gradingForm, retryForm, recommendationsForm, interactionForm, source, write, writePiece,
    opening, closing, holeTag, tagged, tagPiece_literal, tagPiece_hole, tagPiece_given,
    tagPiece_each, Template.read?, String.toList_ofList, String.toList_append]
  -- What is left is to read three texts without a value in them.
  repeat rw [String.toList_ofList]
  exact ⟨rfl, rfl, rfl⟩

/-- From a document that has what a prompt asks for, the text of its template gives what its form
gives. -/
theorem expand?_source {form : Form} (among : form ∈ forms) {document : Json}
    (fits : Fits document form) :
    Template.expand? form.source document = some (form.render document) := by
  have filled := fill_tagged form (show (Template.Scope.whole document).this = _ from rfl) fits
  simp only [Template.expand?, read?_source form among, Option.bind_eq_bind, Option.bind_some,
    Template.render?, filled, Option.map_some, Form.render]

end Prompt

end VisualNovel
