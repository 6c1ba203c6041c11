import VisualNovel.Named
import VisualNovel.Schema.Checked
/-!
How values are written as documents: with either key of a field, and with or without the fields that
hold nothing.
-/

namespace VisualNovel.Schema

structure Style where
  camel : Bool
  omitNull : Bool
  deriving DecidableEq

namespace Style

/-- Documents as they are authored. -/
def authored : Style := ⟨true, false⟩

/-- Authored documents without the fields that hold nothing. -/
def concise : Style := ⟨true, true⟩

/-- Documents with the other keys. -/
def plain : Style := ⟨false, false⟩

def isNull : Json → Bool
  | .null => true
  | _ => false

/-- The object with the given fields. -/
def object (style : Style) (fields : List (Key × Json)) : Json :=
  .obj ((if style.omitNull then fields.filter fun (_, value) => !isNull value else fields).map
    fun (key, value) => (if style.camel then key.camel else key.snake, value))

end Style

/-- An optional value, written as null when it is absent. -/
def ofOption {α : Type} (write : α → Json) (value : Option α) : Json := value.elim .null write

/-- Values by name as an object. -/
def ofNamed {α : Type} (write : α → Json) (named : Named α) : Json :=
  .obj (named.entries.map fun (name, value) => (name, write value))

end VisualNovel.Schema
