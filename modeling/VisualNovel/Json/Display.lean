import VisualNovel.Json.Basic
import VisualNovel.Number.Shortest
import VisualNovel.Text.Quoted
/-!
The text that a document becomes when it is put into a sentence.  A text stands for itself; inside a
list or an object it is quoted.
-/

namespace VisualNovel.Json

mutual

/-- A document as it stands inside a list. -/
def listed : Json → List Char
  | null => "None".toList
  | bool value => (if value then "True" else "False").toList
  | int value => (toString value).toList
  | float value => value.text.toList
  | str value => (Text.quoted value).toList
  | arr items => '[' :: listedItems items ++ [']']
  | obj fields => '{' :: listedFields fields ++ ['}']

def listedItems : List Json → List Char
  | [] => []
  | [item] => listed item
  | item :: next :: rest => listed item ++ ',' :: ' ' :: listedItems (next :: rest)

def listedFields : List (String × Json) → List Char
  | [] => []
  | [(name, value)] => (Text.quoted name).toList ++ ':' :: ' ' :: listed value
  | (name, value) :: next :: rest =>
    (Text.quoted name).toList ++ ':' :: ' ' :: listed value ++ ',' :: ' ' ::
      listedFields (next :: rest)

end

/-- A document inside a sentence. -/
def display : Json → String
  | str value => value
  | document => String.ofList (listed document)

end VisualNovel.Json
