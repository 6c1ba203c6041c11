import VisualNovel.Text.AsciiSpelling
/-!
Slugs: the names under which stories are stored.  Whatever is no small letter or digit in the ASCII
spelling of a title becomes a hyphen between what is.
-/

namespace VisualNovel.Text

/-- The slug of a title that leaves no letter or digit. -/
def untitled : String := "untitled"

/-- The characters of which the groups of a slug are made. -/
def isSlugChar (c : Char) : Bool := c.isLower || c.isDigit

/-- The ASCII spelling of a title in small letters and without quotation marks. -/
def spell (title : List Char) : List Char :=
  ((title.flatMap asciiSpelling).map Char.toLower).filter fun c => c != '\'' && c != '"'

/-- Every run of characters that are in no group becomes a hyphen, at its end. -/
def hyphenate : List Char → List Char
  | [] => []
  | c :: rest =>
    if isSlugChar c then c :: hyphenate rest
    else if rest.head?.any fun next => !isSlugChar next then hyphenate rest
    else '-' :: hyphenate rest

/-- A text without hyphens at its end. -/
def dropLastHyphens (text : List Char) : List Char :=
  (text.reverse.dropWhile (· == '-')).reverse

/-- A text without hyphens at either end. -/
def trimHyphens (text : List Char) : List Char := (dropLastHyphens text).dropWhile (· == '-')

/-- The slug of a title. -/
def slugify (title : String) : String :=
  match trimHyphens (hyphenate (spell title.toList)) with
  | [] => untitled
  | slug => String.ofList slug

end VisualNovel.Text
