import VisualNovel.Text.Blank
/-!
White space around tags, which is dealt with before a template is read.  A tilde inside a tag
removes all white space on its side, and a line on which nothing but the tags of blocks and comments
stands leaves no empty line behind.
-/

namespace VisualNovel.Template

/-- A blank within a line. -/
def isGap (c : Char) : Bool := c == ' ' || c == '\t'

/-- What may stand alone on a line. -/
inductive Alone where
  | anywhere
  | first
  | last

/-- Whether the content of a tag lets it stand alone on a line. -/
def Alone.allows (place : Alone) (content : List Char) : Bool :=
  match content with
  | '!' :: _ :: _ => true
  | '#' :: _ :: _ => match place with
    | last => false
    | _ => true
  | '/' :: _ :: _ => match place with
    | first => false
    | _ => true
  | content => match place with
    | anywhere =>
      content == "else".toList ||
        ("else if ".toList.isPrefixOf content && content.length > "else if ".toList.length)
    | _ => false

/-- What is left after a tag that may stand alone, with the gaps around it. -/
def afterTag? (place : Alone) (text : List Char) : Option (List Char) :=
  match text.dropWhile isGap with
  | '{' :: '{' :: text =>
    let content := text.takeWhile fun c => c != '{' && c != '}'
    match text.drop content.length with
    | '}' :: '}' :: rest => if place.allows content then some (rest.dropWhile isGap) else none
    | _ => none
  | _ => none

/-- What is left after as many tags in a row as there are; at most as many as the fuel says. -/
def afterTags (place : Alone) : Nat → List Char → List Char
  | 0, text => text
  | fuel + 1, text =>
    match afterTag? place text with
    | some rest => afterTags place fuel rest
    | none => text

/-- What is left after one tag or several. -/
def afterRow? (place : Alone) (text : List Char) : Option (List Char) := do
  let rest ← afterTag? place text
  return afterTags place text.length rest

/-- What is left after the end of a line. -/
def afterLineEnd? : List Char → Option (List Char)
  | '\n' :: rest => some rest
  | '\r' :: '\n' :: rest => some rest
  | _ => none

/-- Whether a text ends here, but for the end of a line. -/
def isEnd (text : List Char) : Bool := text.isEmpty || text == ['\n']

/-- What is left after white space and tags that are to be tidied, given what stands before them. -/
def afterLoose? (before : Option Char) (text : List Char) : Option (List Char) :=
  (match text with
    | '~' :: '}' :: '}' :: rest => some (rest.dropWhile Text.isBlank)
    | _ => none) <|>
  (match text.dropWhile Text.isBlank with
    | '{' :: '{' :: '~' :: rest => some rest
    | _ => none) <|>
  (if before = some '\n' then afterRow? .anywhere text >>= afterLineEnd? else none) <|>
  (if before = none then afterRow? .first text >>= afterLineEnd? else none) <|>
  (do
    let rest ← afterRow? .last (← afterLineEnd? text)
    if isEnd rest then some rest else none)

/-- A text without the tildes of tags and the gaps between tags, given the two characters before it.
-/
def dropMarks : Option Char → Option Char → List Char → List Char
  | _, _, [] => []
  | first, second, c :: rest =>
    let follows (a : Char) : Bool := first == some a && second == some a
    if c = '~' then
      if follows '{' || ['}', '}'].isPrefixOf rest then dropMarks second c rest
      else c :: dropMarks second c rest
    else if isGap c && follows '}' && ['{', '{'].isPrefixOf (rest.dropWhile isGap) then
      dropGap rest
    else c :: dropMarks second c rest
where
  /-- Goes on inside a gap between tags. -/
  dropGap : List Char → List Char
    | [] => []
    | c :: rest => if isGap c then dropGap rest else c :: dropMarks (some ' ') (some c) rest

/-- Tidies a text from a place on, given the character before it; the fuel is at least its length.
-/
def tidyFrom : Nat → Option Char → List Char → List Char
  | 0, _, text => text
  | _ + 1, _, [] => []
  | fuel + 1, before, c :: rest =>
    match afterLoose? before (c :: rest) with
    | some left =>
      let loose := (c :: rest).take (rest.length + 1 - left.length)
      dropMarks none none (Text.trimChars loose) ++ tidyFrom fuel loose.getLast? left
    | none => c :: tidyFrom fuel (some c) rest

/-- A template's text with the white space around its tags dealt with. -/
def tidy (text : List Char) : List Char := tidyFrom text.length none text

end VisualNovel.Template
