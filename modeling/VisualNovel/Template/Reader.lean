import VisualNovel.Template.Basic
import VisualNovel.Template.Tidy
import VisualNovel.Text.CharacterName
import VisualNovel.Text.HexDigit
import VisualNovel.Text.Numeral
import VisualNovel.Text.Surrogate
import VisualNovel.Text.Word
/-!
Reading a template from its text.  The text is cut at its tags first; then the tags that open and
close blocks are matched.  A text with a tag that is unknown, unclosed or out of place is no
template.
-/

namespace VisualNovel.Template

/-- A tag, or the text between two of them. -/
inductive Tag where
  | piece (piece : Piece)
  | comment
  | opening (name : String) (arguments : List Argument)
  | openingAbsent (name : String)
  | otherwise
  | closing (name : String)

/-! Texts in quotation marks -/

/-- The character of some hexadecimal digits, and what follows them. -/
def hexChar? (count : Nat) (text : List Char) : Option (Char × List Char) := do
  let digits ← (text.take count).mapM Text.hexValue?
  let code := digits.foldl (fun code digit => 16 * code + digit) 0
  if digits.length = count ∧ code < 0x110000 then
    return (Text.ofCodePoint code, text.drop count)
  else none

/-- What a backslash and what follows it stand for, if anything. -/
def escaped? : List Char → Option (List Char × List Char)
  | '\n' :: rest => some ([], rest)
  | '\\' :: rest => some (['\\'], rest)
  | '\'' :: rest => some (['\''], rest)
  | '"' :: rest => some (['"'], rest)
  | 'a' :: rest => some (['\x07'], rest)
  | 'b' :: rest => some (['\x08'], rest)
  | 'f' :: rest => some (['\x0c'], rest)
  | 'n' :: rest => some (['\n'], rest)
  | 'r' :: rest => some (['\r'], rest)
  | 't' :: rest => some (['\t'], rest)
  | 'v' :: rest => some (['\x0b'], rest)
  | 'x' :: rest => do
    let (c, rest) ← hexChar? 2 rest
    return ([c], rest)
  | 'u' :: rest => do
    let (c, rest) ← hexChar? 4 rest
    return ([c], rest)
  | 'U' :: rest => do
    let (c, rest) ← hexChar? 8 rest
    return ([c], rest)
  | 'N' :: '{' :: rest => do
    let name := rest.takeWhile (· ≠ '}')
    let code ← Text.codeOfName? name
    match rest.drop name.length with
    | _ :: rest => return ([Text.ofCodePoint code], rest)
    | [] => none
  | 'N' :: _ => none
  | text =>
    let digits := (text.take 3).takeWhile fun c => '0' ≤ c && c ≤ '7'
    if digits.isEmpty then some (['\\'], text)
    else
      let code := digits.foldl (fun code c => 8 * code + (c.toNat - 48)) 0
      some ([Char.ofNat code], text.drop digits.length)

/-- A text without its escapes; there is none when its quotation mark or the end of a line stands in
the middle of it.  The fuel is at least its length. -/
def unescape (mark : Char) : Nat → List Char → Option (List Char)
  | _, [] => some []
  | 0, _ => none
  | fuel + 1, '\\' :: rest => do
    let (chars, rest) ← escaped? rest
    return chars ++ (← unescape mark fuel rest)
  | fuel + 1, c :: rest => do
    if c = mark ∨ c = '\n' ∨ c = '\r' ∨ c = '\x00' then none
    else return c :: (← unescape mark fuel rest)

/-- A text without its escapes. -/
def plainText (mark : Char) (text : List Char) : Option String :=
  (unescape mark text.length text).map String.ofList

/-- The characters up to a quotation mark without a backslash before it, and what follows it. -/
def untilMark (mark : Char) : List Char → Option (List Char × List Char)
  | [] => none
  | '\\' :: c :: rest => do
    let (chars, left) ← untilMark mark (if c = '"' ∨ c = '\'' then rest else c :: rest)
    return ('\\' :: (if c = '"' ∨ c = '\'' then [c] else []) ++ chars, left)
  | c :: rest =>
    if c = mark then some ([], rest)
    else do
      let (chars, left) ← untilMark mark rest
      return (c :: chars, left)
termination_by text => text.length
decreasing_by all_goals (first | (split <;> simp +arith) | simp +arith)

/-! Names -/

/-- What is left after the end of a tag. -/
def finish? (text : List Char) : Option (List Char) :=
  match text.dropWhile Text.isBlank with
  | '}' :: '}' :: rest => some rest
  | _ => none

/-- What is left after the end of the tag between the two bodies of a block. -/
def otherwise? (text : List Char) : Option (List Char) :=
  match text.dropWhile Text.isBlank with
  | '^' :: rest => finish? rest
  | 'e' :: 'l' :: 's' :: 'e' :: rest => finish? rest
  | _ => none

/-- The characters of names. -/
def isNameChar (c : Char) : Bool := Text.isWordChar c || c == '-' || c == '@'

/-- A name, which may stand in brackets. -/
def name? (text : List Char) : Option (String × List Char) := do
  guard (otherwise? text).isNone
  let text := match text with
    | '[' :: rest => rest
    | text => text
  let chars := text.takeWhile isNameChar
  guard !chars.isEmpty
  let rest := match text.drop chars.length with
    | ']' :: rest => rest
    | rest => rest
  return (String.ofList chars, rest)

/-- The name of an argument that is given by its name, and the sign after it. -/
def argumentName? (text : List Char) : Option (String × List Char) := do
  guard (otherwise? text).isNone
  let text := match text with
    | '[' :: rest => rest
    | text => text
  let chars := text.takeWhile Text.isWordChar
  guard (2 ≤ chars.length && !(chars.head?.any Text.isDigit))
  match text.drop chars.length with
  | '=' :: rest => return (String.ofList chars, rest)
  | ']' :: '=' :: rest => return (String.ofList chars, rest)
  | _ => none

/-- One name of a way. -/
def step? (text : List Char) : Option (String × List Char) :=
  let bracketed : Option (String × List Char) :=
    match text with
    | '[' :: rest => do
      let chars := rest.takeWhile (· ≠ ']')
      guard !chars.isEmpty
      match rest.drop chars.length with
      | _ :: rest => return (← plainText '\'' chars, rest)
      | [] => none
    | _ => none
  let plain : Option (String × List Char) :=
    match text with
    | '@' :: '.' :: '.' :: '/' :: rest => some (Way.outwardMark, rest)
    | text =>
      name? text <|>
        match text with
        | '/' :: rest => some ("", rest)
        | '.' :: '.' :: '/' :: rest => some (Way.outward, rest)
        | '.' :: rest => some ("", rest)
        | _ => none
  bracketed <|> plain

/-- As many names of a way as there are; at most as many as the fuel says. -/
def steps : Nat → List Char → Way × List Char
  | 0, text => ([], text)
  | fuel + 1, text =>
    match step? text with
    | some (name, rest) =>
      let (way, rest) := steps fuel rest
      (name :: way, rest)
    | none => ([], text)

/-- A way of at least one name. -/
def way? (text : List Char) : Option (Way × List Char) :=
  match text with
  | '/' :: _ => none
  | text =>
    match steps text.length text with
    | ([], _) => none
    | found => some found

/-! Arguments -/

/-- What is left after a word. -/
def after? (word : String) (text : List Char) : Option (List Char) :=
  if word.toList.isPrefixOf text then some (text.drop word.length) else none

/-- A word for a value, or the value itself. -/
def literal? (text : List Char) : Option (Json × List Char) :=
  match text with
  | '"' :: rest => do
    let (chars, rest) ← untilMark '"' rest
    return (.str (← plainText '"' chars), rest)
  | '\'' :: rest => do
    let (chars, rest) ← untilMark '\'' rest
    return (.str (← plainText '\'' chars), rest)
  | text =>
    let digits := text.takeWhile Text.isDigit
    if !digits.isEmpty then do
      return (.int (← Text.integer? digits), text.drop digits.length)
    else
      (after? "false" text).map (Json.bool false, ·) <|>
      (after? "true" text).map (Json.bool true, ·) <|>
      (after? "null" text).map (Json.null, ·) <|>
      (after? "undefined" text).map (Json.null, ·)

/-- Names under which no argument can be given. -/
def reservedNames : List String :=
  ["False", "None", "True", "and", "as", "assert", "async", "await", "break", "class", "continue",
   "def", "del", "elif", "else", "except", "finally", "for", "from", "global", "if", "import", "in",
   "is", "lambda", "nonlocal", "not", "or", "pass", "raise", "return", "try", "while", "with",
   "yield"]

/-- Whether arguments can be given together: those in a row come first, and no name twice. -/
def areSound : List Argument → Bool
  | [] => true
  | .named name _ :: rest =>
    !reservedNames.contains name && rest.all (fun
      | .named other _ => other != name
      | _ => false) && areSound rest
  | _ :: rest => areSound rest

/-- A blank that separates arguments. -/
def separates (c : Char) : Bool := c == ' ' || c == '\t' || c == '\r' || c == '\n'

mutual

/-- An argument, of whatever kind. -/
def argument? : Nat → List Char → Option (Argument × List Char)
  | 0, _ => none
  | fuel + 1, text =>
    match argumentName? text with
    | some (name, rest) =>
      match value? fuel rest with
      | some (value, rest) => some (.named name value, rest)
      | none => value? fuel text
    | none => value? fuel text

/-- An argument without a name. -/
def value? : Nat → List Char → Option (Argument × List Char)
  | 0, _ => none
  | fuel + 1, text =>
    match literal? text with
    | some (value, rest) => some (.literal value, rest)
    | none =>
      match way? text with
      | some (way, rest) => some (.found way, rest)
      | none =>
        match text with
        | '(' :: rest => do
          let (helper, rest) ← step? (rest.dropWhile Text.isBlank)
          let (arguments, rest) := arguments fuel rest
          match rest.dropWhile Text.isBlank with
          | ')' :: rest =>
            guard (areSound arguments)
            return (.call helper arguments, rest)
          | _ => none
        | _ => none

/-- As many arguments as there are. -/
def arguments : Nat → List Char → List Argument × List Char
  | 0, text => ([], text)
  | fuel + 1, text =>
    let ahead := text.dropWhile separates
    if ahead.length = text.length then ([], text)
    else
      match argument? fuel ahead with
      | some (argument, rest) =>
        let (more, rest) := arguments fuel rest
        (argument :: more, rest)
      | none => ([], text)

end

/-- The arguments up to the end of a tag.  Every one takes up a character and three steps. -/
def argumentsThenFinish? (text : List Char) : Option (List Argument × List Char) := do
  let (given, rest) := arguments (3 * text.length + 3) text
  let rest ← finish? rest
  guard (areSound given)
  return (given, rest)

/-! Tags -/

/-- A way and arguments up to the end of a tag. -/
def hole? (escaped : Bool) (text : List Char) : Option (Tag × List Char) := do
  let (way, rest) ← way? (text.dropWhile Text.isBlank)
  let (arguments, rest) ← argumentsThenFinish? rest
  return (.piece (.hole escaped way arguments), rest)

/-- A name and arguments up to the end of a tag. -/
def opening? (tag : String → List Argument → Tag) (text : List Char) :
    Option (Tag × List Char) := do
  let (name, rest) ← name? (text.dropWhile Text.isBlank)
  let (arguments, rest) ← argumentsThenFinish? rest
  return (tag name arguments, rest)

/-- What is left after a comment. -/
def afterComment? : List Char → Option (List Char)
  | '}' :: '}' :: rest => some rest
  | _ :: rest => afterComment? rest
  | [] => none

/-- A hole of three braces, or one of four, which stays empty. -/
def braced? (text : List Char) : Option (Tag × List Char) :=
  (do
    match ← hole? false text with
    | (tag, '}' :: rest) => return (tag, rest)
    | _ => none) <|>
  (match text with
    | '{' :: text => do
      match ← hole? false text with
      | (_, '}' :: '}' :: rest) => return (.comment, rest)
      | _ => none
    | _ => none)

/-- The tag that two braces open. -/
def tag? (text : List Char) : Option (Tag × List Char) :=
  match otherwise? text with
  | some rest => some (.otherwise, rest)
  | none =>
    match text with
    | '#' :: rest => opening? .opening rest
    | '^' :: rest => opening? (fun name _ => .openingAbsent name) rest
    | '!' :: rest => (afterComment? rest).map (Tag.comment, ·)
    | '/' :: rest => do
      let (name, rest) ← name? rest
      match rest with
      | '}' :: '}' :: rest => return (.closing name, rest)
      | _ => none
    | '&' :: rest => hole? false rest
    | '{' :: rest => braced? rest
    | '>' :: rest => do
      let rest := rest.dropWhile Text.isBlank
      let chars := rest.takeWhile fun c => !separates c && c != '}'
      guard !chars.isEmpty
      let (_, rest) ← argumentsThenFinish? (rest.drop chars.length)
      return (.piece .insertion, rest)
    | text => hole? true text

/-- Text that has been gathered with its last character first. -/
def gathered (done : List Char) : List Tag :=
  if done.isEmpty then [] else [.piece (.literal (String.ofList done.reverse))]

/-- Cuts a text at its tags; `done` holds the characters since the last tag.  The fuel is at least
the length of the text. -/
def cut : Nat → List Char → List Char → Option (List Tag)
  | _, done, [] => some (gathered done)
  | 0, _, _ => none
  | fuel + 1, done, '{' :: '{' :: rest => do
    let (tag, rest) ← tag? rest
    return gathered done ++ tag :: (← cut fuel [] rest)
  | fuel + 1, done, c :: rest => cut fuel (c :: done) rest

/-! Blocks -/

/-- A block that has been opened: what stands before it and, after its first body, that body. -/
structure OpenBlock where
  name : String
  /-- the arguments, unless the block is for a value that is absent -/
  arguments : Option (List Argument)
  before : Template
  body : Option Template

/-- The piece that a block becomes. -/
def OpenBlock.close (opened : OpenBlock) (last : Template) : Piece :=
  match opened.arguments with
  | none => .absent opened.name last
  | some arguments =>
    match opened.body with
    | some body => .block opened.name arguments body last
    | none => .block opened.name arguments last []

/-- Puts pieces and blocks together; `done` holds the pieces of the innermost block so far. -/
def assemble (done : Template) : List OpenBlock → List Tag → Option Template
  | [], [] => some done
  | _ :: _, [] => none
  | blocks, .piece piece :: rest => assemble (done ++ [piece]) blocks rest
  | blocks, .comment :: rest => assemble done blocks rest
  | blocks, .opening name arguments :: rest =>
    assemble [] (⟨name, some arguments, done, none⟩ :: blocks) rest
  | blocks, .openingAbsent name :: rest => assemble [] (⟨name, none, done, none⟩ :: blocks) rest
  | opened :: blocks, .otherwise :: rest =>
    if opened.body.isSome || opened.arguments.isNone then none
    else assemble [] ({ opened with body := some done } :: blocks) rest
  | opened :: blocks, .closing name :: rest =>
    if name = opened.name then assemble (opened.before ++ [opened.close done]) blocks rest
    else none
  | [], .otherwise :: _ => none
  | [], .closing _ :: _ => none

/-- The template that a text stands for, if it stands for one. -/
def read? (text : String) : Option Template := do
  let chars := tidy text.toList
  assemble [] [] (← cut chars.length [] chars)

end VisualNovel.Template
