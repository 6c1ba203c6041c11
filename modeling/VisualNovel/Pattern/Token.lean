/-!
The units that a pattern's text is read in: characters, and pairs of a backslash and a character.
-/

namespace VisualNovel.Pattern

/-- A unit of a pattern's text; a backslash at its end is left hanging. -/
inductive Token where
  | plain (c : Char)
  | escaped (c : Char)
  | hanging
  deriving DecidableEq

/-- The units of a text. -/
def Token.ofChars : List Char → List Token
  | '\\' :: c :: rest => .escaped c :: ofChars rest
  | ['\\'] => [.hanging]
  | c :: rest => .plain c :: ofChars rest
  | [] => []

/-- The characters of a unit. -/
def Token.chars : Token → List Char
  | plain c => [c]
  | escaped c => ['\\', c]
  | hanging => ['\\']

/-- The character of a unit that is no more than that. -/
def Token.plain? : Token → Option Char
  | plain c => some c
  | _ => none

end VisualNovel.Pattern
