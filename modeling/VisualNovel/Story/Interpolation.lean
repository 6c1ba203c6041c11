import VisualNovel.Story.Value
import VisualNovel.Text.Word
/-!
Story text with variables in it.  A token is a run of word characters in braces; it stands for the
player's name or for a variable, and what it brings in is not read again.
-/

namespace VisualNovel.Interpolation

open Text

/-- The name that stands for the player, and what an unnamed player is called. -/
def playerToken : String := "userName"

def unnamedPlayer : String := "Player"

/-- The name of the token whose opening brace has just been passed, and the text after it. -/
def tokenAt? (text : List Char) : Option (List Char × List Char) :=
  match text.takeWhile isWordChar, text.dropWhile isWordChar with
  | name@(_ :: _), '\x7d' :: rest => some (name, rest)
  | _, _ => none

theorem tokenAt?_shorter {text name rest : List Char} (token : tokenAt? text = some (name, rest)) :
    rest.length < text.length := by
  unfold tokenAt? at token
  split at token
  · rename_i first tail after named ended
    cases token
    have whole :=
      congrArg List.length (List.takeWhile_append_dropWhile (p := isWordChar) (l := text))
    rw [ended] at whole
    simp only [List.length_append, List.length_cons] at whole
    omega
  · exact absurd token (by simp)

/-- A part of a text: a character that stands for itself, or a token. -/
inductive Piece where
  | char (c : Char)
  | token (name : String)
  deriving DecidableEq

/-- Takes a text apart from left to right; a brace that opens no token stands for itself. -/
def pieces : List Char → List Piece
  | [] => []
  | c :: rest =>
    if c = '\x7b' then
      match _found : tokenAt? rest with
      | some (name, after) => .token (String.ofList name) :: pieces after
      | none => .char c :: pieces rest
    else .char c :: pieces rest
termination_by text => text.length
decreasing_by
  · have shorter := tokenAt?_shorter _found
    simp only [List.length_cons]
    omega
  · simp
  · simp

/-- What a part stands for. -/
def Piece.expand (vars : Variables) (player : Option String) : Piece → String
  | char c => c.toString
  | token name =>
    if name = playerToken then
      match player with
      | some given => if given = "" then unnamedPlayer else given
      | none => unnamedPlayer
    else
      match vars.get? name with
      | some value => value.display
      | none => "\x7b" ++ name ++ "\x7d"

/-- Whether what a part stands for can be written out. -/
def Piece.isWritable (vars : Variables) : Piece → Bool
  | char _ => true
  | token name => name = playerToken || (vars.get? name).all Value.isWritable

/-- Whether the tokens of a text can be replaced. -/
def isWritable (text : String) (vars : Variables) : Bool :=
  (pieces text.toList).all (Piece.isWritable vars)

/-- A text with its tokens replaced. -/
def interpolate (text : String) (vars : Variables) (player : Option String) : String :=
  String.join ((pieces text.toList).map (Piece.expand vars player))

end VisualNovel.Interpolation
