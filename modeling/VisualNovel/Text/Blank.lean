import VisualNovel.Text.CharRange
/-!
White space, and text without the white space around it.
-/

namespace VisualNovel.Text

/-- The code points of white space: the separators of every script, and the control characters that
move the cursor or separate records. -/
def blanks : CharRanges :=
  [(0x9, 0xd), (0x1c, 0x20), (0x85, 0x85), (0xa0, 0xa0), (0x1680, 0x1680), (0x2000, 0x200a),
   (0x2028, 0x2029), (0x202f, 0x202f), (0x205f, 0x205f), (0x3000, 0x3000)]

def isBlank (c : Char) : Bool := blanks.contains c

/-- A list of characters without the white space at either end. -/
def trimChars (text : List Char) : List Char :=
  ((text.dropWhile isBlank).reverse.dropWhile isBlank).reverse

/-- A text without the white space at either end. -/
def trim (text : String) : String := String.ofList (trimChars text.toList)

end VisualNovel.Text
