import VisualNovel.Text.Blank
/-!
Text in a fence of three backticks, the way language models like to give documents.
-/

namespace VisualNovel.Text

def fence : List Char := ['\x60', '\x60', '\x60']

/-- The first mark that a text starts with is dropped. -/
def dropFirstMark (marks : List (List Char)) (text : List Char) : List Char :=
  match marks.find? fun mark => mark.isPrefixOf text with
  | some mark => text.drop mark.length
  | none => text

/-- Drops a fence at the end of a text. -/
def dropFenceAtEnd (text : List Char) : List Char :=
  if fence.isSuffixOf text then text.take (text.length - fence.length) else text

/-- A text without a fence around it and without white space around either; the word for the kind of
document goes with the opening fence. -/
def unfenced (text : String) : String :=
  let opened := dropFirstMark [fence ++ "json".toList, fence] (trimChars text.toList)
  String.ofList (trimChars (dropFenceAtEnd opened))

end VisualNovel.Text
