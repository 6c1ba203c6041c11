import VisualNovel.Text.Printable
import VisualNovel.Text.Surrogate
/-!
Text in quotation marks as messages show it: in single quotes, or in double quotes when it holds a
single quote and no double one; what cannot be shown is written as an escape.
-/

namespace VisualNovel.Text

/-- A number in hexadecimal digits, padded with zeros to a width. -/
def hex (width n : Nat) : String :=
  let digits := Nat.toDigits 16 n
  String.ofList (List.replicate (width - digits.length) '0' ++ digits)

/-- A character as it stands between the given quotation marks. -/
def quotedChar (mark c : Char) : String :=
  if c = mark || c = '\\' then String.ofList ['\\', c]
  else if c = '\n' then "\\n"
  else if c = '\r' then "\\r"
  else if c = '\t' then "\\t"
  else if isPrintable c then c.toString
  else if c.toNat < 0x100 then "\\x" ++ hex 2 c.toNat
  else if Text.codePoint c < 0x10000 then "\\u" ++ hex 4 (Text.codePoint c)
  else "\\U" ++ hex 8 c.toNat

def quoted (text : String) : String :=
  let mark := if text.contains '\'' && !text.contains '"' then '"' else '\''
  mark.toString ++ String.join (text.toList.map (quotedChar mark)) ++ mark.toString

end VisualNovel.Text
