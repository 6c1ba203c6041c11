import VisualNovel.Json.Basic
import VisualNovel.Number.Shortest
import VisualNovel.Text.Surrogate
/-!
Writing a document as text: items and fields are separated by a comma and a blank, a key is followed
by a colon and a blank, and everything beyond printable ASCII is escaped.
-/

namespace VisualNovel.Json

/-- A hexadecimal digit in lower case. -/
def hexChar (n : Nat) : Char := if n < 10 then Char.ofNat (48 + n) else Char.ofNat (87 + n)

/-- The escape of one code unit. -/
def escapeUnit (unit : Nat) : List Char :=
  ['\\', 'u', hexChar (unit / 4096 % 16), hexChar (unit / 256 % 16), hexChar (unit / 16 % 16),
    hexChar (unit % 16)]

/-- The letter that stands for a character after a backslash. -/
def escapeLetter? : Char → Option Char
  | '"' => some '"'
  | '\\' => some '\\'
  | '\x08' => some 'b'
  | '\x0c' => some 'f'
  | '\n' => some 'n'
  | '\r' => some 'r'
  | '\t' => some 't'
  | _ => none

/-- A character as it stands inside a string; one beyond the first 65536 is written as two units. -/
def escapeChar (c : Char) : List Char :=
  match escapeLetter? c with
  | some letter => ['\\', letter]
  | none =>
    let code := Text.codePoint c
    if 32 ≤ code && code < 127 then [c]
    else if code < 0x10000 then escapeUnit code
    else
      escapeUnit (0xd800 + (code - 0x10000) / 0x400) ++
        escapeUnit (0xdc00 + (code - 0x10000) % 0x400)

def quote (text : String) : List Char := '"' :: text.toList.flatMap escapeChar ++ ['"']

/-- The text of a number in a document. -/
def floatText : Binary64 → String
  | .nan => "NaN"
  | .infinite negative => if negative then "-Infinity" else "Infinity"
  | x => x.text

mutual

def writeChars : Json → List Char
  | null => "null".toList
  | bool value => (if value then "true" else "false").toList
  | int value => (toString value).toList
  | float value => (floatText value).toList
  | str value => quote value
  | arr items => '[' :: writeItems items ++ [']']
  | obj fields => '{' :: writeFields fields ++ ['}']

def writeItems : List Json → List Char
  | [] => []
  | [item] => writeChars item
  | item :: next :: rest => writeChars item ++ ',' :: ' ' :: writeItems (next :: rest)

def writeFields : List (String × Json) → List Char
  | [] => []
  | [(key, value)] => quote key ++ ':' :: ' ' :: writeChars value
  | (key, value) :: next :: rest =>
    quote key ++ ':' :: ' ' :: writeChars value ++ ',' :: ' ' :: writeFields (next :: rest)

end

/-- The text of a document. -/
def write (document : Json) : String := String.ofList (writeChars document)

end VisualNovel.Json
