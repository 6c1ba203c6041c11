import VisualNovel.Text.Surrogate
/-!
Texts as bytes.  Besides the usual encoding there are four with units of two or four bytes, which
differ in the order of the bytes of a unit.
-/

namespace VisualNovel.Text

inductive Encoding where
  | utf8
  | utf16 (bigEndian : Bool)
  | utf32 (bigEndian : Bool)
  deriving DecidableEq

namespace Encoding

/-- The name of an encoding in messages. -/
def name : Encoding → String
  | utf8 => "utf-8"
  | utf16 bigEndian => if bigEndian then "utf-16-be" else "utf-16-le"
  | utf32 bigEndian => if bigEndian then "utf-32-be" else "utf-32-le"

/-- The encoding of a text that begins with a character of ASCII, told by where the first zeros are
among its bytes. -/
def detect : List UInt8 → Encoding
  | 0 :: second :: _ :: _ :: _ => if second = 0 then utf32 true else utf16 true
  | _ :: 0 :: third :: fourth :: _ => if third = 0 ∧ fourth = 0 then utf32 false else utf16 false
  | [0, _] => utf16 true
  | [_, 0] => utf16 false
  | _ => utf8

end Encoding

/-- A byte in two hexadecimal digits. -/
def byteText (byte : UInt8) : String :=
  let digits := Nat.toDigits 16 byte.toNat
  String.ofList (List.replicate (2 - digits.length) '0' ++ digits)

/-- What is said of bytes from a position on that stand for nothing. -/
def undecodable (encoding : Encoding) (position : Nat) (bytes : List UInt8) (why : String) :
    String :=
  "'" ++ encoding.name ++ "' codec can't decode " ++
    (match bytes with
      | [byte] => "byte 0x" ++ byteText byte ++ " in position " ++ toString position
      | bytes => "bytes in position " ++ toString position ++ "-" ++
          toString (position + bytes.length - 1)) ++ ": " ++ why

/-- What is said of a unit that is cut off. -/
def truncated : String := "truncated data"

/-- The characters of units of two bytes; the second half of a pair follows the first, and a half
may stand alone. -/
def ofUnits : List Nat → List Char
  | high :: low :: rest =>
    if 0xd800 ≤ high ∧ high < 0xdc00 ∧ 0xdc00 ≤ low ∧ low < 0xe000 then
      Char.ofNat (0x10000 + (high - 0xd800) * 0x400 + (low - 0xdc00)) :: ofUnits rest
    else ofCodePoint high :: ofUnits (low :: rest)
  | [unit] => [ofCodePoint unit]
  | [] => []

/-- The units of two bytes from a position on. -/
def units16 (bigEndian : Bool) (position : Nat) : List UInt8 → Except String (List Nat)
  | first :: second :: rest => do
    let unit := if bigEndian then 256 * first.toNat + second.toNat
      else 256 * second.toNat + first.toNat
    return unit :: (← units16 bigEndian (position + 2) rest)
  | [] => .ok []
  | bytes => .error (undecodable (.utf16 bigEndian) position bytes truncated)

/-- The characters of units of four bytes from a position on. -/
def units32 (bigEndian : Bool) (position : Nat) : List UInt8 → Except String (List Char)
  | first :: second :: third :: fourth :: rest => do
    let bytes := [first, second, third, fourth]
    let code := (if bigEndian then bytes else bytes.reverse).foldl
      (fun code byte => 256 * code + byte.toNat) 0
    if code < 0x110000 then
      return ofCodePoint code :: (← units32 bigEndian (position + 4) rest)
    else
      throw (undecodable (.utf32 bigEndian) position bytes "code point not in range(0x110000)")
  | [] => .ok []
  | bytes => .error (undecodable (.utf32 bigEndian) position bytes truncated)

/-- The bytes of a text in the usual encoding. -/
def bytesOf (text : String) : List UInt8 := text.toUTF8.toList

/-- The bytes that may follow a first byte of several, and how many more there are. -/
def following? (first : UInt8) : Option (UInt8 × UInt8 × Nat) :=
  if 0xc2 ≤ first ∧ first ≤ 0xdf then some (0x80, 0xbf, 0)
  else if first = 0xe0 then some (0xa0, 0xbf, 1)
  else if first = 0xed then some (0x80, 0x9f, 1)
  else if 0xe1 ≤ first ∧ first ≤ 0xef then some (0x80, 0xbf, 1)
  else if first = 0xf0 then some (0x90, 0xbf, 2)
  else if 0xf1 ≤ first ∧ first ≤ 0xf3 then some (0x80, 0xbf, 2)
  else if first = 0xf4 then some (0x80, 0x8f, 2)
  else none

/-- The bits of a first byte that belong to its character. -/
def leadingBits (first : UInt8) (more : Nat) : Nat := first.toNat % Nat.pow 2 (5 - more)

/-- What stands for bytes that stand for nothing. -/
def replacement : Char := '\ufffd'

/-- Decodes bytes in the usual encoding.  What comes first holds the bits of a character that has
begun, the range of its next byte and how many bytes it still needs after that; a character that
breaks off is replaced as a whole. -/
def decodeFrom : Option (Nat × UInt8 × UInt8 × Nat) → List UInt8 → List Char
  | none, [] => []
  | some _, [] => [replacement]
  | begun, byte :: rest =>
    let fresh : Option (Nat × UInt8 × UInt8 × Nat) × List Char :=
      if byte < 0x80 then (none, [Char.ofNat byte.toNat])
      else
        match following? byte with
        | some (least, most, more) => (some (leadingBits byte more, least, most, more), [])
        | none => (none, [replacement])
    match begun with
    | some (bits, least, most, more) =>
      if least ≤ byte ∧ byte ≤ most then
        let bits := 64 * bits + byte.toNat % 64
        match more with
        | 0 => Char.ofNat bits :: decodeFrom none rest
        | more + 1 => decodeFrom (some (bits, 0x80, 0xbf, more)) rest
      else replacement :: fresh.2 ++ decodeFrom fresh.1 rest
    | none => fresh.2 ++ decodeFrom fresh.1 rest

/-- The text of bytes in the usual encoding, with a sign in place of what stands for nothing. -/
def decodeLoosely (bytes : List UInt8) : List Char := decodeFrom none bytes

/-- How a text reads when its bytes are taken to be in the encoding that they look like.  A mark of
the byte order at its beginning is dropped. -/
def reread (text : String) : Except String (List Char) :=
  let bytes := bytesOf text
  match Encoding.detect bytes with
  | .utf8 =>
    match text.toList with
    | '\ufeff' :: rest => .ok rest
    | chars => .ok chars
  | .utf16 bigEndian => (units16 bigEndian 0 bytes).map ofUnits
  | .utf32 bigEndian => units32 bigEndian 0 bytes

end VisualNovel.Text
