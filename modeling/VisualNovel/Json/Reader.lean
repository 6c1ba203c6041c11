import VisualNovel.Json.Basic
import VisualNovel.Text.Encoding
import VisualNovel.Text.HexDigit
/-!
Reading a document from its text.  Every refusal names its cause and the place where it was noticed.
Besides the standard grammar three words stand for numbers without digits, and of a repeated key the
last value counts.
-/

namespace VisualNovel.Json

/-- The greatest number of digits that an integer may have. -/
def digitLimit : Nat := 4300

/-- How many lists and objects may stand one inside the other. -/
def depthLimit : Nat := 970

/-- Why a text is no document. -/
inductive ReadCause where
  | expectingValue
  | expectingName
  | expectingColon
  | expectingComma
  | extraData
  | unterminatedString
  | controlCharacter
  | invalidEscape
  | invalidUnicodeEscape
  | byteOrderMark
  | tooManyDigits (count : Nat)
  | tooDeep
  /-- bytes that stand for no text -/
  | undecodable (why : String)
  deriving DecidableEq

/-- What is said of a cause before its place. -/
def ReadCause.text : ReadCause → String
  | expectingValue => "Expecting value"
  | expectingName => "Expecting property name enclosed in double quotes"
  | expectingColon => "Expecting ':' delimiter"
  | expectingComma => "Expecting ',' delimiter"
  | extraData => "Extra data"
  | unterminatedString => "Unterminated string starting at"
  | controlCharacter => "Invalid control character at"
  | invalidEscape => "Invalid \\escape"
  | invalidUnicodeEscape => "Invalid \\uXXXX escape"
  | byteOrderMark => "Unexpected UTF-8 BOM (decode using utf-8-sig)"
  | tooManyDigits count =>
    "Exceeds the limit (" ++ toString digitLimit ++
      " digits) for integer string conversion: value has " ++ toString count ++
      " digits; use sys.set_int_max_str_digits() to increase the limit"
  | tooDeep => "maximum recursion depth exceeded while decoding a JSON document"
  | undecodable why => why

/-- Whether the text breaks the grammar, as opposed to a limit on what can be read. -/
def ReadCause.isGrammatical : ReadCause → Bool
  | tooManyDigits _ => false
  | tooDeep => false
  | undecodable _ => false
  | _ => true

/-- A refusal: its cause, and where it was noticed as an offset, a line and a column. -/
structure ReadError where
  cause : ReadCause
  offset : Nat
  line : Nat
  column : Nat
  deriving DecidableEq

/-- Places a refusal that was noticed with some text still ahead. -/
def ReadError.at (cause : ReadCause) (text ahead : List Char) : ReadError :=
  let offset := text.length - ahead.length
  let before := text.take offset
  { cause, offset
    line := before.count '\n' + 1
    column := (before.reverse.takeWhile (· ≠ '\n')).length + 1 }

/-- What is said of a refusal; a place is given for a break of the grammar only. -/
def ReadError.message (e : ReadError) : String :=
  if !e.cause.isGrammatical then e.cause.text else
  e.cause.text ++ ": line " ++ toString e.line ++ " column " ++ toString e.column ++
    " (char " ++ toString e.offset ++ ")"

/-- A cause and the text ahead of the place where it was noticed. -/
abbrev Refusal := ReadCause × List Char

def isSpace (c : Char) : Bool := c == ' ' || c == '\t' || c == '\n' || c == '\r'

def skipSpace (text : List Char) : List Char := text.dropWhile isSpace

/-- The number that four hexadecimal digits stand for. -/
def hexUnit? (a b c d : Char) : Option Nat := do
  let high := (← Text.hexValue? a) * 16 + (← Text.hexValue? b)
  return (high * 16 + (← Text.hexValue? c)) * 16 + (← Text.hexValue? d)

/-- The character that a backslash before a letter stands for. -/
def shortEscape? : Char → Option Char
  | '"' => some '"'
  | '\\' => some '\\'
  | '/' => some '/'
  | 'b' => some '\x08'
  | 'f' => some '\x0c'
  | 'n' => some '\n'
  | 'r' => some '\r'
  | 't' => some '\t'
  | _ => none

def isHighSurrogate (unit : Nat) : Bool := 0xd800 ≤ unit && unit < 0xdc00

def isLowSurrogate (unit : Nat) : Bool := 0xdc00 ≤ unit && unit < 0xe000

/-- The character of a surrogate pair. -/
def pairChar (high low : Nat) : Char :=
  Char.ofNat (0x10000 + (high - 0xd800) * 0x400 + (low - 0xdc00))

/-- Reads a string after its opening quote; `start` is the text from that quote on, and `done` holds
the characters read so far, the last one first. -/
def readString (start done : List Char) : List Char → Except Refusal (String × List Char)
  | [] => .error (.unterminatedString, start)
  | '"' :: rest => .ok (String.ofList done.reverse, rest)
  | '\\' :: 'u' :: a :: b :: c :: d :: '\\' :: 'u' :: e :: f :: g :: h :: i :: rest =>
    match hexUnit? a b c d with
    | none => .error (.invalidUnicodeEscape,
        'u' :: a :: b :: c :: d :: '\\' :: 'u' :: e :: f :: g :: h :: i :: rest)
    | some high =>
      match hexUnit? e f g h with
      | none => .error (.invalidUnicodeEscape, 'u' :: e :: f :: g :: h :: i :: rest)
      | some low =>
        if isHighSurrogate high && isLowSurrogate low then
          readString start (pairChar high low :: done) (i :: rest)
        else
          readString start (Text.ofCodePoint high :: done)
            ('\\' :: 'u' :: e :: f :: g :: h :: i :: rest)
  | '\\' :: 'u' :: a :: b :: c :: d :: e :: rest =>
    match hexUnit? a b c d with
    | none => .error (.invalidUnicodeEscape, 'u' :: a :: b :: c :: d :: e :: rest)
    | some unit => readString start (Text.ofCodePoint unit :: done) (e :: rest)
  | '\\' :: 'u' :: rest => .error (.invalidUnicodeEscape, 'u' :: rest)
  | '\\' :: c :: rest =>
    match shortEscape? c with
    | none => .error (.invalidEscape, '\\' :: c :: rest)
    | some escaped => readString start (escaped :: done) rest
  | ['\\'] => .error (.unterminatedString, start)
  | c :: rest =>
    if c.toNat < 32 then .error (.controlCharacter, c :: rest)
    else readString start (c :: done) rest

/-- The decimal digits at the start of a text as a number, how many they are, and what follows. -/
def readDigits (value count : Nat) : List Char → Nat × Nat × List Char
  | [] => (value, count, [])
  | c :: rest =>
    if c.isDigit then readDigits (10 * value + (c.toNat - 48)) (count + 1) rest
    else (value, count, c :: rest)

/-- An optional fraction: the significand with its digits appended, their number, and what follows.
A point without a digit after it is no fraction. -/
def readFraction (significand : Nat) : List Char → Nat × Nat × List Char
  | '.' :: c :: rest =>
    if c.isDigit then readDigits significand 0 (c :: rest) else (significand, 0, '.' :: c :: rest)
  | rest => (significand, 0, rest)

/-- An optional exponent and what follows; a letter without digits after it is no exponent. -/
def readExponent (text : List Char) : Option (Int × List Char) :=
  match text with
  | e :: rest =>
    if e = 'e' || e = 'E' then
      let (negative, digits) :=
        match rest with
        | '-' :: digits => (true, digits)
        | '+' :: digits => (false, digits)
        | digits => (false, digits)
      match readDigits 0 0 digits with
      | (_, 0, _) => none
      | (value, _, rest) => some (if negative then -value else value, rest)
    else none
  | [] => none

/-- Reads a number at the start of a text; `text` is what remains of it after a minus sign. -/
def readNumber (start : List Char) (negative : Bool) (text : List Char) :
    Except Refusal (Json × List Char) :=
  let whole : Option (Nat × Nat × List Char) :=
    match text with
    | '0' :: rest => some (0, 1, rest)
    | c :: rest => if c.isDigit then some (readDigits 0 0 (c :: rest)) else none
    | [] => none
  match whole with
  | none => .error (.expectingValue, start)
  | some (value, count, rest) =>
    let (significand, places, afterFraction) := readFraction value rest
    match readExponent afterFraction with
    | some (exponent, rest) =>
      .ok (float (.ofDecimal negative significand (exponent - places)), rest)
    | none =>
      if places = 0 then
        if count > digitLimit then .error (.tooManyDigits count, start)
        else .ok (int (if negative then -value else value), rest)
      else .ok (float (.ofDecimal negative significand (-places)), afterFraction)

/-- Reads a scalar other than a string. -/
def readScalar : List Char → Except Refusal (Json × List Char)
  | 'n' :: 'u' :: 'l' :: 'l' :: rest => .ok (null, rest)
  | 't' :: 'r' :: 'u' :: 'e' :: rest => .ok (bool true, rest)
  | 'f' :: 'a' :: 'l' :: 's' :: 'e' :: rest => .ok (bool false, rest)
  | 'N' :: 'a' :: 'N' :: rest => .ok (float .nan, rest)
  | 'I' :: 'n' :: 'f' :: 'i' :: 'n' :: 'i' :: 't' :: 'y' :: rest =>
    .ok (float (.infinite false), rest)
  | '-' :: 'I' :: 'n' :: 'f' :: 'i' :: 'n' :: 'i' :: 't' :: 'y' :: rest =>
    .ok (float (.infinite true), rest)
  | '-' :: rest => readNumber ('-' :: rest) true rest
  | text => readNumber text false text

/-- Reads a key and the colon after it, with the white space around the colon. -/
def readKey : List Char → Except Refusal (String × List Char)
  | '"' :: rest => do
    let (key, rest) ← readString ('"' :: rest) [] rest
    match skipSpace rest with
    | ':' :: rest => return (key, skipSpace rest)
    | rest => throw (.expectingColon, rest)
  | text => .error (.expectingName, text)

mutual

/-- Reads a document at the very start of a text; `room` is the number of lists and objects that may
still be opened one inside the other. -/
def readValue (fuel room : Nat) (text : List Char) : Except Refusal (Json × List Char) :=
  match fuel with
  | 0 => .error (.expectingValue, text)
  | fuel + 1 =>
    match text with
    | '"' :: rest => do
      let (value, rest) ← readString ('"' :: rest) [] rest
      return (str value, rest)
    | '[' :: rest =>
      if room = 0 then .error (.tooDeep, text)
      else
        match skipSpace rest with
        | ']' :: rest => .ok (arr [], rest)
        | rest => readItems fuel (room - 1) [] rest
    | '{' :: rest =>
      if room = 0 then .error (.tooDeep, text)
      else
        match skipSpace rest with
        | '}' :: rest => .ok (obj [], rest)
        | rest => readFields fuel (room - 1) [] rest
    | text => readScalar text

/-- Reads the items of an array from the next one on; `done` holds those before it, the last one
first. -/
def readItems (fuel room : Nat) (done : List Json) (text : List Char) :
    Except Refusal (Json × List Char) :=
  match fuel with
  | 0 => .error (.expectingValue, text)
  | fuel + 1 => do
    let (item, rest) ← readValue fuel room text
    match skipSpace rest with
    | ']' :: rest => return (arr (item :: done).reverse, rest)
    | ',' :: rest => readItems fuel room (item :: done) (skipSpace rest)
    | rest => throw (.expectingComma, rest)

/-- Reads the fields of an object from the next one on; `done` holds those before it. -/
def readFields (fuel room : Nat) (done : List (String × Json)) (text : List Char) :
    Except Refusal (Json × List Char) :=
  match fuel with
  | 0 => .error (.expectingValue, text)
  | fuel + 1 => do
    let (key, rest) ← readKey text
    let (value, rest) ← readValue fuel room rest
    match skipSpace rest with
    | '}' :: rest => return (obj (assign key value done), rest)
    | ',' :: rest => readFields fuel room (assign key value done) (skipSpace rest)
    | rest => throw (.expectingComma, rest)

end

/-- Reads a whole text.  Of two steps in a row that call one another the first has used up a
character, so a fuel of twice the length is never used up. -/
def readWhole (text : List Char) : Except Refusal Json := do
  let (value, rest) ← readValue (2 * text.length + 2) depthLimit (skipSpace text)
  match skipSpace rest with
  | [] => return value
  | rest => throw (.extraData, rest)

/-- An outcome with the place of a refusal. -/
def placed (text : List Char) (outcome : Except Refusal Json) : Except ReadError Json :=
  outcome.mapError fun (cause, ahead) => .at cause text ahead

/-- The document that a text stands for. -/
def read (text : String) : Except ReadError Json :=
  match text.toList with
  | '\ufeff' :: rest => .error (.at .byteOrderMark ('\ufeff' :: rest) ('\ufeff' :: rest))
  | chars => placed chars (readWhole chars)

/-- The document that the bytes of a text stand for, in whichever encoding they look like. -/
def readBytes (text : String) : Except ReadError Json :=
  match Text.reread text with
  | .ok chars => placed chars (readWhole chars)
  | .error why => .error (.at (.undecodable why) [] [])

end VisualNovel.Json
