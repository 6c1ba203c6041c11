/-!
Surrogates: halves of the pairs by which some encodings write the characters beyond the first plane.
A half that stands alone is no character, but escapes can ask for one.  A text holds it in the form
of a character for private use at the end of the code space, which stands for nothing else.
-/

namespace VisualNovel.Text

/-- Whether a number is a half of a pair. -/
def isSurrogate (code : Nat) : Bool := 0xd800 ≤ code && code ≤ 0xdfff

/-- What is added to the number of a half to get the code point that it is held as. -/
def surrogateShift : Nat := 0x100000

/-- The character that a number stands for. -/
def ofCodePoint (code : Nat) : Char :=
  Char.ofNat (if isSurrogate code then code + surrogateShift else code)

/-- Whether a character stands for a half of a pair. -/
def standsForSurrogate (c : Char) : Bool :=
  surrogateShift ≤ c.toNat && isSurrogate (c.toNat - surrogateShift)

/-- The number that a character stands for. -/
def codePoint (c : Char) : Nat :=
  if standsForSurrogate c then c.toNat - surrogateShift else c.toNat

/-- Whether a text holds a half that stands alone, so that it cannot be encoded. -/
def holdsSurrogate (text : String) : Bool := text.toList.any standsForSurrogate

end VisualNovel.Text
