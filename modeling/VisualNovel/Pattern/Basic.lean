import VisualNovel.Text.Blank
import VisualNovel.Text.Case
import VisualNovel.Text.Digit
import VisualNovel.Text.Surrogate
import VisualNovel.Text.Word
/-!
Patterns that a story may ask a text to match: character sets, groups, references and conditions on
them, repetitions, anchors, and conditions on what comes next or came before.
-/

namespace VisualNovel

namespace Pattern

/-- What characters are compared by: themselves, or their lower-case forms, be it those of all
letters or those of the ASCII letters alone. -/
inductive Fold where
  | exact
  | letters
  | ascii
  deriving DecidableEq

/-- The form by which a code point is compared. -/
def Fold.lower : Fold → Nat → Nat
  | exact, code => code
  | letters, code => Text.lowerCode code
  | ascii, code => if 65 ≤ code && code ≤ 90 then code + 32 else code

/-- A class of characters with a name of its own. -/
inductive CharClass where
  | digit
  | blank
  | word
  deriving DecidableEq

/-- Whether a class contains a character, be it one of any script or of ASCII alone. -/
def CharClass.contains (asciiOnly : Bool) (c : Char) : CharClass → Bool
  | digit => if asciiOnly then c.isDigit else Text.isDigit c
  | blank =>
    if asciiOnly then c == ' ' || (9 ≤ c.toNat && c.toNat ≤ 13) else Text.isBlank c
  | word => if asciiOnly then c.isAlphanum || c == '_' else Text.isWordChar c

/-- A part of a character set: a code point, a range of them, or a class or its complement. -/
inductive SetItem where
  | code (value : Nat)
  | range (first last : Nat)
  | class_ (which : CharClass) (asciiOnly complement : Bool)
  deriving DecidableEq

/-- Whether a part contains a code point.  Without regard to case a member stands for all forms of
its letter; beyond the first plane, for those that have the member itself as their lower-case form.
A range contains a code point if it contains some form of the same letter. -/
def SetItem.contains (fold : Fold) (c : Nat) : SetItem → Bool
  | code value =>
    match fold with
    | .letters =>
      let lower := Text.lowerCode value
      if lower < 0x10000 then (Text.sameLetter lower).contains (Text.lowerCode c)
      else Text.lowerCode c == value
    | fold => fold.lower c == fold.lower value
  | range first last =>
    let within := fun code => first ≤ code && code ≤ last
    match fold with
    | .exact => within c
    | .letters =>
      (Text.sameLetter (Text.lowerCode c)).any fun l => (Text.codesWithLower l).any within
    | .ascii =>
      let lower := fold.lower c
      within lower || (97 ≤ lower && lower ≤ 122 && within (lower - 32)) ||
        (0x10000 ≤ last && within (Text.upperCode lower))
  | class_ which asciiOnly complement =>
    which.contains asciiOnly (Char.ofNat (fold.lower c)) != complement

/-- A set of characters and what they are compared by. -/
structure CharSet where
  items : List SetItem
  complement : Bool
  fold : Fold
  deriving DecidableEq

def CharSet.contains (set : CharSet) (c : Char) : Bool :=
  set.items.any (·.contains set.fold (Text.codePoint c)) != set.complement

/-- Places between characters that a pattern can ask for. -/
inductive Anchor where
  | textStart
  | textEnd
  | lineStart
  | lineEnd
  | lastLineEnd
  | wordEdge (asciiOnly : Bool)
  | noWordEdge (asciiOnly : Bool)
  deriving DecidableEq

/-- How often a repetition is tried: as often as it can be, as rarely as it can be, or as often as
it can be and not otherwise. -/
inductive Manner where
  | greedy
  | reluctant
  | possessive
  deriving DecidableEq

end Pattern

/-- How often a repetition repeats is given by a least number and, perhaps, a greatest one. -/
inductive Pattern where
  | empty
  | char (set : Pattern.CharSet)
  | anchor (which : Pattern.Anchor)
  | seq (first second : Pattern)
  | either (first second : Pattern)
  | repeated (body : Pattern) (least : Nat) (most : Option Nat) (manner : Pattern.Manner)
  | group (number : Nat) (body : Pattern)
  | reference (number : Nat) (fold : Pattern.Fold)
  /-- One of two patterns, by whether a group has matched. -/
  | ifGroup (number : Nat) (yes no : Pattern)
  /-- The first way in which a pattern matches, and no other. -/
  | atomic (body : Pattern)
  | ahead (body : Pattern) (wanted : Bool)
  | behind (body : Pattern) (width : Nat) (wanted : Bool)

namespace Pattern

/-- The least and, if there is one, the greatest number of characters that a pattern can match,
given those of the groups before it. -/
def widths (groups : Nat → Nat × Option Nat) : Pattern → Nat × Option Nat
  | empty => (0, some 0)
  | char _ => (1, some 1)
  | anchor _ => (0, some 0)
  | seq first second =>
    let (a, b) := first.widths groups
    let (c, d) := second.widths groups
    (a + c, do return (← b) + (← d))
  | either first second => ofEither (first.widths groups) (second.widths groups)
  | repeated body least most _ =>
    let (a, b) := body.widths groups
    (a * least, if b = some 0 ∨ most = some 0 then some 0 else do return (← b) * (← most))
  | group _ body => body.widths groups
  | reference number _ => groups number
  | ifGroup _ yes no => ofEither (yes.widths groups) (no.widths groups)
  | atomic body => body.widths groups
  | ahead .. => (0, some 0)
  | behind .. => (0, some 0)
where
  ofEither (first second : Nat × Option Nat) : Nat × Option Nat :=
    (min first.1 second.1, do return max (← first.2) (← second.2))

end Pattern

end VisualNovel
