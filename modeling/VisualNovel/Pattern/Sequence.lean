import VisualNovel.Pattern.Basic
/-!
What a pattern's text is read into before it becomes a pattern: sequences of items.  Alternatives
that begin alike share their beginning, and alternatives between single characters are one set.
-/

namespace VisualNovel.Pattern

/-- How the characters of a pattern are to be understood. -/
structure Mode where
  foldCase : Bool
  lineAnchors : Bool
  dotAll : Bool
  asciiOnly : Bool
  /-- White space and comments stand for nothing. -/
  spaced : Bool
  deriving DecidableEq

def Mode.plain : Mode := ⟨false, false, false, false, false⟩

/-- The mode with what some letters switch on and others switch off. -/
def Mode.switch (mode : Mode) (on off : List Char) : Mode where
  foldCase := (mode.foldCase || on.contains 'i') && !off.contains 'i'
  lineAnchors := (mode.lineAnchors || on.contains 'm') && !off.contains 'm'
  dotAll := (mode.dotAll || on.contains 's') && !off.contains 's'
  asciiOnly := (mode.asciiOnly || on.contains 'a') && !on.contains 'u'
  spaced := (mode.spaced || on.contains 'x') && !off.contains 'x'

def Mode.fold (mode : Mode) : Fold :=
  if !mode.foldCase then .exact else if mode.asciiOnly then .ascii else .letters

/-- The smallest items, which can be told to be equal. -/
inductive Atom where
  | literal (code : Nat)
  | otherThan (code : Nat)
  | set (items : List SetItem) (complement : Bool)
  | dot
  | anchor (which : Anchor)
  | reference (number : Nat)
  deriving DecidableEq

/-- What an atom stands for.  A character that stands for itself stands for its letter when case
does not matter. -/
def Atom.pattern (mode : Mode) : Atom → Pattern
  | literal code => .char ⟨[.code (mode.fold.lower code)], false, mode.fold⟩
  | otherThan code => .char ⟨[.code (mode.fold.lower code)], true, mode.fold⟩
  | set items complement => .char ⟨items, complement, mode.fold⟩
  | dot => .char ⟨if mode.dotAll then [] else [.code 10], true, .exact⟩
  | anchor which => .anchor which
  | reference number => .reference number mode.fold

inductive Item where
  | atom (smallest : Atom)
  | repetition (pattern : Pattern)
  | other (pattern : Pattern)

def Item.pattern (mode : Mode) : Item → Pattern
  | .atom smallest => smallest.pattern mode
  | .repetition pattern => pattern
  | .other pattern => pattern

/-- Whether an item may be repeated: an anchor and a repetition may not. -/
def Item.isRepeatable : Item → Bool
  | .atom (.anchor _) => false
  | .repetition _ => false
  | _ => true

/-- One pattern after the other. -/
def inSequence : List Pattern → Pattern
  | [] => .empty
  | [pattern] => pattern
  | pattern :: rest => .seq pattern (inSequence rest)

/-- One pattern or the other. -/
def oneOf : List Pattern → Pattern
  | [] => .empty
  | [pattern] => pattern
  | pattern :: rest => .either pattern (oneOf rest)

def sequence (mode : Mode) (items : List Item) : Pattern :=
  inSequence (items.map (·.pattern mode))

/-- An item, or the items in brackets that do no more than hold them together. -/
inductive Piece where
  | one (item : Item)
  | bracketed (items : List Item)

def Piece.items : Piece → List Item
  | one item => [item]
  | bracketed items => items

def Piece.itemsOf (pieces : List Piece) : List Item := pieces.flatMap Piece.items

def Piece.isRepeatable : Piece → Bool
  | one item => item.isRepeatable
  | bracketed _ => true

/-- Whether a sequence begins with an atom. -/
def beginsWith (atom : Atom) : List Item → Bool
  | .atom first :: _ => first == atom
  | _ => false

/-- The atoms that a sequence and some others begin with, and what comes after them. -/
def splitCommon : List Item → List (List Item) → List Item × List (List Item)
  | .atom atom :: rest, others =>
    if others.all (beginsWith atom) then
      let (common, left) := splitCommon rest (others.map List.tail)
      (.atom atom :: common, left)
    else ([], (.atom atom :: rest) :: others)
  | first, others => ([], first :: others)

/-- What a sequence adds to a set, if it is but one character of a kind. -/
def setItems? : List Item → Option (List SetItem)
  | [.atom (.literal code)] => some [.code code]
  | [.atom (.set items false)] => some items
  | _ => none

/-- Alternatives in one sequence. -/
def alternation (mode : Mode) (first : List Item) (others : List (List Item)) : List Item :=
  let (common, left) := splitCommon first others
  match left.mapM setItems? with
  | some sets => common ++ [.atom (.set sets.flatten.eraseDups false)]
  | none => common ++ [.other (oneOf (left.map (sequence mode)))]

/-- The set with some members; a single character needs none. -/
def Atom.ofSet (items : List SetItem) (complement : Bool) : Atom :=
  match items.eraseDups with
  | [.code code] => if complement then .otherThan code else .literal code
  | items => .set items complement

end VisualNovel.Pattern
