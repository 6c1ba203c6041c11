import VisualNovel.Pattern.Basic
/-!
Looking for a pattern in a text.  A pattern is tried at a place together with what is to follow it;
the ways in which it can match are tried one after another until one lets the rest match too.  The
order matters, because some conditions keep only the first way.
-/

namespace VisualNovel.Pattern

/-- Where a group has last begun, and where it has last ended; it has no end while it has never been
closed. -/
structure Span where
  start : Nat
  stop : Option Nat

/-- A place in a text, with the groups that have been opened on the way there. -/
structure Place where
  position : Nat
  groups : List (Nat × Span)

namespace Place

def span? (place : Place) (number : Nat) : Option Span :=
  (place.groups.find? (·.1 == number)).map (·.2)

/-- The stretch that a group has matched. -/
def capture? (place : Place) (number : Nat) : Option (Nat × Nat) := do
  let span ← place.span? number
  let stop ← span.stop
  if span.start ≤ stop then return (span.start, stop) else none

def setSpan (place : Place) (number : Nat) (span : Span) : Place :=
  { place with groups := (number, span) :: place.groups.filter (·.1 != number) }

/-- A group begins here; until it is closed its last end stays. -/
def openGroup (place : Place) (number : Nat) : Place :=
  place.setSpan number ⟨place.position, (place.span? number).bind (·.stop)⟩

/-- A group ends here. -/
def closeGroup (place : Place) (number : Nat) : Place :=
  place.setSpan number
    ⟨((place.span? number).map (·.start)).getD place.position, some place.position⟩

def moveTo (place : Place) (position : Nat) : Place := { place with position }

end Place

/-- What is to follow: whether the rest matches from a place, and where it ends. -/
abbrev Rest := Place → Option Place

/-- Tries something at a place, with what is to follow it. -/
abbrev Attempt := Rest → Place → Option Place

/-- Makes an attempt a number of times in a row. -/
def exactly (attempt : Attempt) : Nat → Attempt
  | 0, rest, place => rest place
  | n + 1, rest, place => attempt (exactly attempt n rest) place

/-- Makes an attempt as often as it can be made up to a bound, and less often if the rest does not
match otherwise.  An attempt that has not moved on from where it was made is not made again. -/
def greedily (attempt : Attempt) (rest : Rest) : Nat → (madeAt : Option Nat) → Rest
  | 0, _, place => rest place
  | n + 1, madeAt, place =>
    if madeAt = some place.position then rest place
    else
      attempt (greedily attempt rest n (some place.position)) place <|> rest place

/-- Makes an attempt up to a bound only if the rest does not match otherwise. -/
def reluctantly (attempt : Attempt) (rest : Rest) : Nat → (madeAt : Option Nat) → Rest
  | 0, _, place => rest place
  | n + 1, madeAt, place =>
    rest place <|>
      (if madeAt = some place.position then none
        else attempt (reluctantly attempt rest n (some place.position)) place)

/-- Makes an attempt a number of times in a row, in the first way each time. -/
def exactlyFirst (attempt : Attempt) : Nat → Rest
  | 0, place => some place
  | n + 1, place => (attempt some place).bind (exactlyFirst attempt n)

/-- Makes an attempt as often as it can be made up to a bound, in the first way each time. -/
def possessively (attempt : Attempt) : Nat → (madeAt : Option Nat) → Place → Place
  | 0, _, place => place
  | n + 1, madeAt, place =>
    if madeAt = some place.position then place
    else
      match attempt some place with
      | some reached => possessively attempt n (some place.position) reached
      | none => place

def charAt? (text : Array Char) (position : Nat) : Option Char := text[position]?

def wordAt (asciiOnly : Bool) (text : Array Char) (position : Nat) : Bool :=
  (charAt? text position).any (CharClass.word.contains asciiOnly)

/-- Whether a word begins or ends at a position. -/
def wordEdgeAt (asciiOnly : Bool) (text : Array Char) (position : Nat) : Bool :=
  (position != 0 && wordAt asciiOnly text (position - 1)) != wordAt asciiOnly text position

/-- Whether an anchor stands at a position.  In an empty text there is nothing inside or outside of
a word. -/
def Anchor.holds (text : Array Char) (position : Nat) : Anchor → Bool
  | textStart => position == 0
  | textEnd => position == text.size
  | lineStart => position == 0 || charAt? text (position - 1) == some '\n'
  | lineEnd => position == text.size || charAt? text position == some '\n'
  | lastLineEnd =>
    position == text.size || (position + 1 == text.size && charAt? text position == some '\n')
  | wordEdge asciiOnly => wordEdgeAt asciiOnly text position
  | noWordEdge asciiOnly => !text.isEmpty && !wordEdgeAt asciiOnly text position

/-- Whether a stretch of a text is repeated at a position. -/
def repeats (text : Array Char) (fold : Fold) (start length position : Nat) : Bool :=
  (List.range length).all fun i =>
    match charAt? text (start + i), charAt? text (position + i) with
    | some a, some b => fold.lower (Text.codePoint a) == fold.lower (Text.codePoint b)
    | _, _ => false

/-- How many characters of a set follow one another from a position on, up to a bound. -/
def runLength (text : Array Char) (set : CharSet) (position : Nat) : Nat → Nat
  | 0 => 0
  | n + 1 =>
    if (charAt? text position).any set.contains then runLength text set (position + 1) n + 1
    else 0

/-- Tries a repetition of one character: how many there are is counted first. -/
def runOfChars (text : Array Char) (set : CharSet) (least : Nat) (most : Option Nat)
    (manner : Manner) (rest : Rest) (place : Place) : Option Place :=
  let left := text.size - place.position
  let count := runLength text set place.position ((most.map (min left)).getD left)
  if count < least then none
  else
    let after := fun taken => rest (place.moveTo (place.position + taken))
    match manner with
    | .greedy => (List.range' least (count + 1 - least)).reverse.findSome? after
    | .reluctant => (List.range' least (count + 1 - least)).findSome? after
    | .possessive => after count

/-- Tries a pattern at a place. -/
def attempt (text : Array Char) : Pattern → Attempt
  | empty, rest, place => rest place
  | char set, rest, place =>
    if (charAt? text place.position).any set.contains then rest (place.moveTo (place.position + 1))
    else none
  | anchor which, rest, place => if which.holds text place.position then rest place else none
  | seq first second, rest, place => first.attempt text (second.attempt text rest) place
  | either first second, rest, place =>
    first.attempt text rest place <|> second.attempt text rest place
  | repeated (char set) least most manner, rest, place =>
    runOfChars text set least most manner rest place
  | repeated body least most manner, rest, place =>
    let bound := (most.map fun most => min (most - least) (text.size + 2)).getD (text.size + 2)
    match manner with
    | .greedy =>
      exactly (body.attempt text) least (greedily (body.attempt text) rest bound none) place
    | .reluctant =>
      exactly (body.attempt text) least (reluctantly (body.attempt text) rest bound none) place
    | .possessive =>
      (exactlyFirst (body.attempt text) least place).bind fun reached =>
        rest (possessively (body.attempt text) bound none reached)
  | group number body, rest, place =>
    body.attempt text (fun reached => rest (reached.closeGroup number)) (place.openGroup number)
  | reference number fold, rest, place =>
    match place.capture? number with
    | some (start, stop) =>
      if repeats text fold start (stop - start) place.position then
        rest (place.moveTo (place.position + (stop - start)))
      else none
    | none => none
  | ifGroup number yes no, rest, place =>
    if (place.capture? number).isSome then yes.attempt text rest place
    else no.attempt text rest place
  | atomic body, rest, place => (body.attempt text some place).bind rest
  | ahead body wanted, rest, place =>
    match body.attempt text some place, wanted with
    | some reached, true => rest (reached.moveTo place.position)
    | none, false => rest place
    | _, _ => none
  | behind body width wanted, rest, place =>
    let found :=
      if width ≤ place.position then
        body.attempt text some (place.moveTo (place.position - width))
      else none
    match found, wanted with
    | some reached, true => rest (reached.moveTo place.position)
    | none, false => rest place
    | _, _ => none

/-- Whether a pattern matches somewhere in a text. -/
def occursIn (pattern : Pattern) (text : List Char) : Bool :=
  let text := text.toArray
  (List.range (text.size + 1)).any fun start => (pattern.attempt text some ⟨start, []⟩).isSome

end VisualNovel.Pattern
