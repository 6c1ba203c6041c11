import VisualNovel.Pattern.Sequence
import VisualNovel.Pattern.Token
import VisualNovel.Text.CharacterName
import VisualNovel.Text.HexDigit
import VisualNovel.Text.Identifier
import VisualNovel.Text.Numeral
/-!
Reading a pattern from its text.  A text that is no pattern is ignored by what asks for it to be
matched; but a text can also ask for more than a pattern can hold.
-/

namespace VisualNovel.Pattern

/-- Why a text gives no pattern. -/
inductive Flaw where
  /-- It is no pattern. -/
  | malformed
  /-- It holds a number beyond those that a repetition can count, or that a character can have. -/
  | tooLarge
  /-- It holds a number of too many digits. -/
  | tooManyDigits
  /-- It asks for characters of all scripts and for those of ASCII alone. -/
  | clashingModes
  /-- Its brackets are nested too deeply. -/
  | tooDeep
  deriving DecidableEq

def Flaw.message : Flaw → String
  | malformed => "not a pattern"
  | tooLarge => "the repetition number is too large"
  | tooManyDigits => "too many digits in a number"
  | clashingModes => "ASCII and UNICODE flags are incompatible"
  | tooDeep => "too many nested brackets"

/-- What has been read of a pattern: the text ahead; the letters that switch modes for all of it;
the number of groups opened, those still open, their names, and their widths once closed; inside a
condition on what came before the number of groups opened ahead of it; the greatest number of a
group that has been asked for; and whether something has been read that cannot be put together. -/
structure Progress where
  ahead : List Token
  letters : List Char
  groups : Nat
  opened : List Nat
  names : List (String × Nat)
  widths : List (Nat × Nat × Option Nat)
  groupsBefore : Option Nat
  asked : Nat
  flawed : Bool

/-- The mode for all of the text. -/
def Progress.mode (progress : Progress) : Mode := Mode.plain.switch progress.letters []

/-- A step of reading, which may find a flaw. -/
abbrev Step (α : Type) := StateT Progress (Except Flaw) α

def malformed {α : Type} : Step α := throw .malformed

/-- The next unit, without passing it. -/
def peek : Step (Option Token) := do return (← get).ahead.head?

/-- Goes on to the units after the next one; the one that comes then must not be a backslash left
hanging. -/
def proceed (rest : List Token) : Step Unit := do
  if rest.head? = some .hanging then malformed
  modify fun progress => { progress with ahead := rest }

/-- Passes the next unit; there has to be one. -/
def next : Step Token := do
  match (← get).ahead with
  | token :: rest =>
    proceed rest
    return token
  | [] => malformed

/-- Passes the next unit, which has to be no more than a character. -/
def nextChar : Step Char := do
  match ← next with
  | .plain c => return c
  | _ => malformed

/-- Passes the next unit if it is the given character. -/
def accept (c : Char) : Step Bool := do
  match (← get).ahead with
  | .plain d :: rest =>
    if d = c then
      proceed rest
      return true
    else return false
  | _ => return false

/-- Passes the next unit, which has to be the given character. -/
def expect (c : Char) : Step Unit := do
  unless ← accept c do malformed

/-- Passes at most a number of characters of a kind. -/
def takeUpTo (kind : Char → Bool) : Nat → Step (List Char)
  | 0 => return []
  | limit + 1 => do
    match (← get).ahead with
    | .plain c :: rest =>
      if kind c then
        proceed rest
        return c :: (← takeUpTo kind limit)
      else return []
    | _ => return []

/-- Passes all characters of a kind. -/
def takeAll (kind : Char → Bool) : Step (List Char) := do takeUpTo kind (← get).ahead.length

/-- Passes all before the given character, and that one. -/
def takeUntil (c : Char) : Step (List Char) := do
  let ahead := (← get).ahead
  let taken := ahead.takeWhile (· ≠ .plain c)
  if taken.contains .hanging then malformed
  match ahead.drop taken.length with
  | _ :: rest =>
    proceed rest
    return taken.flatMap Token.chars
  | [] => malformed

/-- Passes a name and the character after it. -/
def takeName (stop : Char) : Step (List Char) := do
  let name ← takeUntil stop
  if name.isEmpty then malformed else return name

def isOctal (c : Char) : Bool := '0' ≤ c && c ≤ '7'

/-- The number that digits of a base stand for. -/
def numeral (base : Nat) (digits : List Char) : Nat :=
  digits.foldl (fun value c => base * value + (Text.hexValue? c).getD 0) 0

/-- A code point given by exactly so many hexadecimal digits. -/
def hexEscape (count : Nat) : Step Nat := do
  let digits ← takeUpTo (fun c => (Text.hexValue? c).isSome) count
  let code := numeral 16 digits
  if digits.length ≠ count then malformed
  else if Nat.pow 2 31 ≤ code then throw .tooLarge
  else if 0x110000 ≤ code then malformed
  else return code

/-- A code point given by the name of its character. -/
def namedEscape : Step Nat := do
  expect '\x7b'
  match Text.codeOfName? (← takeName '\x7d') with
  | some code => return code
  | none => malformed

/-- The control characters that a letter after a backslash stands for. -/
def controlEscape? : Char → Option Nat
  | 'a' => some 7
  | 'f' => some 12
  | 'n' => some 10
  | 'r' => some 13
  | 't' => some 9
  | 'v' => some 11
  | '\\' => some 92
  | _ => none

/-- The classes that a letter after a backslash stands for. -/
def classEscape? (mode : Mode) : Char → Option SetItem
  | 'd' => some (.class_ .digit mode.asciiOnly false)
  | 'D' => some (.class_ .digit mode.asciiOnly true)
  | 's' => some (.class_ .blank mode.asciiOnly false)
  | 'S' => some (.class_ .blank mode.asciiOnly true)
  | 'w' => some (.class_ .word mode.asciiOnly false)
  | 'W' => some (.class_ .word mode.asciiOnly true)
  | _ => none

/-- The anchors that a letter after a backslash stands for. -/
def anchorEscape? (mode : Mode) : Char → Option Anchor
  | 'A' => some .textStart
  | 'Z' => some .textEnd
  | 'b' => some (.wordEdge mode.asciiOnly)
  | 'B' => some (.noWordEdge mode.asciiOnly)
  | _ => none

/-- The code points given by a letter after a backslash and by what follows, in a set and outside.
-/
def codeEscape? : Char → Option (Step Nat)
  | 'x' => some (hexEscape 2)
  | 'u' => some (hexEscape 4)
  | 'U' => some (hexEscape 8)
  | 'N' => some namedEscape
  | _ => none

/-- Refuses a group that may not be referred to inside a condition on what came before: one that has
not been closed, or that has not been opened ahead of the condition. -/
def demandBefore (number : Nat) : Step Unit := do
  let progress ← get
  match progress.groupsBefore with
  | some last =>
    if last < number || progress.groups < number || progress.opened.contains number then malformed
  | none => return ()

/-- A reference to a group that has been closed. -/
def closedGroup (number : Nat) : Step Atom := do
  let progress ← get
  if progress.groups < number || progress.opened.contains number then malformed
  demandBefore number
  return .reference number

/-- What a backslash and a digit other than zero stand for: a reference to a group, or a character
given by three octal digits. -/
def digitEscape (c : Char) : Step Atom := do
  match ← takeUpTo Char.isDigit 1 with
  | [d] =>
    if isOctal c && isOctal d then
      match ← takeUpTo isOctal 1 with
      | [e] =>
        let code := numeral 8 [c, d, e]
        if code ≤ 0o377 then return .literal code else malformed
      | _ => closedGroup (numeral 10 [c, d])
    else closedGroup (numeral 10 [c, d])
  | _ => closedGroup (numeral 10 [c])

/-- What a backslash and a character stand for outside a set. -/
def escape (mode : Mode) (c : Char) : Step Atom := do
  match anchorEscape? mode c, classEscape? mode c, controlEscape? c, codeEscape? c with
  | some which, _, _, _ => return .anchor which
  | none, some item, _, _ => return .set [item] false
  | none, none, some code, _ => return .literal code
  | none, none, none, some code => return .literal (← code)
  | none, none, none, none =>
    if c = '0' then return .literal (numeral 8 (← takeUpTo isOctal 2))
    else if c.isDigit then digitEscape c
    else if c.isAlpha then malformed
    else return .literal (Text.codePoint c)

/-- What a backslash and a character stand for inside a set. -/
def setEscape (mode : Mode) (c : Char) : Step SetItem := do
  match classEscape? mode c, controlEscape? c, codeEscape? c with
  | some item, _, _ => return item
  | none, some code, _ => return .code code
  | none, none, some code => return .code (← code)
  | none, none, none =>
    if c = 'b' then return .code 8
    else if isOctal c then
      let code := numeral 8 (c :: (← takeUpTo isOctal 2))
      if code ≤ 0o377 then return .code code else malformed
    else if c.isAlphanum then malformed
    else return .code (Text.codePoint c)

/-- One end of a range, or a member of a set. -/
def setMember (mode : Mode) : Token → Step SetItem
  | .plain c => return .code (Text.codePoint c)
  | .escaped c => setEscape mode c
  | .hanging => malformed

/-- The members of a set up to its closing bracket; a bracket in the first place is a member. -/
def setMembers (mode : Mode) : Nat → List SetItem → Step (List SetItem)
  | 0, _ => malformed
  | fuel + 1, done => do
    let token ← next
    if token = .plain ']' && !done.isEmpty then return done.reverse
    let low ← setMember mode token
    if ← accept '-' then
      let token ← next
      if token = .plain ']' then return (.code 45 :: low :: done).reverse
      let high ← setMember mode token
      match low, high with
      | .code first, .code last =>
        if first ≤ last then setMembers mode fuel (.range first last :: done) else malformed
      | _, _ => malformed
    else setMembers mode fuel (low :: done)

/-- A set after its opening bracket. -/
def charSet (mode : Mode) : Step Atom := do
  let complement ← accept '^'
  return .ofSet (← setMembers mode ((← get).ahead.length + 1) []) complement

/-- The number that a repetition counts by. -/
def countOf (digits : List Char) : Step Nat := do
  if 4300 < digits.length then throw .tooManyDigits
  let count := numeral 10 digits
  if Nat.pow 2 32 - 1 ≤ count then throw .tooLarge else return count

/-- The bounds of a repetition in braces; nothing when the braces hold something else, which are
then ordinary characters. -/
def bounds? : Step (Option (Nat × Option Nat)) := do
  let before ← get
  if before.ahead.head? = some (.plain '\x7d') then return none
  let low ← takeAll Char.isDigit
  let high ← if ← accept ',' then takeAll Char.isDigit else pure low
  if ← accept '\x7d' then
    let least ← countOf low
    if high.isEmpty then return some (least, none)
    let most ← countOf high
    if most < least then malformed else return some (least, some most)
  else
    set before
    return none

/-- Opens the next group, under a name if it has one. -/
def openGroup (name : Option String) : Step Nat := do
  let progress ← get
  let number := progress.groups + 1
  let names ← match name with
    | some name =>
      if progress.names.any (·.1 == name) then malformed
      else pure ((name, number) :: progress.names)
    | none => pure progress.names
  set { progress with groups := number, opened := number :: progress.opened, names }
  return number

/-- The width of a group, which is unknown while it has not been closed. -/
def Progress.groupWidth (progress : Progress) (number : Nat) : Nat × Option Nat :=
  match progress.widths.find? (·.1 == number) with
  | some (_, width) => width
  | none => (0, none)

/-- Closes a group. -/
def closeGroup (number : Nat) (body : Pattern) : Step Pattern := do
  let progress ← get
  set { progress with
    opened := progress.opened.filter (· != number)
    widths := (number, body.widths progress.groupWidth) :: progress.widths }
  return .group number body

/-- Notes that what has been read cannot be put together in the end. -/
def noteFlaw : Step Unit := modify fun progress => { progress with flawed := true }

/-- A condition on what came before has to ask for a fixed number of characters. -/
def lookBehind (readBody : Step Pattern) (wanted : Bool) : Step Pattern := do
  let outer := (← get).groupsBefore
  modify fun progress => { progress with groupsBefore := some (outer.getD progress.groups) }
  let body ← readBody
  modify fun progress => { progress with groupsBefore := outer }
  let (least, most) := body.widths (← get).groupWidth
  if most ≠ some least ∨ Nat.pow 2 32 ≤ least then noteFlaw
  return .behind body least wanted

/-- The mark after a repetition that says in which manner it is tried. -/
def manner : Step Manner := do
  if ← accept '?' then return .reluctant
  if ← accept '+' then return .possessive
  return .greedy

/-- A repetition of the last piece, with a mark for its manner.  The pieces stand in reverse order.
-/
def repeatLast (mode : Mode) (done : List Piece) (least : Nat) (most : Option Nat) :
    Step (List Piece) := do
  match done with
  | piece :: before =>
    if !piece.isRepeatable then malformed
    let manner ← manner
    if (← get).letters.contains 't' then noteFlaw
    let body := sequence mode piece.items
    return .one (.repetition (.repeated body least most manner)) :: before
  | [] => malformed

/-- The letters that switch modes. -/
def isModeLetter (c : Char) : Bool := ['a', 'i', 'm', 's', 't', 'u', 'x'].contains c

/-- What the letters after a question mark ask for: modes for all of the text, or modes switched on
and off for a group. -/
inductive Switching where
  | wholeText (on : List Char)
  | group (on off : List Char)

/-- The modes that a group switches off, after a dash. -/
def switchedOff (on : List Char) : Step Switching := do
  let off ← takeAll isModeLetter
  expect ':'
  if off.isEmpty || off.any (fun c => c == 'a' || c == 'u' || c == 't' || on.contains c) then
    malformed
  return .group on off

/-- Letters that switch modes, the first of which has been passed. -/
def switching (first : Char) : Step Switching := do
  if first = '-' then switchedOff []
  else if isModeLetter first then
    let on := first :: (← takeAll isModeLetter)
    if on.contains 'a' && on.contains 'u' then malformed
    match ← nextChar with
    | ')' => return .wholeText on
    | ':' => if on.contains 't' then malformed else return .group on []
    | '-' => if on.contains 't' then malformed else switchedOff on
    | _ => malformed
  else malformed

/-- The group that a condition asks for, by its name or its number, which may be one that comes
later. -/
def conditionGroup (name : List Char) : Step Nat := do
  if Text.isIdentifier name then
    let names := (← get).names
    match names.find? (·.1 == String.ofList name) with
    | some (_, number) => return number
    | none => malformed
  else
    match Text.integer? name with
    | some (.ofNat (number + 1)) =>
      modify fun progress => { progress with asked := max progress.asked (number + 1) }
      return number + 1
    | _ => malformed

/-- Passes a comment up to the end of its line. -/
def skipLine : Step Unit := do
  let rest := (← get).ahead.dropWhile (· ≠ .plain '\n')
  if (← get).ahead.contains .hanging && rest.isEmpty then malformed
  proceed (rest.drop 1)

/-- Whether a character stands for nothing where white space does. -/
def isSpacing (c : Char) : Bool := c == ' ' || (9 ≤ c.toNat && c.toNat ≤ 13)

/-- How deeply alternatives and sequences can be nested. -/
def depthLimit : Nat := 986

/-- What stands in brackets that begin with a question mark: a piece, a comment that stands for
nothing, or letters that switch modes for all of the text. -/
inductive Special where
  | piece (piece : Piece)
  | nothing
  | letters (on : List Char)

mutual

/-- Alternatives separated by bars, up to a closing bracket or the end.  At the top, modes for all
of the text can come first. -/
def alternatives (fuel depth : Nat) (mode : Mode) (top : Bool) : Step (List Item) :=
  match fuel with
  | 0 => throw .tooDeep
  | fuel + 1 => do
    let first ← items fuel (depth + 2) mode top []
    let switched := (← get).mode
    let mode := if top then switched else mode
    match ← moreAlternatives fuel depth mode with
    | [] => return first
    | others => return alternation mode first others

/-- The alternatives after the first one. -/
def moreAlternatives (fuel depth : Nat) (mode : Mode) : Step (List (List Item)) :=
  match fuel with
  | 0 => throw .tooDeep
  | fuel + 1 => do
    if ← accept '|' then
      let first ← items fuel (depth + 2) mode false []
      return first :: (← moreAlternatives fuel depth mode)
    else return []

/-- The items of a sequence; `done` are the pieces before the next one, in reverse order. -/
def items (fuel depth : Nat) (mode : Mode) (top : Bool) (done : List Piece) : Step (List Item) :=
  match fuel with
  | 0 => throw .tooDeep
  | fuel + 1 => do
    if depthLimit < depth then throw .tooDeep
    let goOn (piece : Piece) : Step (List Item) := items fuel depth mode top (piece :: done)
    let goOnWith (atom : Atom) : Step (List Item) := goOn (.one (.atom atom))
    match ← peek with
    | none => return Piece.itemsOf done.reverse
    | some (.plain '|') => return Piece.itemsOf done.reverse
    | some (.plain ')') => return Piece.itemsOf done.reverse
    | some (.escaped c) =>
      let _ ← next
      goOnWith (← escape mode c)
    | some .hanging => malformed
    | some (.plain c) =>
      let _ ← next
      if mode.spaced && isSpacing c then items fuel depth mode top done
      else if mode.spaced && c == '#' then
        skipLine
        items fuel depth mode top done
      else
        match c with
        | '[' => goOnWith (← charSet mode)
        | '*' => items fuel depth mode top (← repeatLast mode done 0 none)
        | '+' => items fuel depth mode top (← repeatLast mode done 1 none)
        | '?' => items fuel depth mode top (← repeatLast mode done 0 (some 1))
        | '\x7b' =>
          match ← bounds? with
          | some (least, most) =>
            items fuel depth mode top (← repeatLast mode done least most)
          | none => goOnWith (.literal c.toNat)
        | '.' => goOnWith .dot
        | '^' => goOnWith (.anchor (if mode.lineAnchors then .lineStart else .textStart))
        | '$' => goOnWith (.anchor (if mode.lineAnchors then .lineEnd else .lastLineEnd))
        | '(' =>
          if ← accept '?' then
            match ← special fuel depth mode (← nextChar) with
            | .piece piece => goOn piece
            | .nothing => items fuel depth mode top done
            | .letters on =>
              if !top || !done.isEmpty then malformed
              modify fun progress => { progress with letters := progress.letters ++ on }
              items fuel depth (← get).mode top done
          else
            let number ← openGroup none
            goOn (.one (.other (← closeGroup number (← closed fuel depth mode))))
        | c => goOnWith (.literal (Text.codePoint c))

/-- What stands in brackets after a question mark and one more character. -/
def special (fuel depth : Nat) (mode : Mode) (kind : Char) : Step Special :=
  match fuel with
  | 0 => throw .tooDeep
  | fuel + 1 => do
    let other (pattern : Pattern) : Step Special := return .piece (.one (.other pattern))
    match kind with
    | ':' => return .piece (.bracketed (← closedItems fuel depth mode))
    | '>' => other (.atomic (← closed fuel depth mode))
    | '#' =>
      let _ ← takeUntil ')'
      return .nothing
    | '=' => other (.ahead (← closed fuel depth mode) true)
    | '!' => other (.ahead (← closed fuel depth mode) false)
    | '<' =>
      match ← nextChar with
      | '=' => other (← lookBehind (closed fuel depth mode) true)
      | '!' => other (← lookBehind (closed fuel depth mode) false)
      | _ => malformed
    | 'P' =>
      match ← nextChar with
      | '<' =>
        let name ← takeName '>'
        if !Text.isIdentifier name then malformed
        let number ← openGroup (some (String.ofList name))
        other (← closeGroup number (← closed fuel depth mode))
      | '=' =>
        let name ← takeName ')'
        match (← get).names.find? (·.1 == String.ofList name) with
        | some (_, number) => return .piece (.one (.atom (← closedGroup number)))
        | none => malformed
      | _ => malformed
    | '(' =>
      let number ← conditionGroup (← takeName ')')
      demandBefore number
      let yes ← items fuel (depth + 1) mode false []
      let no ← if ← accept '|' then items fuel (depth + 1) mode false [] else pure []
      expect ')'
      other (.ifGroup number (sequence mode yes) (sequence mode no))
    | kind =>
      match ← switching kind with
      | .wholeText on => return .letters on
      | .group on off => other (← closed fuel depth (mode.switch on off))

/-- Alternatives and the closing bracket after them. -/
def closedItems (fuel depth : Nat) (mode : Mode) : Step (List Item) :=
  match fuel with
  | 0 => throw .tooDeep
  | fuel + 1 => do
    let items ← alternatives fuel depth mode false
    expect ')'
    return items

/-- What alternatives and the closing bracket after them stand for. -/
def closed (fuel depth : Nat) (mode : Mode) : Step Pattern :=
  match fuel with
  | 0 => throw .tooDeep
  | fuel + 1 => do return sequence mode (← closedItems fuel depth mode)

end

/-- All of a pattern.  What only shows in the end is looked at in turn: whether the modes agree,
whether something is left, whether all groups that were asked for are there, and whether all could
be put together. -/
def whole (fuel : Nat) : Step Pattern := do
  proceed (← get).ahead
  let items ← alternatives fuel 0 .plain true
  let progress ← get
  if progress.letters.contains 'a' && progress.letters.contains 'u' then throw .clashingModes
  if !progress.ahead.isEmpty || progress.groups < progress.asked || progress.flawed then malformed
  return sequence progress.mode items

/-- The pattern that a text stands for.  Every step that calls another but a few has passed a unit,
so eight times the length and a few more are enough fuel. -/
def read (text : String) : Except Flaw Pattern := do
  let ahead := Token.ofChars text.toList
  let (pattern, _) ← (whole (8 * ahead.length + 16)).run ⟨ahead, [], 0, [], [], [], none, 0, false⟩
  return pattern

end VisualNovel.Pattern
