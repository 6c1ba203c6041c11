import VisualNovel.Pattern.Search
import VisualNovel.Playthrough.Fault
/-!
What a text entered by the player has to satisfy.  White space around it is dropped first; then its
length, its kind and its pattern are looked at, in this order.
-/

namespace VisualNovel

structure TextRule where
  minLength : Int
  maxLength : Int
  pattern : Option String
  message : String
  kind : InputKind
  deriving DecidableEq

namespace TextRule

/-- Whether a text is of the form `name@host.domain`, each part free of white space and of further
at signs. -/
def isEmail (text : List Char) : Bool :=
  let name := text.takeWhile (· ≠ '@')
  match text.dropWhile (· ≠ '@') with
  | _ :: host =>
    !name.isEmpty && !host.contains '@' && !text.any Text.isBlank &&
      (host.drop 1).dropLast.contains '.'
  | [] => false

/-- Whether a text is a number that can be compared. -/
def isNumber (text : List Char) : Bool :=
  match Decimal.readTrimmed text with
  | some .nan => false
  | some _ => true
  | none => false

/-- Whether a text matches a pattern; what is no pattern is matched by everything. -/
def matchesPattern (pattern : Option String) (text : List Char) : Except Pattern.Flaw Bool :=
  match nonempty? pattern with
  | none => .ok true
  | some pattern =>
    match Pattern.read pattern with
    | .ok pattern => .ok (pattern.occursIn text)
    | .error .malformed => .ok true
    | .error flaw => .error flaw

/-- The text without white space around it, if it satisfies the rule. -/
def check (rule : TextRule) (value : String) : Except Fault String :=
  let trimmed := Text.trimChars value.toList
  let length : Int := trimmed.length
  if length < rule.minLength then .error (.rejected (.tooShort rule.minLength))
  else if rule.maxLength < length then .error (.rejected (.tooLong rule.maxLength))
  else if rule.kind = .number ∧ ¬isNumber trimmed then .error (.rejected .notNumber)
  else if rule.kind = .email ∧ ¬isEmail trimmed then .error (.rejected .notEmail)
  else
    match matchesPattern rule.pattern trimmed with
    | .ok true => .ok (String.ofList trimmed)
    | .ok false => .error (.rejected (.noMatch rule.message))
    | .error flaw => .error (.unusablePattern flaw)

/-- A rule on the length alone. -/
def lengths (minLength maxLength : Int) : TextRule :=
  ⟨minLength, maxLength, none, "Invalid input", .text⟩

/-- The rule of an input node. -/
def ofInput (config : InputConfig) : TextRule :=
  ⟨config.minLength, config.maxLength, config.validation, config.validationMessage,
    config.inputKind⟩

end TextRule

end VisualNovel
