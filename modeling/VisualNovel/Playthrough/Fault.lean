import VisualNovel.Pattern.Reader
import VisualNovel.Story.Document
import VisualNovel.Text.Quoted
/-!
Why an action of the player is turned down, each with its wording.
-/

namespace VisualNovel

/-- What is wrong with a text that the player has entered. -/
inductive TextRejection where
  | tooShort (least : Int)
  | tooLong (most : Int)
  | notNumber
  | notEmail
  | noMatch (message : String)
  | missing
  deriving DecidableEq

def TextRejection.message : TextRejection → String
  | tooShort least =>
    "Please enter at least " ++ toString least ++ " character" ++ (if 1 < least then "s" else "")
  | tooLong most => "Please enter " ++ toString most ++ " characters or less"
  | notNumber => "Please enter a number"
  | notEmail => "Please enter an email address"
  | noMatch message => message
  | missing => "User input is required"

/-- Why an action does not apply where the player is. -/
inductive Inapplicable where
  | notStarted
  | alreadyStarted
  | notAcknowledged (kind : NodeKind)
  | noChoices (kind : NodeKind)
  | choiceUnavailable (id : String)
  /-- a choice that is named by something else than a text, as that is shown -/
  | choiceNotText (shown : String)
  | noTextInput (kind : NodeKind)
  | notGraded (kind : NodeKind)
  deriving DecidableEq

def Inapplicable.message : Inapplicable → String
  | notStarted => "The game has not started yet"
  | alreadyStarted => "The game has already started"
  | notAcknowledged kind => "A " ++ kind.word ++ " node cannot be acknowledged"
  | noChoices kind => "A " ++ kind.word ++ " node has no choices"
  | choiceUnavailable id => "Choice " ++ Text.quoted id ++ " is not available"
  | choiceNotText shown => "Choice " ++ shown ++ " is not available"
  | noTextInput kind => "A " ++ kind.word ++ " node does not take text input"
  | notGraded kind => "A " ++ kind.word ++ " node does not take a graded response"

/-- What can keep an action from being carried out.  All but the last three are refusals of the
story; those are a pattern that asks for more than a pattern can hold, a sum or comparison with an
integer beyond the range of double precision, and a text with an integer that is too long to be
written out. -/
inductive Fault where
  | nodeNotFound (sceneId nodeId : String)
  | rejected (why : TextRejection)
  | inapplicable (why : Inapplicable)
  | gradingInProgress
  | unusablePattern (flaw : Pattern.Flaw)
  | overflow
  | unwritable
  deriving DecidableEq

def Fault.message : Fault → String
  | nodeNotFound sceneId nodeId => "Node not found: " ++ sceneId ++ "/" ++ nodeId
  | rejected why => why.message
  | inapplicable why => why.message
  | gradingInProgress => "Waiting for the current response to be graded"
  | unusablePattern flaw => flaw.message
  | overflow => "int too large to convert to float"
  | unwritable => "Exceeds the limit (4300 digits) for integer string conversion; " ++
    "use sys.set_int_max_str_digits() to increase the limit"

/-- Whether a fault is a refusal, as opposed to a failure on the way to an answer. -/
def Fault.isRefusal : Fault → Bool
  | unusablePattern _ => false
  | overflow => false
  | unwritable => false
  | _ => true

end VisualNovel
