import VisualNovel.Audio.Playback
import VisualNovel.Feedback.Recommender
import VisualNovel.Grading.Response
import VisualNovel.Json.Reader
import VisualNovel.Storage.Directory
/-!
What nobody is prepared for when files, settings and answers are worked with.  A mishap ends the
work on a request without an answer; what was done before it stays done.
-/

namespace VisualNovel

inductive Mishap where
  /-- a file that holds no document -/
  | unreadable (error : Json.ReadError)
  /-- something without the member or the operation that is asked of it -/
  | wrongShape
  /-- a value of a kind with which something cannot be done -/
  | wrongKind
  /-- a value of the right kind with which something cannot be done -/
  | wrongValue
  /-- an integer beyond the range of double precision -/
  | outOfRange
  /-- a place behind the end of a list -/
  | noItem
  /-- a document that does not hold what it should -/
  | invalid (first : Schema.Issue) (more : List Schema.Issue)
  /-- a setting that is no volume -/
  | volume (fault : VolumeFault)
  /-- a fault that is no refusal -/
  | fault (why : Fault)
  | grading (why : GradingFailure)
  | recommendations (why : RecommendationsFailure)
  /-- a number that cannot be written into an answer -/
  | notWritable
  /-- a path that leads to no place for a file -/
  | noPlace (why : NoPlace)
  /-- half a surrogate pair in what should be sent -/
  | unencodable
  /-- an address that is none -/
  | noAddress
  /-- a failure of a kind that connections do not have -/
  | foreign (kind : String)
  /-- a playthrough that was never started -/
  | noPlaythrough (slug : String)
  deriving DecidableEq

def Mishap.message : Mishap → String
  | unreadable error => error.message
  | noPlaythrough slug =>
    "No playthrough for story " ++ Text.quoted slug ++ " — call start_story first"
  | _ => ""

/-- The fields of a document that has to be an object. -/
def Json.demandFields : Json → Except Mishap (List (String × Json))
  | .obj fields => .ok fields
  | _ => .error .wrongShape

namespace Schema.Checked

/-- A checked value, or the mishap that it did not pass. -/
def orMishap {α : Type} : Checked α → Except Mishap α
  | valid value => .ok value
  | invalid first more => .error (.invalid first more)

end Schema.Checked

end VisualNovel
