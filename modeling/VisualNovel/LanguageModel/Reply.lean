import VisualNovel.Json.Basic
/-!
What a call of a language model can come to.
-/

namespace VisualNovel

/-- What no caller of a model is prepared for. -/
inductive Breakdown where
  /-- a completion that has no length: neither a text nor a collection -/
  | unmeasurable
  /-- a failure of a kind that connections do not have, such as an address that is none -/
  | foreign (kind : String)
  /-- an answer with too many lists and objects one inside the other -/
  | tooDeep
  deriving DecidableEq

inductive Reply where
  | text (answer : String)
  /-- a completion that is a list or an object instead of a text -/
  | document (answer : Json)
  | failed (why : String)
  | unconfigured (why : String)
  | timedOut
  | broken (breakdown : Breakdown)

/-- What a model is called for. -/
inductive Stage where
  | grading
  | recommendations
  deriving DecidableEq

def Stage.word : Stage → String
  | grading => "grading"
  | recommendations => "recommendations"

end VisualNovel
