import VisualNovel.Playthrough.State
/-!
A summary of the responses that have been graded: how many there are of each rating.
-/

namespace VisualNovel

open Schema

structure FeedbackSummary where
  total : Nat
  good : Nat
  neutral : Nat
  bad : Nat
  entries : List FeedbackEntry
  deriving DecidableEq

namespace FeedbackSummary

/-- How many entries have a rating. -/
def count (entries : List FeedbackEntry) (rating : Rating) : Nat :=
  entries.countP fun entry => entry.rating == rating

def ofEntries (entries : List FeedbackEntry) : FeedbackSummary :=
  ⟨entries.length, count entries .good, count entries .neutral, count entries .bad, entries⟩

def toJson (style : Style) (summary : FeedbackSummary) : Json :=
  .obj [("total", .int summary.total), ("good", .int summary.good),
    ("neutral", .int summary.neutral), ("bad", .int summary.bad),
    ("entries", .arr (summary.entries.map (FeedbackEntry.toJson style)))]

/-- The counts by the words for the ratings. -/
def countsJson (summary : FeedbackSummary) : Json :=
  .obj [("good", .int summary.good), ("neutral", .int summary.neutral), ("bad", .int summary.bad)]

end FeedbackSummary

end VisualNovel
