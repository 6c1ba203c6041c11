import VisualNovel.Calls.Connection
import VisualNovel.Calls.Engine
import VisualNovel.Calls.Navigation
import VisualNovel.Calls.Playback
import VisualNovel.Calls.TextRule
import VisualNovel.Calls.Variables
import VisualNovel.Feedback.Recommender
import VisualNovel.Grading.Response
import VisualNovel.Json.Display
import VisualNovel.Json.Reader
import VisualNovel.Json.Writer
import VisualNovel.LanguageModel.Connection
import VisualNovel.Number.Decimal
import VisualNovel.Number.Shortest
import VisualNovel.Pattern.Search
import VisualNovel.Playthrough.Engine
import VisualNovel.Playthrough.Navigation
import VisualNovel.Playthrough.TextRule
import VisualNovel.Playthrough.View
import VisualNovel.Prompt.Recommendation
import VisualNovel.Schema.Scalar
import VisualNovel.Proofs.Arrivals
import VisualNovel.Proofs.GradingProtocol
import VisualNovel.Proofs.Refusals
import VisualNovel.Proofs.Restoring
import VisualNovel.Server.Serve
import VisualNovel.Server.Tools
import VisualNovel.Storage.QuietLibrary
import VisualNovel.Story.Condition
import VisualNovel.Story.Document
import VisualNovel.Story.Interpolation
import VisualNovel.Story.RainyDayCafe
import VisualNovel.Story.Shorthand
import VisualNovel.Template.Reader
import VisualNovel.Template.Render
import VisualNovel.Text.Case
import VisualNovel.Text.CodeFence
import VisualNovel.Text.Printable
import VisualNovel.Text.Slug
import VisualNovel.Text.Word
import VisualNovel.Proofs.Offers
import VisualNovel.Proofs.Ways
import VisualNovel.Proofs.Failures
import VisualNovel.Proofs.Tallies
import VisualNovel.Proofs.Slugs
import VisualNovel.Proofs.Endings
import VisualNovel.Proofs.Standings
import VisualNovel.Proofs.WriteThrough
import VisualNovel.Proofs.Scripts
import VisualNovel.Proofs.Reloading
import VisualNovel.Proofs.LateGrades
import VisualNovel.Proofs.Places
import VisualNovel.Proofs.Footprints
import VisualNovel.Proofs.Attempts
import VisualNovel.Proofs.Completions
import VisualNovel.Proofs.RoundTrips
import VisualNovel.Proofs.Renewal
import VisualNovel.Proofs.Ranges
import VisualNovel.Proofs.Showing
import VisualNovel.Proofs.SaveSlot
import VisualNovel.Proofs.Rejections
import VisualNovel.Proofs.Retries
import VisualNovel.Proofs.Sounds
import VisualNovel.Proofs.Music
import VisualNovel.Proofs.Responses
import VisualNovel.Proofs.Backgrounds
import VisualNovel.Proofs.Hearing
import VisualNovel.Proofs.Tokens
import VisualNovel.Proofs.Mutations
import VisualNovel.Proofs.Thresholds
import VisualNovel.Proofs.Forms
import VisualNovel.Proofs.Prompts
import VisualNovel.Proofs.Fences
import VisualNovel.Proofs.Titles
import VisualNovel.Proofs.Settings
import VisualNovel.Proofs.Overlays
import VisualNovel.Proofs.StandIns
import VisualNovel.Proofs.Admissions
