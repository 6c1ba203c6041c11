import VisualNovel.Story.Document
/-!
The state of a playthrough: where the player is, by which way, and what has been gathered.
-/

namespace VisualNovel

open Schema

/-- A scene and a node in it, which need not exist. -/
structure Position where
  sceneId : String
  nodeId : String
  deriving DecidableEq

/-- A node that has been left, with the choice by which it was left. -/
structure HistoryEntry where
  sceneId : String
  nodeId : String
  choiceId : Option String
  deriving DecidableEq

/-- A graded response. -/
structure FeedbackEntry where
  nodeId : String
  sceneId : String
  userInput : String
  evaluation : String
  rating : Rating
  context : String
  deriving DecidableEq

structure GameState where
  currentSceneId : String
  currentNodeId : String
  vars : Variables
  history : List HistoryEntry
  userName : String
  gameStarted : Bool
  feedback : List FeedbackEntry
  showFeedbackScreen : Bool
  deriving DecidableEq

/-- What a grader makes of a response; an error marks the fallback. -/
structure GradingResult where
  characterResponse : String
  emotion : String
  evaluation : String
  rating : Rating
  attempts : Int
  userInput : String
  raw : String
  error : Option String
  deriving DecidableEq

def GameState.position (state : GameState) : Position := ⟨state.currentSceneId, state.currentNodeId⟩

def Position.toJson (position : Position) : Json :=
  .arr [.str position.sceneId, .str position.nodeId]

def HistoryEntry.ofJson : Expects HistoryEntry := model fun o =>
  HistoryEntry.mk <$> field o .sceneId textual
    <*> field o .nodeId textual
    <*> fieldOr o .choiceId (nullable textual) none

def HistoryEntry.toJson (style : Style) (e : HistoryEntry) : Json := style.object
  [(.sceneId, .str e.sceneId), (.nodeId, .str e.nodeId), (.choiceId, .ofText? e.choiceId)]

def FeedbackEntry.ofJson : Expects FeedbackEntry := model fun o =>
  FeedbackEntry.mk <$> field o .nodeId textual
    <*> field o .sceneId textual
    <*> field o .userInput textual
    <*> field o .evaluation textual
    <*> field o .rating (among Rating.ofWord?)
    <*> field o .context textual

def FeedbackEntry.toJson (style : Style) (e : FeedbackEntry) : Json := style.object
  [(.nodeId, .str e.nodeId), (.sceneId, .str e.sceneId), (.userInput, .str e.userInput),
   (.evaluation, .str e.evaluation), (.rating, .str e.rating.word), (.context, .str e.context)]

def GameState.ofJson : Expects GameState := model fun o =>
  GameState.mk <$> field o .currentSceneId textual
    <*> field o .currentNodeId textual
    <*> fieldOr o .vars (named scalar) .empty
    <*> fieldOr o .history (list HistoryEntry.ofJson) []
    <*> fieldOr o .userName textual ""
    <*> fieldOr o .gameStarted boolean false
    <*> fieldOr o .feedback (list FeedbackEntry.ofJson) []
    <*> fieldOr o .showFeedbackScreen boolean false

def GameState.toJson (style : Style) (s : GameState) : Json := style.object
  [(.currentSceneId, .str s.currentSceneId), (.currentNodeId, .str s.currentNodeId),
   (.vars, ofNamed Value.toJson s.vars),
   (.history, .arr (s.history.map (HistoryEntry.toJson style))), (.userName, .str s.userName),
   (.gameStarted, .bool s.gameStarted),
   (.feedback, .arr (s.feedback.map (FeedbackEntry.toJson style))),
   (.showFeedbackScreen, .bool s.showFeedbackScreen)]

def GradingResult.ofJson : Expects GradingResult := model fun o =>
  GradingResult.mk <$> field o .characterResponse textual
    <*> field o .emotion textual
    <*> field o .evaluation textual
    <*> field o .rating (among Rating.ofWord?)
    <*> field o .attempts integer
    <*> fieldOr o .userInput textual ""
    <*> fieldOr o .raw textual ""
    <*> fieldOr o .error (nullable textual) none

def GradingResult.toJson (style : Style) (r : GradingResult) : Json := style.object
  [(.characterResponse, .str r.characterResponse), (.emotion, .str r.emotion),
   (.evaluation, .str r.evaluation), (.rating, .str r.rating.word), (.attempts, .int r.attempts),
   (.userInput, .str r.userInput), (.raw, .str r.raw), (.error, .ofText? r.error)]

end VisualNovel
