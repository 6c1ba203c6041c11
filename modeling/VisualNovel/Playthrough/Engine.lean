import VisualNovel.Playthrough.View
/-!
A playthrough in progress.  Every action computes the whole next state first and then swaps it in;
arriving at a node has its effects once per arrival, told by the position and the length of the
history.  While a response is being graded the player cannot act, and a grade counts only for the
request that is still waiting for it.
-/

namespace VisualNovel

/-- An arrival at a position; coming back to it later is another arrival. -/
structure Arrival where
  sceneId : String
  nodeId : String
  historyLength : Nat
  deriving DecidableEq

/-- A request for a grade: its number, the arrival it was made for, and the response.  Requests are
counted from the moment a playthrough is begun or taken up, so one made before that moment has a
negative number. -/
structure Ticket where
  number : Int
  arrival : Arrival
  userInput : String
  deriving DecidableEq

def Ticket.toJson (ticket : Ticket) : Json :=
  .obj [("scene_id", .str ticket.arrival.sceneId), ("node_id", .str ticket.arrival.nodeId),
    ("history_len", .int ticket.arrival.historyLength), ("user_input", .str ticket.userInput)]

def GameState.arrival (state : GameState) : Arrival :=
  ⟨state.currentSceneId, state.currentNodeId, state.history.length⟩

structure Engine where
  story : Story
  state : GameState
  playback : Playback
  background : Option String
  /-- What the last arrival changed. -/
  effects : EntryEffects
  pending : Option Ticket
  /-- How many tickets have been handed out. -/
  issued : Nat
  /-- The arrival whose effects have taken place. -/
  entered : Option Arrival
  /-- Where an ending has been announced so far. -/
  endings : List Position
  deriving DecidableEq

/-- What an action comes to, and the engine afterwards. -/
structure Turn (α : Type) where
  outcome : Except Fault α
  engine : Engine

namespace Turn

/-- Changes the engine if the action has come to its end. -/
def andThen {α : Type} (turn : Turn α) (change : Engine → Engine) : Turn α :=
  match turn.outcome with
  | .ok value => ⟨.ok value, change turn.engine⟩
  | .error _ => turn

/-- Puts another value in place of the outcome. -/
def as {α β : Type} (turn : Turn α) (value : β) : Turn β :=
  ⟨turn.outcome.map fun _ => value, turn.engine⟩

end Turn

namespace Engine

def done (engine : Engine) : Turn Unit := ⟨.ok (), engine⟩

/-- Turns an action down; nothing has changed. -/
def refuse {α : Type} (engine : Engine) (fault : Fault) : Turn α := ⟨.error fault, engine⟩

/-- The effects of the current node, unless they have taken place.  At a node that does not exist
there are none.  If a sum goes beyond the range the variables stay as they are, but the node's music
has been asked for. -/
def enter (engine : Engine) : Turn Unit :=
  if !engine.state.gameStarted || engine.entered == some engine.state.arrival then engine.done
  else
    let arrived := { engine with entered := some engine.state.arrival }
    match engine.story.currentNode engine.state with
    | .error _ => { arrived with effects := .still engine.background }.done
    | .ok node =>
      let (playback, effects) := engine.story.entryEffects node engine.playback engine.background
      match Story.applyEntry node engine.state with
      | .error fault => ⟨.error fault, { arrived with playback }⟩
      | .ok state =>
        { arrived with
          state, playback, effects
          background := effects.background
          endings := if effects.gameEnded then engine.endings ++ [state.position]
            else engine.endings }.done

/-- Swaps in the next state and enters its node. -/
def commit (engine : Engine) (state : GameState) : Turn Unit := enter { engine with state }

/-- Commits the state that a step leads to. -/
def commitResult (engine : Engine) (next : Except Fault GameState) : Turn Unit :=
  match next with
  | .ok state => engine.commit state
  | .error fault => engine.refuse fault

/-- Puts commands before those of the last arrival. -/
def prependAudio (commands : List AudioCommand) (engine : Engine) : Engine :=
  { engine with effects := { engine.effects with audio := commands ++ engine.effects.audio } }

/-- An engine at the beginning of a story, before its first node is entered. -/
def initial (story : Story) (playback : Playback) (background : Option String) : Engine where
  story
  state := story.newGame
  playback
  background
  effects := .still background
  pending := none
  issued := 0
  entered := none
  endings := []

/-- A new game. -/
def begin (story : Story) (playback : Playback) (background : Option String) : Turn Unit :=
  (initial story playback background).enter

/-- The arrival whose effects a stored state already shows; at the gate there is none. -/
def enteredBy (state : GameState) : Option Arrival :=
  if state.gameStarted then some state.arrival else none

/-- A playthrough taken up again. -/
def resume (story : Story) (state : GameState) (playback : Playback) (background : Option String) :
    Engine :=
  { initial story playback background with state, entered := enteredBy state }

/-- Where the player is. -/
def position (engine : Engine) : Position := engine.state.position

/-- What the player sees. -/
def view (engine : Engine) : Except Fault View :=
  engine.story.view engine.state engine.background engine.pending.isSome

/-- The state as it is saved. -/
def snapshot (engine : Engine) : Json := engine.state.toJson .authored

/-- Starts the game under a name; the story's own music is heard before that of the first node. -/
def start (engine : Engine) (name : String) : Turn Unit :=
  if engine.state.gameStarted then engine.refuse (.inapplicable .alreadyStarted)
  else
    match engine.story.startGame engine.state name with
    | .error fault => engine.refuse fault
    | .ok state =>
      let (playback, command) :=
        match nonempty? engine.story.settings.defaultBgm with
        | some src => engine.playback.playBgm (.str src) (.bool true)
        | none => (engine.playback, none)
      ({ engine with playback }.commit state).andThen (prependAudio command.toList)

/-- Carries out an action unless a response is being graded. -/
def whenIdle {α : Type} (engine : Engine) (action : Turn α) : Turn α :=
  if engine.pending.isSome then engine.refuse .gradingInProgress else action

/-- Goes on from a node that asks for nothing. -/
def advance (engine : Engine) : Turn Unit :=
  engine.whenIdle (engine.commitResult (engine.story.acknowledge engine.state))

/-- Takes a choice; it clicks before anything else is heard. -/
def choose (engine : Engine) (choiceId : String) : Turn Unit :=
  engine.whenIdle <|
    (engine.commitResult (engine.story.selectChoice engine.state choiceId)).andThen fun engine =>
      match nonempty? engine.story.settings.clickSfx with
      | some src => engine.prependAudio [engine.playback.sfxCommand (.str src)]
      | none => engine

/-- Enters a text. -/
def submit (engine : Engine) (value : String) : Turn Unit :=
  engine.whenIdle (engine.commitResult (engine.story.submitInput engine.state value))

/-- Hands out a ticket for a response to be graded. -/
def beginGrading (engine : Engine) (value : String) : Turn Ticket :=
  engine.whenIdle <|
    match engine.story.validateResponse engine.state value with
    | .error fault => engine.refuse fault
    | .ok (_, _, userInput) =>
      let ticket : Ticket := ⟨engine.issued, engine.state.arrival, userInput⟩
      ⟨.ok ticket, { engine with pending := some ticket, issued := engine.issued + 1 }⟩

/-- Takes in a grade.  It is discarded unless its ticket is the pending one and the player is still
where the ticket was handed out; the pending ticket is used up either way. -/
def finishGrading (engine : Engine) (ticket : Ticket) (result : GradingResult) : Turn Bool :=
  if engine.pending ≠ some ticket then ⟨.ok false, engine⟩
  else
    let idle := { engine with pending := none }
    if ticket.arrival ≠ engine.state.arrival then ⟨.ok false, idle⟩
    else
      (idle.commitResult
        (engine.story.applyGrading engine.state ticket.userInput result)).as true

/-- Gives up waiting for a grade. -/
def cancelGrading (engine : Engine) : Engine := { engine with pending := none }

/-- Gives up waiting for the grade of one ticket. -/
def withdraw (engine : Engine) (ticket : Ticket) : Engine :=
  if engine.pending = some ticket then engine.cancelGrading else engine

def showFeedback (engine : Engine) (visible : Bool) : Engine :=
  { engine with state := { engine.state with showFeedbackScreen := visible } }

/-- Begins again from the start of the story.  Volumes stay, music does not. -/
def restart (engine : Engine) : Turn Unit :=
  let (playback, stop) := engine.playback.stop
  let fresh := { engine with
    pending := none, playback, background := none, entered := none
    state := engine.story.newGame, effects := EntryEffects.still none }
  fresh.enter.andThen (prependAudio stop.toList)

/-- Puts another state in place.  Its node's variables count as changed already, but its background
and its music come back. -/
def load (engine : Engine) (state : GameState) : Engine :=
  let loaded := { engine with pending := none, state, entered := enteredBy state }
  match engine.story.node? state.currentSceneId state.currentNodeId with
  | none => loaded
  | some node =>
    let (playback, command) := engine.playback.play node.audio
    let background := engine.story.resolveBackground node none
    { loaded with
      playback, background
      effects :=
        { background, backgroundChanged := true, transition := node.transition
          audio := command.toList, gameEnded := node.body.kind == .ending } }

/-- Puts the state in place that a document stands for, if it stands for one. -/
def loadDocument (engine : Engine) (document : Json) : Schema.Checked Unit × Engine :=
  match GameState.ofJson document with
  | .valid state => (.valid (), engine.load state)
  | .invalid first more => (.invalid first more, engine)

end Engine

end VisualNovel
