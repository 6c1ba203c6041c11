import VisualNovel.Proofs.Documents
import VisualNovel.Proofs.Offers

/-! What loading a saved state brings back. The state comes back as it was, and so does all that the
player saw, but for a background that was only kept from an earlier node: a saved state does not
hold it, and the background is found anew from the current node alone. -/
namespace VisualNovel

namespace Story

variable {story : Story} {state : GameState} {node : Node} {pending : Bool}

/-- A node without a background that the story knows keeps the one that was there. -/
theorem resolveBackground_or (story : Story) (node : Node) (previous : Option String) :
    story.resolveBackground node previous = (story.resolveBackground node none).or previous := by
  unfold resolveBackground
  split <;> rfl

/-- The background that was there is seen in no other part of what is shown. -/
theorem nodeView_before {background : Option String} {shown : NodeView}
    (viewed : story.nodeView state background pending node = .ok shown)
    (other : Option String) :
    story.nodeView state other pending node =
      .ok { shown with background := story.resolveBackground node other } := by
  simp only [nodeView] at viewed ⊢
  cases body : node.body with
  | choice choices =>
    simp only [body, Outcome.bind_eq_ok, Outcome.pure_eq_ok] at viewed ⊢
    obtain ⟨available, offered, rfl⟩ := viewed
    exact ⟨available, offered, rfl⟩
  | _ =>
    simp only [body, Outcome.pure_eq_ok] at viewed ⊢
    subst viewed
    rfl

theorem nodeView_background {background : Option String} {shown : NodeView}
    (viewed : story.nodeView state background pending node = .ok shown) :
    shown.background = story.resolveBackground node background := by
  have again := nodeView_before viewed background
  rw [viewed, Except.ok.injEq] at again
  exact congrArg NodeView.background again

end Story

/-- A view in front of another background. -/
def View.before (view : View) (background : Option String) : View :=
  match view.screen with
  | .nameEntry _ => view
  | .node shown => { view with screen := .node { shown with background } }

namespace Engine

variable {engine other : Engine} {view : View}

/-- The background that the current node names, if the story knows it. -/
def ownBackground (engine : Engine) : Option String :=
  engine.node?.bind fun node => engine.story.resolveBackground node none

theorem ownBackground_eq {node : Node} (found : engine.node? = some node) :
    engine.ownBackground = engine.story.resolveBackground node none := by
  simp [ownBackground, found]

/-- At a node that is there, a loaded playthrough has that node's own background. -/
theorem load_background {state : GameState} {node : Node}
    (found : engine.story.node? state.currentSceneId state.currentNodeId = some node) :
    (engine.load state).background = engine.story.resolveBackground node none := by
  simp only [load, found]

/-- A node is shown in front of its own background when it has been loaded. -/
theorem load_shows {node : Node} {shown : NodeView} (same : other.story = engine.story)
    (idle : engine.pending = none) (shows : engine.Shows node shown) :
    (other.load engine.state).Shows node { shown with background := engine.ownBackground } := by
  have loaded := other.load_loaded engine.state
  have story : (other.load engine.state).story = engine.story := loaded.story.trans same
  have own : (other.load engine.state).background = engine.ownBackground := by
    rw [load_background (show other.story.node? _ _ = some node from same ▸ shows.found),
      ownBackground_eq shows.found, same]
  have kept : engine.story.resolveBackground node engine.ownBackground = engine.ownBackground := by
    rw [Story.resolveBackground_or, ownBackground_eq shows.found, Option.or_self]
  have viewed := Story.nodeView_before shows.viewed engine.ownBackground
  refine ⟨by rw [loaded.state]; exact shows.started, ?_, ?_⟩
  · rw [node?, story, loaded.state]
    exact shows.found
  · rw [story, loaded.state, loaded.pending, own, ← idle, viewed, kept]

/-- Loading a saved state, whatever has been done in the playthrough it is loaded into, brings back
the state, and all that the player saw in front of the current node's own background. So the player
sees the same again unless the background was kept from an earlier node. -/
theorem loading_brings_back (same : other.story = engine.story) (idle : engine.pending = none)
    (viewed : engine.view = .ok view) :
    ∃ now, other.loadDocument engine.snapshot = (.valid (), now) ∧ now.state = engine.state ∧
      now.view = .ok (view.before engine.ownBackground) ∧
      (now.view = engine.view ↔ engine.state.gameStarted = false ∨
        engine.ownBackground.isSome = true ∨ engine.background = none) := by
  have loaded := other.load_loaded engine.state
  refine ⟨other.load engine.state, ?_, loaded.state, ?_⟩
  · simp [loadDocument, snapshot, GameState.faithful engine.state]
  rcases view_eq_ok.mp viewed with ⟨gate, rfl⟩ | ⟨node, shown, shows, rfl⟩
  · have again : (other.load engine.state).view = engine.view := by
      simp [Engine.view, Story.view, loaded.state, loaded.story, same, gate]
    exact ⟨again.trans viewed, by simp [again, gate]⟩
  · have again : (other.load engine.state).view = .ok ⟨engine.state.position,
        .node { shown with background := engine.ownBackground },
        engine.state.showFeedbackScreen⟩ :=
      view_eq_ok.mpr (.inr ⟨node, _, load_shows same idle shows, by rw [loaded.state]⟩)
    refine ⟨again, ?_⟩
    have behind := Story.nodeView_background shows.viewed
    rw [Story.resolveBackground_or, ← ownBackground_eq shows.found] at behind
    have shownAgain : { shown with background := engine.ownBackground } = shown ↔
        engine.ownBackground = shown.background :=
      ⟨congrArg NodeView.background, fun same => by rw [same]⟩
    simp only [again, viewed, shows.started, Except.ok.injEq, View.mk.injEq, Screen.node.injEq,
      true_and, and_true, shownAgain, behind, Bool.true_eq_false, false_or]
    cases engine.ownBackground with
    | none => simp [eq_comm]
    | some own => simp

/-- A story in which one goes from the hall, which is pictured, into a nook, which is not. -/
def house : Story :=
  { Story.lone (.bare "hall" .narration) with
    backgrounds := [⟨"hall", "Hall", "hall.jpg"⟩]
    scenes :=
      [⟨"scene", "Scene", "hall",
        [{ Node.bare "hall" .narration with background := some "hall", nextNodeId := some "nook" },
          .bare "nook" .narration]⟩] }

/-- Someone in the hall. -/
def guest : Engine := (begin house .standard none).engine

/-- The same one in the nook. -/
def reader : Engine := (guest.act .advance).engine

theorem reader_is_loaded :
    ∃ view now, reader.view = .ok view ∧ guest.loadDocument reader.snapshot = (.valid (), now) ∧
      now.state = reader.state ∧ now.view = .ok (view.before reader.ownBackground) := by
  have same : guest.story = reader.story := rfl
  have idle : reader.pending = none := by decide +kernel
  obtain ⟨view, viewed⟩ : ∃ view, reader.view = .ok view := ⟨_, rfl⟩
  obtain ⟨now, loaded, state, seen, _⟩ := loading_brings_back same idle viewed
  exact ⟨view, now, viewed, loaded, state, seen⟩

/-- What the reader sees is not all brought back: the nook has no background of its own. -/
theorem loading_may_lose_the_background :
    ¬∀ (story : Story) (first engine first' other : Engine) (events events' : List Event)
      (view : View), Opening story first → Played first events engine → Opening story first' →
        Played first' events' other → engine.pending = none → engine.view = .ok view →
          ∃ now, other.loadDocument engine.snapshot = (.valid (), now) ∧
            now.state = engine.state ∧ now.view = engine.view := by
  intro same
  obtain ⟨now, loaded, _, seen⟩ := same house guest reader guest guest [⟨guest, .advance⟩] [] _
    (.fresh rfl) (.acted .opened .advance) (.fresh rfl) .opened (by decide +kernel) rfl
  have came : (guest.loadDocument reader.snapshot).2 = now := congrArg Prod.snd loaded
  rw [← came] at seen
  have background := congrArg
    (fun view => (view.toOption.bind (·.screen.shownNode)).bind (·.background)) seen
  exact absurd background (by decide +kernel)

end Engine

end VisualNovel
