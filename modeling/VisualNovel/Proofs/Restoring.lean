import VisualNovel.Proofs.Documents
import VisualNovel.Proofs.Files
import VisualNovel.Proofs.Mirroring
import VisualNovel.Proofs.Serving

/-! Taking a playthrough up again. A record holds the state, the playback and the background; what
it does not hold can be told from the state or is not there while nothing is being graded. So the
playthrough that is taken up from a record mirrors the one that was written to it, and goes on as
that one does. -/
namespace VisualNovel

/-- An event enters a node. -/
def Event.Enters (event : Event) : Prop :=
  (∃ answer, event.turn.outcome = .ok answer) ∧
    event.action.Arrives event.before.state event.turn.engine.state ∧
    ∃ node, event.turn.engine.node? = some node

namespace Engine

/-- The playthrough after a series of actions. -/
def after (engine : Engine) : List Action → Engine
  | [] => engine
  | action :: rest => (engine.act action).engine.after rest

/-- The events of a series of actions. -/
def eventsOf (engine : Engine) : List Action → List Event
  | [] => []
  | action :: rest => ⟨engine, action⟩ :: (engine.act action).engine.eventsOf rest

/-- One playthrough cannot be told from another one after a series of actions, of which it counts
the tickets from the beginning of the series. -/
structure Indistinguishable (original rebuilt : Engine) (actions : List Action) : Prop where
  state : (rebuilt.after (actions.map (.recount original.issued))).state =
    (original.after actions).state
  view : (rebuilt.after (actions.map (.recount original.issued))).view =
    (original.after actions).view
  playback : (rebuilt.after (actions.map (.recount original.issued))).playback =
    (original.after actions).playback
  background : (rebuilt.after (actions.map (.recount original.issued))).background =
    (original.after actions).background
  /-- The same endings are announced from the beginning of the series on. -/
  endings : (original.after actions).endings =
    original.endings ++ (rebuilt.after (actions.map (.recount original.issued))).endings
  /-- Any further action is answered in the same way or fails in the same way. -/
  outcome : ∀ action,
    ((rebuilt.after (actions.map (.recount original.issued))).act
        (action.recount original.issued)).outcome =
      ((original.after actions).act action).outcome.map (.recount original.issued)
  /-- Once a node has been entered, the same effects of it are remembered. -/
  effects : (∃ event ∈ original.eventsOf actions, event.Enters) →
    (rebuilt.after (actions.map (.recount original.issued))).effects =
      (original.after actions).effects

variable {story : Story} {engine first original mirror : Engine} {events : List Event}
  {offset : Nat} {told : List Position} {same : Prop}

/-- The same is heard of an action in both. -/
theorem cue_mirrors (mirrors : Mirrors offset told same original mirror) (action : Action) :
    mirror.cue (action.recount offset) = original.cue action := by
  cases action <;>
    simp only [cue, overture, Action.recount, mirrors.story, mirrors.playback, Playback.sfxCommand]

/-- A node has the same effects on whoever arrives in either. -/
theorem arrivalEffects_mirrors (mirrors : Mirrors offset told same original mirror)
    (action : Action) (node : Node) :
    mirror.arrivalEffects (action.recount offset) node = original.arrivalEffects action node ∧
      (mirror.prepared (action.recount offset)).playback = (original.prepared action).playback := by
  cases action <;>
    simp only [arrivalEffects, prepared, overture, cancelGrading, Action.recount, mirrors.story,
      mirrors.playback, mirrors.background, and_self]

theorem arrives_recount {action : Action} {before now : GameState} :
    (action.recount offset).Arrives before now ↔ action.Arrives before now := by
  cases action <;> exact Iff.rfl

/-- A node that is entered has the same effects in both. -/
theorem enters_same_effects (sound : Sound story original) (sound' : Sound story mirror)
    (mirrors : Mirrors offset told same original mirror) {action : Action}
    (enters : Event.Enters ⟨original, action⟩) :
    (mirror.act (action.recount offset)).engine.effects =
      (original.act action).engine.effects := by
  obtain ⟨⟨answer, came⟩, arrives, node, found⟩ := enters
  obtain ⟨outcome, met⟩ := act_alike mirrors action
  have came' : (mirror.act (action.recount offset)).outcome = .ok (answer.recount offset) := by
    rw [outcome, show (original.act action).outcome = .ok answer from came]
    rfl
  have arrives' : (action.recount offset).Arrives mirror.state
      (mirror.act (action.recount offset)).engine.state := by
    rw [arrives_recount, mirrors.state, met.state]
    exact arrives
  have found' : (mirror.act (action.recount offset)).engine.node? = some node := by
    rw [node?, met.story, met.state]
    exact found
  obtain ⟨_, entering⟩ := step_enters sound (act_step _ action) came
  obtain ⟨_, entering'⟩ := step_enters sound' (act_step _ (action.recount offset)) came'
  obtain ⟨effects, playback⟩ := arrivalEffects_mirrors mirrors action node
  rw [(entering.once arrives node found).effects, (entering'.once arrives' node found').effects,
    effects, playback, cue_mirrors mirrors]

/-- Whatever is done to both one after the other, they mirror each other. -/
theorem after_mirrors (actions : List Action) :
    ∀ {same : Prop} {original mirror : Engine}, Sound story original → Sound story mirror →
      Mirrors offset told same original mirror →
        Mirrors offset told (same ∨ ∃ event ∈ original.eventsOf actions, event.Enters)
          (original.after actions) (mirror.after (actions.map (.recount offset))) := by
  induction actions with
  | nil =>
    intro same original mirror _ _ mirrors
    exact { mirrors with effects := fun holds => mirrors.effects (by simpa [eventsOf] using holds) }
  | cons action rest ih =>
    intro same original mirror sound sound' mirrors
    -- What is remembered of an entry lasts, so the condition only has to grow with each event.
    have met := (act_alike mirrors action).mirrors
    have next : Mirrors offset told (same ∨ Event.Enters ⟨original, action⟩)
        (original.act action).engine (mirror.act (action.recount offset)).engine :=
      { met with
        effects := fun holds => holds.elim met.effects (enters_same_effects sound sound' mirrors) }
    have final := ih (step_sound sound (act_step _ action))
      (step_sound sound' (act_step _ (action.recount offset))) next
    exact { final with
      effects := fun holds => final.effects (by simpa [eventsOf, or_assoc] using holds) }

/-- A playthrough that nothing is graded in is mirrored by the one that is taken up from what can be
seen of it. -/
theorem resume_mirrors (sound : Sound story engine) (idle : engine.pending = none) :
    Mirrors engine.issued engine.endings False engine
      (resume story engine.state engine.playback engine.background) where
  story := sound.story.symm
  state := rfl
  playback := rfl
  background := rfl
  entered := sound.marked.symm
  pending := by rw [idle]; rfl
  issued := (Nat.zero_add _).symm
  endings := (List.append_nil _).symm
  effects := False.elim

/-- What is taken up in this way goes on like the original. -/
theorem resume_indistinguishable (sound : Sound story engine) (idle : engine.pending = none)
    (actions : List Action) :
    Indistinguishable engine (resume story engine.state engine.playback engine.background)
      actions := by
  have sound' : Sound story (resume story engine.state engine.playback engine.background) :=
    opening_sound .resumed
  have final := after_mirrors actions sound sound' (resume_mirrors sound idle)
  exact {
    state := final.state
    view := by
      simp only [view, final.story, final.state, final.background, final.pending_isSome]
    playback := final.playback
    background := final.background
    endings := final.endings
    outcome := fun action => (act_alike final action).outcome
    effects := fun entered => final.effects (.inr entered) }

end Engine

namespace Backend

open Engine

/-- All that can be seen of a playthrough is read back from its record. -/
theorem recordOf_reads (engine : Engine) :
    ∃ record, recordOf engine = .obj record ∧ recordedState? record = some engine.state ∧
      recordedPlayback record = .ok engine.playback ∧
      recordedBackground record = .ok engine.background := by
  obtain ⟨fields, written, read⟩ := engine.playback.ofFields_toJson
  have given : engine.playback.toJson.truthy = true := rfl
  refine ⟨_, rfl, ?_, ?_, ?_⟩
  · simp [recordedState?, Json.lookup?, snapshot, GameState.faithful engine.state,
      Schema.Checked.value?]
  · rw [written] at given
    simp only [recordedPlayback, Json.lookup?, String.reduceEq, ↓reduceIte, Option.getD_some,
      given, written, Json.demandFields, Outcome.bind_eq_ok]
    exact ⟨fields, rfl, by rw [read]; rfl⟩
  · cases seen : engine.background <;> simp [recordedBackground, Json.lookup?, Json.ofText?]

/-- Taking a playthrough up from its record cannot be noticed, whatever is done afterwards. -/
theorem restoring_goes_unnoticed {story : Story} {first engine : Engine} {events : List Event}
    {slug : String} {number : Nat} {before kept later : Backend} {document : Json}
    (opening : Opening story first) (played : Played first events engine)
    (idle : engine.pending = none) (present : before.live[number]? = some ⟨engine, true⟩)
    (persisted : Leads (persist slug number) before () kept)
    (recorded : later.storage.playthrough slug = kept.storage.playthrough slug)
    (stored : later.storage.story slug = .ok document)
    (unchanged : Story.ofJson document = .valid story) :
    ∃ number after rebuilt,
      Leads (do resetSessions; getEngine slug) later (some number) after ∧
        after.live[number]? = some ⟨rebuilt, true⟩ ∧
        ∀ actions, Indistinguishable engine rebuilt actions := by
  obtain ⟨persistedEngine, storage, there, saved, rfl⟩ := leads_persist.mp persisted
  cases present.symm.trans there
  obtain ⟨record, written, place, heard, seen⟩ := recordOf_reads engine
  have again : later.storage.playthrough slug = .ok (.obj record) := by
    rw [recorded, ← written]
    exact Storage.playthrough_save saved
  have forgotten : Leads resetSessions later () { later with sessions := .empty } :=
    leads_modify.mpr rfl
  have nobody : ({ later with sessions := .empty } : Backend).sessions.get? slug = none := rfl
  have taken := getEngine_leads nobody again stored unchanged place heard seen
  refine ⟨later.live.length, _, resume story engine.state engine.playback engine.background,
    leads_bind.mpr ⟨(), _, forgotten, taken⟩, by simp, ?_⟩
  exact resume_indistinguishable (played_sound opening played) idle

/-- A backend with one story, which is being played. -/
def shelf : Backend :=
  { fresh (some [("loop", loop.toJson .authored)]) with
    live := [⟨(begin loop .standard none).engine, true⟩] }

theorem loop_is_taken_up_unnoticed :
    Leads (persist "loop" 0) shelf () ((persist "loop" 0).run.run shelf).2 ∧
      ∃ number after rebuilt,
        Leads (do resetSessions; getEngine "loop") ((persist "loop" 0).run.run shelf).2
            (some number) after ∧
          after.live[number]? = some ⟨rebuilt, true⟩ ∧
          ∀ actions, Indistinguishable (begin loop .standard none).engine rebuilt actions := by
  have persisted : Leads (persist "loop" 0) shelf () ((persist "loop" 0).run.run shelf).2 := rfl
  have stored : ((persist "loop" 0).run.run shelf).2.storage.story "loop" =
      .ok (loop.toJson .authored) := rfl
  exact ⟨persisted, restoring_goes_unnoticed (.fresh rfl) .opened rfl rfl persisted rfl stored rfl⟩

end Backend

end VisualNovel
