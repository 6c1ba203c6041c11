import VisualNovel.Proofs.Restoring
import VisualNovel.Proofs.Visits

/-! Playthroughs are written through: after every visit that is answered, the record of a story
holds what its playthrough in memory holds. Every deed but one keeps it so. The exception is a playthrough
that a tool leaves unwritten because the player has come to a node that is not there: the tool
answers that it cannot show the node, and the record stays behind until the playthrough is written
again. -/
namespace VisualNovel

namespace Standing

variable {before after : Standing} {deed : Deed} {missed more : String → String → Prop}

/-- A playthrough that can be taken up from a record is as it is written there. -/
def Lasting (standing : Standing) : Prop :=
  ∀ record (engine : Engine), standing.record = .ok (.obj record) →
    Backend.recordedState? record = some engine.state →
    Backend.recordedPlayback record = .ok engine.playback →
    Backend.recordedBackground record = .ok engine.background →
    standing.record = .ok (Backend.recordOf engine)

theorem lasting_of_null (empty : before.record = .ok .null) : before.Lasting :=
  fun _ _ kept => nomatch empty.symm.trans kept

/-- What has been written is read back as it was. -/
theorem lasting_of_recordOf {engine : Engine}
    (written : before.record = .ok (Backend.recordOf engine)) : before.Lasting := by
  intro record other kept place heard seen
  obtain ⟨fields, same, place', heard', seen'⟩ := Backend.recordOf_reads engine
  rw [written, same] at kept
  cases kept
  have state : engine.state = other.state := Option.some.inj (place'.symm.trans place)
  have playback : engine.playback = other.playback := Except.ok.inj (heard'.symm.trans heard)
  have background : engine.background = other.background := Except.ok.inj (seen'.symm.trans seen)
  rw [written]
  simp only [Backend.recordOf, Engine.snapshot, state, playback, background]

/-- The record of a story holds what its playthrough holds, unless the player has come to a node
that is not there and that has been missed. -/
structure Written (missed : String → String → Prop) (standing : Standing) : Prop where
  intact : ∀ live, standing.playing = some live → live.intact = true
  record : ∀ live, standing.playing = some live →
    standing.record = .ok (Backend.recordOf live.engine) ∨
      ∃ sceneId nodeId, missed sceneId nodeId ∧ live.IsLost sceneId nodeId
  lasting : standing.Lasting

theorem Written.mono (written : before.Written missed)
    (all : ∀ sceneId nodeId, missed sceneId nodeId → more sceneId nodeId) :
    before.Written more where
  intact := written.intact
  record live there := (written.record live there).imp_right fun ⟨sceneId, nodeId, lost⟩ =>
    ⟨sceneId, nodeId, all sceneId nodeId lost.1, lost.2⟩
  lasting := written.lasting

/-- Where nobody plays there is nothing to be written. -/
theorem written_of_lasting (nobody : before.playing = none) (lasting : before.Lasting) :
    before.Written missed where
  intact _ there := nomatch nobody.symm.trans there
  record _ there := nomatch nobody.symm.trans there
  lasting := lasting

theorem written_of_vacant (vacant : before.Vacant) : before.Written missed :=
  written_of_lasting vacant.1 (lasting_of_null vacant.2)

/-- A playthrough that has just been written. -/
theorem written_of_recordOf {engine : Engine} (playing : after.playing = some ⟨engine, true⟩)
    (recorded : after.record = .ok (Backend.recordOf engine)) : after.Written missed where
  intact _ there := by
    cases playing.symm.trans there
    rfl
  record _ there := by
    cases playing.symm.trans there
    exact .inl recorded
  lasting := lasting_of_recordOf recorded

/-- Every deed keeps a record up with its playthrough, if a playthrough is left unwritten only where
a node is missed. -/
theorem step_written (step : Step before deed after) (written : before.Written missed)
    (left : ∀ now, deed = .leave now →
      ∃ sceneId nodeId, missed sceneId nodeId ∧ now.IsLost sceneId nodeId) :
    after.Written missed := by
  cases step with
  | @takenUp document record engine idle stored valid kept place heard seen =>
    exact written_of_recordOf rfl (written.lasting record engine kept place heard seen)
  | begun => exact written_of_recordOf rfl rfl
  | played => exact written_of_recordOf rfl rfl
  | @waited engine now there same =>
    refine ⟨?_, ?_, written.lasting⟩
    · rintro _ ⟨⟩
      rfl
    · rintro _ ⟨⟩
      refine (written.record _ there).imp (fun recorded => ?_) ?_
      · rw [same.recordOf]
        exact recorded
      · rintro ⟨sceneId, nodeId, missing, _, lost⟩
        refine ⟨sceneId, nodeId, missing, rfl, ?_⟩
        rw [Engine.view_missing_iff] at lost ⊢
        rw [same.story, same.state]
        exact lost
  | left there story =>
    obtain ⟨sceneId, nodeId, missing, lost⟩ := left _ rfl
    refine ⟨?_, ?_, written.lasting⟩
    · rintro _ ⟨⟩
      exact lost.1
    · rintro _ ⟨⟩
      exact .inr ⟨sceneId, nodeId, missing, lost⟩
  | uploaded => exact written_of_vacant ⟨rfl, rfl⟩
  | removed => exact written_of_vacant ⟨rfl, rfl⟩

theorem Reaches.written {allowed : Deed → Prop} (reaches : Reaches allowed before after)
    (left : ∀ now, allowed (.leave now) →
      ∃ sceneId nodeId, missed sceneId nodeId ∧ now.IsLost sceneId nodeId)
    (written : before.Written missed) : after.Written missed :=
  reaches.keeps
    (fun may step written => step_written step written fun now same => left now (same ▸ may)) written

end Standing

namespace Backend

variable {before after first last : Backend} {visit : Visit} {visits : List Visit} {slug : String}

/-- A node that is not there has been missed by one of some visits to a story. -/
def Missed (visits : List Visit) (slug sceneId nodeId : String) : Prop :=
  ∃ visit ∈ visits, visit.Misses slug sceneId nodeId

/-- A visit that is answered leaves a record behind only when it misses a node. -/
theorem visited_written {missed : String → String → Prop} (visited : Visited before visit after)
    (ordered : Ordered before) (plain : visit.IsPlain) (answered : visit.Answered)
    (plain' : IsPlain slug) (written : (before.standing slug).Written missed)
    (misses : ∀ sceneId nodeId, visit.Misses slug sceneId nodeId → missed sceneId nodeId) :
    (after.standing slug).Written missed := by
  have reaches := (visited_changes visited ordered plain).1.moves slug plain'
  refine reaches.written (fun now may => ?_) written
  rcases may with unanswered | ⟨sceneId, nodeId, missing, lost⟩
  · exact absurd answered unanswered
  · exact ⟨sceneId, nodeId, misses sceneId nodeId missing, lost⟩

/-- A series of answered visits keeps all records up with their playthroughs, but for the nodes that
have been missed. -/
theorem series_written (idle : ∀ slug, first.sessions.get? slug = none)
    (lasting : ∀ slug, IsPlain slug → (first.standing slug).Lasting)
    (series : Series first visits last) (plain : ∀ visit ∈ visits, visit.IsPlain)
    (answered : ∀ visit ∈ visits, visit.Answered) (plain' : IsPlain slug) :
    (last.standing slug).Written (Missed visits slug) := by
  induction series with
  | none => exact Standing.written_of_lasting (playing_of_idle idle slug) (lasting slug plain')
  | @next visits visit before after earlier visited ih =>
    have plain₀ : ∀ visit ∈ visits, visit.IsPlain := fun _ among =>
      plain _ (List.mem_append_left _ among)
    have written := ih plain₀ fun _ among => answered _ (List.mem_append_left _ among)
    have ordered := earlier.ordered (ordered_of_idle idle) plain₀
    refine visited_written visited ordered (plain visit (by simp)) (answered visit (by simp)) plain'
      (written.mono fun _ _ missed => ?_) fun _ _ missing => ⟨visit, by simp, missing⟩
    obtain ⟨other, among, missing⟩ := missed
    exact ⟨other, List.mem_append_left _ among, missing⟩

/-- The record of a playthrough that is kept up with, as it can be read from the backend. -/
theorem Ordered.recorded {missed : String → String → Prop} (ordered : Ordered last)
    (written : (last.standing slug).Written missed) {number : Nat}
    (holds : last.sessions.get? slug = some number) :
    ∃ engine, last.live[number]? = some ⟨engine, true⟩ ∧
      (last.storage.playthrough slug = .ok (recordOf engine) ∨
        ∃ sceneId nodeId, engine.view = .error (.nodeNotFound sceneId nodeId) ∧
          missed sceneId nodeId) := by
  obtain ⟨live, there⟩ := ordered.playing holds
  have playing : (last.standing slug).playing = some live := (playing_eq holds).trans there
  obtain ⟨engine, intact⟩ := live
  cases (written.intact _ playing : intact = true)
  refine ⟨engine, there, (written.record _ playing).imp_right ?_⟩
  rintro ⟨sceneId, nodeId, missed, _, nowhere⟩
  exact ⟨sceneId, nodeId, nowhere, missed⟩

/-- After any series of answered visits to a backend that has just been started, the record of every
story that is being played holds the state, the playback and the background of its playthrough.
The one way to be without is to come to a node that is not there by a tool, which says so. -/
theorem playthroughs_are_written_through (idle : ∀ slug, first.sessions.get? slug = none)
    (lasting : ∀ slug, IsPlain slug → (first.standing slug).Lasting)
    (series : Series first visits last) (plain : ∀ visit ∈ visits, visit.IsPlain)
    (answered : ∀ visit ∈ visits, visit.Answered) (plain' : IsPlain slug) {number : Nat}
    (holds : last.sessions.get? slug = some number) :
    ∃ engine, last.live[number]? = some ⟨engine, true⟩ ∧
      (last.storage.playthrough slug = .ok (recordOf engine) ∨
        ∃ sceneId nodeId, engine.view = .error (.nodeNotFound sceneId nodeId) ∧
          Missed visits slug sceneId nodeId) := by
  have written := series_written idle lasting series plain answered plain'
  exact (series.ordered (ordered_of_idle idle) plain).recorded written holds

/-- Where nothing has been kept yet there is nothing to take up. -/
theorem lasting_fresh (presets : Option (List (String × Json))) (plain : IsPlain slug) :
    ((fresh presets).standing slug).Lasting :=
  fun _ _ kept => nomatch Storage.playthrough_fresh presets plain kept

/-- A story that breaks off after its only node. -/
def bridge : Story := .lone { Node.bare "bridge" .narration with nextNodeId := some "shore" }

/-- A backend with that story alone. -/
def riverside : Backend := fresh (some [("bridge", bridge.toJson .authored)])

/-- The same backend once someone is on the bridge. -/
def crossing : Backend := ((use (.startStory "bridge" "Ann")).run.run riverside).2

/-- The same backend once the bridge has been left. -/
def stranded : Backend := ((use (.advance "bridge")).run.run crossing).2

/-- Both uses of a tool. -/
def crossed : List Visit :=
  [.tool (.startStory "bridge" "Ann") ((use (.startStory "bridge" "Ann")).run.run riverside).1,
    .tool (.advance "bridge") (.ok (complaint "Node not found: scene/shore"))]

theorem stranded_after_crossing : Series riverside crossed stranded := by
  have begun : Series riverside ([] ++ [.tool (.startStory "bridge" "Ann") _]) crossing :=
    .next .none (.used rfl)
  exact begun.next (.used rfl)

theorem crossing_is_missed :
    ∃ engine, stranded.live[0]? = some ⟨engine, true⟩ ∧
      (stranded.storage.playthrough "bridge" = .ok (recordOf engine) ∨
        ∃ sceneId nodeId, engine.view = .error (.nodeNotFound sceneId nodeId) ∧
          Missed crossed "bridge" sceneId nodeId) :=
  playthroughs_are_written_through (fun _ => rfl) (fun _ plain => lasting_fresh _ plain)
    stranded_after_crossing (by decide) (by decide +kernel) (by decide) rfl

/-- The node that a record was written at. -/
def recordedNode? : Except Mishap Json → Option String
  | .ok (.obj record) => (recordedState? record).map (·.currentNodeId)
  | _ => none

theorem recordedNode?_recordOf (engine : Engine) :
    recordedNode? (.ok (recordOf engine)) = some engine.state.currentNodeId := by
  obtain ⟨fields, same, place, _⟩ := recordOf_reads engine
  simp [recordedNode?, same, place]

/-- Whoever is stranded is recorded on the bridge. -/
theorem answered_visits_may_go_unwritten :
    ¬∀ (first last : Backend) (visits : List Visit) (slug : String) (number : Nat),
      (∀ slug, first.sessions.get? slug = none) →
        (∀ slug, IsPlain slug → (first.standing slug).Lasting) → Series first visits last →
          (∀ visit ∈ visits, visit.IsPlain) → (∀ visit ∈ visits, visit.Answered) →
            IsPlain slug → last.sessions.get? slug = some number →
              ∃ engine, last.live[number]? = some ⟨engine, true⟩ ∧
                last.storage.playthrough slug = .ok (recordOf engine) := by
  intro written
  obtain ⟨engine, there, recorded⟩ := written riverside stranded crossed "bridge" 0 (fun _ => rfl)
    (fun _ plain => lasting_fresh _ plain) stranded_after_crossing (by decide) (by decide +kernel)
    (by decide) rfl
  have moved : (stranded.live[0]?).map (·.engine.state.currentNodeId) = some "shore" := by
    decide +kernel
  have behind : recordedNode? (stranded.storage.playthrough "bridge") = some "bridge" := by
    decide +kernel
  rw [there, Option.map_some] at moved
  rw [recorded, recordedNode?_recordOf, moved] at behind
  exact absurd behind (by decide)

end Backend

end VisualNovel
