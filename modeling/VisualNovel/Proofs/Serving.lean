import VisualNovel.Proofs.Outcomes
import VisualNovel.Server.Backend

/-! When work on a request comes to an end, and what it leaves behind. Each lemma says exactly from
which backend a piece of work leads to which value and which backend. -/
namespace VisualNovel.Backend

/-- Work that is done on a backend comes to an end with a value and leaves a backend behind. -/
def Leads {α : Type} (work : Serving α) (before : Backend) (value : α) (after : Backend) : Prop :=
  work.run.run before = (.ok value, after)

variable {α β : Type} {before after : Backend}

theorem leads_pure {value other : α} :
    Leads (pure other) before value after ↔ other = value ∧ before = after := by
  constructor
  · intro led
    cases led
    exact ⟨rfl, rfl⟩
  · rintro ⟨rfl, rfl⟩
    rfl

/-- Work in two parts leads over some backend between them. -/
theorem leads_bind {first : Serving α} {next : α → Serving β} {value : β} :
    Leads (first >>= next) before value after ↔
      ∃ middle between, Leads first before middle between ∧
        Leads (next middle) between value after := by
  unfold Leads
  rw [ExceptT.run_bind, StateT.run_bind]
  generalize first.run.run before = came
  obtain ⟨outcome, between⟩ := came
  cases outcome with
  | ok middle =>
    constructor
    · exact fun led => ⟨middle, between, rfl, led⟩
    · rintro ⟨_, _, came, led⟩
      cases came
      exact led
  | error stop =>
    constructor
    · intro led
      cases led
    · rintro ⟨_, _, came, _⟩
      cases came

theorem leads_get {value : Backend} :
    Leads get before value after ↔ before = value ∧ before = after :=
  leads_pure

theorem leads_modify {change : Backend → Backend} {value : Unit} :
    Leads (modify change) before value after ↔ change before = after := by
  constructor
  · intro led
    cases led
    rfl
  · rintro rfl
    rfl

theorem leads_demand {outcome : Except Mishap α} {value : α} :
    Leads (demand outcome) before value after ↔ outcome = .ok value ∧ before = after := by
  cases outcome with
  | ok other => simp [demand, leads_pure]
  | error why =>
    refine iff_of_false (fun led => ?_) (by simp)
    cases led

theorem leads_look {read : Storage → Except Mishap α} {value : α} :
    Leads (look read) before value after ↔ read before.storage = .ok value ∧ before = after := by
  simp only [look, leads_bind, leads_get, leads_demand]
  constructor
  · rintro ⟨_, _, ⟨rfl, rfl⟩, read, rfl⟩
    exact ⟨read, rfl⟩
  · rintro ⟨read, rfl⟩
    exact ⟨_, _, ⟨rfl, rfl⟩, read, rfl⟩

theorem leads_keep {change : Storage → Except Mishap (α × Storage)} {value : α} :
    Leads (keep change) before value after ↔
      ∃ storage, change before.storage = .ok (value, storage) ∧ after = { before with storage } := by
  simp only [keep, leads_bind, leads_get, leads_demand, leads_modify, leads_pure]
  constructor
  · rintro ⟨_, _, ⟨rfl, rfl⟩, ⟨_, storage⟩, _, ⟨changed, rfl⟩, _, _, rfl, rfl, rfl⟩
    exact ⟨storage, changed, rfl⟩
  · rintro ⟨storage, changed, rfl⟩
    exact ⟨_, _, ⟨rfl, rfl⟩, (value, storage), _, ⟨changed, rfl⟩, (), _, rfl, rfl, rfl⟩

theorem leads_engineOf {number : Nat} {engine : Engine} :
    Leads (engineOf number) before engine after ↔
      before.live[number]? = some ⟨engine, true⟩ ∧ before = after := by
  simp only [engineOf, leads_bind, leads_get]
  constructor
  · rintro ⟨_, _, ⟨rfl, rfl⟩, led⟩
    split at led
    · rename_i there
      obtain ⟨rfl, rfl⟩ := leads_pure.mp led
      exact ⟨there, rfl⟩
    · cases led
  · rintro ⟨there, rfl⟩
    refine ⟨_, _, ⟨rfl, rfl⟩, ?_⟩
    simp only [there, leads_pure, and_self]

theorem leads_expect {expects : Schema.Expects α} {document : Json} {value : α} :
    Leads (expect expects document) before value after ↔
      expects document = .valid value ∧ before = after := by
  unfold expect
  cases expects document with
  | valid other => simp [leads_pure]
  | invalid first more =>
    refine iff_of_false (fun led => ?_) (by simp)
    cases led

theorem leads_enroll {slug : String} {engine : Engine} {number : Nat} :
    Leads (enroll slug engine) before number after ↔
      number = before.live.length ∧
        after = { before with
          live := before.live ++ [⟨engine, true⟩]
          sessions := before.sessions.insert slug number } := by
  simp only [enroll, leads_bind, leads_get, leads_modify, leads_pure]
  constructor
  · rintro ⟨_, _, ⟨rfl, rfl⟩, _, _, rfl, rfl, rfl⟩
    exact ⟨rfl, rfl⟩
  · rintro ⟨rfl, rfl⟩
    exact ⟨_, _, ⟨rfl, rfl⟩, (), _, rfl, rfl, rfl⟩

/-- A playthrough that is in order is written to its record, and nothing else changes. -/
theorem leads_persist {slug : String} {number : Nat} {value : Unit} :
    Leads (persist slug number) before value after ↔
      ∃ engine storage, before.live[number]? = some ⟨engine, true⟩ ∧
        before.storage.savePlaythrough slug (recordOf engine) = .ok storage ∧
        after = { before with storage } := by
  simp only [persist, leads_bind, leads_engineOf, leads_keep, Outcome.bind_eq_ok,
    Outcome.pure_eq_ok, Prod.mk.injEq]
  constructor
  · rintro ⟨engine, _, ⟨there, rfl⟩, _, ⟨kept, saved, _, rfl⟩, rfl⟩
    exact ⟨engine, kept, there, saved, rfl⟩
  · rintro ⟨engine, kept, there, saved, rfl⟩
    exact ⟨engine, before, ⟨there, rfl⟩, kept, ⟨kept, saved, trivial, rfl⟩, rfl⟩

/-- A story whose document is in order is loaded. -/
theorem loadStory_leads {slug : String} {document : Json} {story : Story}
    (stored : before.storage.story slug = .ok document)
    (valid : Story.ofJson document = .valid story) :
    Leads (loadStory slug) before (some story) before := by
  simp only [loadStory, leads_bind, leads_look]
  refine ⟨document, before, ⟨stored, rfl⟩, ?_⟩
  cases document with
  | obj fields =>
    refine leads_bind.mpr ⟨story, before, leads_expect.mpr ⟨valid, rfl⟩, ?_⟩
    exact leads_pure.mpr ⟨rfl, rfl⟩
  | _ => cases valid

/-- A playthrough that is not in memory is taken up from its record. -/
theorem getEngine_leads {slug : String} {record : List (String × Json)} {document : Json}
    {story : Story} {state : GameState} {playback : Playback} {background : Option String}
    (forgotten : before.sessions.get? slug = none)
    (kept : before.storage.playthrough slug = .ok (.obj record))
    (stored : before.storage.story slug = .ok document)
    (valid : Story.ofJson document = .valid story)
    (place : recordedState? record = some state)
    (heard : recordedPlayback record = .ok playback)
    (seen : recordedBackground record = .ok background) :
    Leads (getEngine slug) before (some before.live.length)
      { before with
        live := before.live ++ [⟨.resume story state playback background, true⟩]
        sessions := before.sessions.insert slug before.live.length } := by
  simp only [getEngine, leads_bind, leads_get]
  refine ⟨before, before, ⟨rfl, rfl⟩, ?_⟩
  simp only [forgotten, leads_bind, leads_look]
  refine ⟨_, before, ⟨kept, rfl⟩, ?_⟩
  simp only [leads_bind]
  refine ⟨some story, before, loadStory_leads stored valid, ?_⟩
  simp only [place, leads_bind, leads_demand]
  exact ⟨playback, before, ⟨heard, rfl⟩, background, before, ⟨seen, rfl⟩, _, _,
    leads_enroll.mpr ⟨rfl, rfl⟩, leads_pure.mpr ⟨rfl, rfl⟩⟩

end VisualNovel.Backend
