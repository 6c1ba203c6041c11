import VisualNovel.Proofs.Statuses
import VisualNovel.Proofs.Standings

/-! What would be shown of a story if it were asked for, told from what is kept and from what is in
memory. Taking a playthrough up from its record, and counting the tickets that have been handed out,
is not to be seen in it. -/
namespace VisualNovel

/-- How a fault ends the work on a request. -/
def Fault.stop : Fault → Stop
  | .rejected why => .refused 422 why.message
  | .nodeNotFound sceneId nodeId =>
    .refused 409 ("Cannot continue: " ++ (Fault.nodeNotFound sceneId nodeId).message)
  | fault => if fault.isRefusal then .refused 409 fault.message else .mishap (.fault fault)

namespace Backend

variable {α : Type} {before between after : Backend} {slug : String} {number : Nat}
  {engine : Engine} {storage : Storage}

theorem ends_settle {outcome : Except Fault α} {done : α → Backend → Prop}
    {stopped : Stop → Backend → Prop} : Ends (settle outcome) before done stopped ↔
      match outcome with
      | .ok value => done value before
      | .error fault => stopped fault.stop before := by
  cases outcome with
  | ok value => exact Iff.rfl
  | error fault => cases fault <;> exact Iff.rfl

/-! ## What would be shown -/

/-- What asking for the current playthrough of a story would be answered with. -/
def watched (backend : Backend) (slug : String) : Except Stop Json :=
  ((watch slug).run.run backend).1

/-- The story of a slug, as it is kept. -/
def scripted (storage : Storage) (slug : String) : Except Stop (Option Story) := do
  match ← (storage.story slug).mapError .mishap with
  | .null => .ok none
  | document =>
    match Story.ofJson document with
    | .valid story => .ok (some story)
    | .invalid first more => .error (.mishap (.invalid first more))

/-- The playthrough that a record stands for. -/
def recorded (story : Story) : Json → Except Stop (Option Engine)
  | .obj record =>
    match recordedState? record with
    | none => .ok none
    | some state => do
      let playback ← (recordedPlayback record).mapError .mishap
      let background ← (recordedBackground record).mapError .mishap
      .ok (some (.resume story state playback background))
  | _ => .error (.mishap .wrongKind)

/-- The playthrough that can be taken up from the record of a story. -/
def revived (storage : Storage) (slug : String) : Except Stop (Option Engine) := do
  match ← (storage.playthrough slug).mapError .mishap with
  | .null => .ok none
  | record =>
    match ← scripted storage slug with
    | none => .ok none
    | some story => recorded story record

/-- What showing a playthrough comes to. -/
def showing (storage : Storage) (slug : String) : Option Live → Except Stop Json
  | some ⟨engine, true⟩ => do
    let _ ← (storage.savePlaythrough slug (recordOf engine)).mapError .mishap
    return .obj (shown engine (← engine.view.mapError Fault.stop))
  | _ => .error (.mishap .wrongShape)

/-- What showing a story comes to that is there, given its playthrough in memory. -/
def seen (storage : Storage) (slug : String) : Option (Option Live) → Except Stop Json
  | some live => showing storage slug live
  | none => do
    match ← revived storage slug with
    | some engine => showing storage slug (some ⟨engine, true⟩)
    | none => .error (.refused 404 notStarted)

/-- What showing a story comes to, given its playthrough in memory. -/
def glance (storage : Storage) (slug : String) (current : Option (Option Live)) :
    Except Stop Json := do
  match ← (storage.story slug).mapError .mishap with
  | .null => .error (.refused 404 storyNotFound)
  | _ => seen storage slug current

theorem glance_congr {current now : Option (Option Live)}
    (same : seen storage slug now = seen storage slug current) :
    glance storage slug now = glance storage slug current := by
  simp only [glance, same]

theorem loadStory_reads : Ends (loadStory slug) before
    (fun found after => before = after ∧ scripted before.storage slug = .ok found)
    (fun why after => before = after ∧ scripted before.storage slug = .error why) := by
  refine ends_bind.mpr (ends_look.mpr ⟨fun document stored => ?_, fun why failed => ?_⟩)
  · split
    · exact ⟨rfl, by simp [scripted, stored]⟩
    · refine ends_bind.mpr (ends_expect.mpr ⟨fun story valid => ?_, fun first more invalid => ?_⟩)
      · exact ⟨rfl, by simp [scripted, stored, valid]⟩
      · exact ⟨rfl, by simp [scripted, stored, invalid]⟩
  · exact ⟨rfl, by simp [scripted, failed]⟩

theorem scripted_eq_none : scripted storage slug = .ok none ↔ storage.story slug = .ok .null := by
  cases stored : storage.story slug with
  | error why => simp [scripted, stored]
  | ok document =>
    cases document with
    | null => simp [scripted, stored]
    | bool | int | float | str | arr | obj =>
      simp only [scripted, stored, Outcome.mapError_ok, bind, Except.bind]
      split <;> simp

/-- A playthrough is begun of every story that is there, unless there is a mishap. -/
theorem newEngine_reads : Ends (newEngine slug) before
    (fun found after => found = none → scripted before.storage slug = .ok none ∧ after = before)
    (fun why _ => why.IsMishap) := by
  refine ends_bind.mpr ((loadStory_reads.and (refusedWith_loadStory before)).mono ?_ fun _ _ stop =>
    Stop.among_nil.mp stop.2)
  rintro found _ ⟨⟨rfl, stored⟩, _⟩
  cases found with
  | none => exact fun _ => ⟨stored, rfl⟩
  | some story =>
    refine ends_bind.mpr (ends_look.mpr ⟨fun config _ => ?_, fun _ _ => trivial⟩)
    refine ends_bind.mpr (ends_demand.mpr ⟨fun playback _ => ?_, fun _ _ => trivial⟩)
    dsimp only
    split
    · exact trivial
    · refine ends_bind.mpr (ends_enroll.mpr (ends_bind.mpr ?_))
      exact (refusedWith_persist _).mono (fun _ _ _ => nofun) fun _ _ => Stop.among_nil.mp

/-- A playthrough that is not in memory is taken up as it can be told from what is kept. -/
theorem getEngine_revives (forgotten : before.sessions.get? slug = none) :
    Ends (getEngine slug) before
      (fun found after => ∃ taken, revived before.storage slug = .ok taken ∧
        found = taken.map (fun _ => before.live.length) ∧
        after = taken.elim before (before.enrolled slug))
      (fun why after => revived before.storage slug = .error why ∧ before = after) := by
  refine ends_bind.mpr (ends_get.mpr ?_)
  simp only [forgotten]
  refine ends_bind.mpr (ends_look.mpr ⟨fun record kept => ?_, fun why failed => ?_⟩)
  · cases record with
    | null => exact ⟨none, by simp [revived, kept], rfl, rfl⟩
    | obj fields =>
      refine ends_bind.mpr (loadStory_reads.mono ?_ ?_)
      · rintro found _ ⟨rfl, stored⟩
        cases found with
        | none => exact ⟨none, by simp [revived, kept, stored], rfl, rfl⟩
        | some story =>
          have revives : revived before.storage slug = recorded story (.obj fields) := by
            simp only [revived, kept, stored, Outcome.mapError_ok]
            rfl
          rw [revives]
          simp only [recorded]
          cases recordedState? fields with
          | none => exact ⟨none, rfl, rfl, rfl⟩
          | some state =>
            refine ends_bind.mpr (ends_demand.mpr ⟨fun playback heard => ?_, fun why failed => ?_⟩)
            · refine ends_bind.mpr
                (ends_demand.mpr ⟨fun background seen => ?_, fun why failed => ?_⟩)
              · exact ends_bind.mpr (ends_enroll.mpr (ends_pure.mpr
                  ⟨some _, by rw [heard, seen]; rfl, rfl, rfl⟩))
              · exact ⟨by rw [heard, failed]; rfl, rfl⟩
            · exact ⟨by rw [failed]; rfl, rfl⟩
      · rintro why _ ⟨rfl, unread⟩
        exact ⟨by simp [revived, kept, unread], rfl⟩
    | bool | int | float | str | arr =>
      refine ends_bind.mpr (loadStory_reads.mono ?_ ?_)
      · rintro found _ ⟨rfl, stored⟩
        cases found with
        | none => exact ⟨none, by simp [revived, kept, stored], rfl, rfl⟩
        | some story => exact ⟨by simp [revived, kept, stored, recorded], rfl⟩
      · rintro why _ ⟨rfl, unread⟩
        exact ⟨by simp [revived, kept, unread], rfl⟩
  · exact ⟨by simp [revived, failed], rfl⟩

/-- The answer is that of the work, whatever is left behind. -/
theorem ends_outcome {work : Serving α} {outcome : Except Stop α}
    (ends : Ends work before (fun value _ => outcome = .ok value)
      (fun why _ => outcome = .error why)) : (work.run.run before).1 = outcome := by
  unfold Ends at ends
  generalize work.run.run before = came at ends ⊢
  obtain ⟨result, after⟩ := came
  cases result <;> exact ends.symm

theorem presented_shows : Ends (presented slug number) before
    (fun value _ => showing before.storage slug before.live[number]? = .ok value)
    (fun why _ => showing before.storage slug before.live[number]? = .error why) := by
  refine ends_map.mpr (ends_bind.mpr (ends_bind.mpr (ends_engineOf.mpr
    ⟨fun engine there => ?_, fun nobody => ?_⟩)))
  · refine ends_put.mpr ⟨fun storage saved => ?_, fun why failed => ?_⟩
    · refine ends_bind.mpr (ends_engineOf.mpr ⟨fun engine' there' => ?_, fun nobody => ?_⟩)
      · cases there.symm.trans there'
        refine ends_bind.mpr (ends_settle.mpr ?_)
        simp only [showing, there, saved, Outcome.mapError_ok]
        cases engine.view <;> rfl
      · exact absurd there (nobody engine)
    · simp [showing, there, failed]
  · cases there : before.live[number]? with
    | none => rfl
    | some live =>
      obtain ⟨engine, intact⟩ := live
      cases intact with
      | true => exact absurd there (nobody engine)
      | false => rfl

theorem watched_eq (backend : Backend) (slug : String) : watched backend slug =
    glance backend.storage slug ((backend.sessions.get? slug).map (backend.live[·]?)) := by
  refine ends_outcome (ends_bind.mpr (ends_bind.mpr (ends_look.mpr
    ⟨fun document stored => ?_, fun why failed => ?_⟩)))
  · split
    · simp only [glance, stored, Outcome.mapError_ok]
      rfl
    · rename_i given
      have sees (current : Option (Option Live)) :
          glance backend.storage slug current = seen backend.storage slug current := by
        simp only [glance, stored, Outcome.mapError_ok]
        cases document <;> first | exact absurd rfl given | rfl
      rw [sees]
      cases held : backend.sessions.get? slug with
      | some number =>
        refine ends_bind.mpr (ends_bind.mpr (ends_get.mpr ?_))
        simp only [held]
        exact presented_shows
      | none =>
        refine ends_bind.mpr ((getEngine_revives held).mono ?_ ?_)
        · rintro _ _ ⟨taken, revives, rfl, rfl⟩
          simp only [Option.map_none, seen, revives]
          cases taken with
          | none => rfl
          | some engine =>
            have shows := @presented_shows (backend.enrolled slug engine) slug backend.live.length
            have there : (backend.enrolled slug engine).live[backend.live.length]? =
                some ⟨engine, true⟩ := by simp [enrolled]
            rw [there] at shows
            exact shows
        · rintro why _ ⟨unread, rfl⟩
          simp only [Option.map_none, seen, unread]
          rfl
  · simp only [glance, failed, Outcome.mapError_error]
    rfl

/-! ## What goes unnoticed -/

/-- Nothing that is kept is different, and nothing that would be shown. -/
structure Unnoticed (before after : Backend) : Prop where
  storage : after.storage = before.storage
  watched : ∀ slug, watched after slug = watched before slug

theorem Unnoticed.refl (backend : Backend) : Unnoticed backend backend := ⟨rfl, fun _ => rfl⟩

theorem Unnoticed.trans (first : Unnoticed before between) (second : Unnoticed between after) :
    Unnoticed before after :=
  ⟨second.storage.trans first.storage, fun slug =>
    (second.watched slug).trans (first.watched slug)⟩

/-- A playthrough that is taken up would have been shown in the same way before. -/
theorem unnoticed_enrolled (ordered : Ordered before) (forgotten : before.sessions.get? slug = none)
    (revives : revived before.storage slug = .ok (some engine)) :
    Unnoticed before (before.enrolled slug engine) := by
  refine ⟨rfl, fun other => ?_⟩
  rw [watched_eq, watched_eq]
  by_cases same : slug = other
  · subst same
    have there : (before.enrolled slug engine).live[before.live.length]? =
        some ⟨engine, true⟩ := by simp [enrolled]
    have holds : (before.enrolled slug engine).sessions.get? slug = some before.live.length := by
      simp [enrolled]
    have sees : seen before.storage slug (some (some ⟨engine, true⟩)) =
        seen before.storage slug none := by
      simp only [seen, revives]
      rfl
    rw [holds, forgotten, Option.map_some, there, Option.map_none]
    exact glance_congr sees
  · have current : (before.enrolled slug engine).sessions.get? other =
        before.sessions.get? other := by
      simp [enrolled, same]
    rw [current]
    cases held : before.sessions.get? other with
    | none => rfl
    | some number =>
      have there := ordered.there other number held
      simp only [Option.map_some, enrolled, List.getElem?_append_left there]

/-- How many tickets a playthrough has handed out is seen nowhere. -/
theorem unnoticed_placed {issued : Nat} (there : before.live[number]? = some ⟨engine, true⟩) :
    Unnoticed before (before.placed number ⟨{ engine with issued }, true⟩) := by
  refine ⟨rfl, fun other => ?_⟩
  rw [watched_eq, watched_eq]
  refine glance_congr ?_
  have bound := (List.getElem?_eq_some_iff.mp there).1
  cases held : before.sessions.get? other with
  | none => simp only [placed, held, Option.map_none]
  | some number' =>
    by_cases same : number = number'
    · subst same
      simp only [placed, held, Option.map_some, List.getElem?_set_self bound, there]
      rfl
    · simp only [placed, held, Option.map_some, List.getElem?_set_ne same]

end Backend

end VisualNovel
