import VisualNovel.Proofs.Visits

/-! No playthrough goes by an old script. A playthrough is begun and taken up by the document that
is stored at that moment, and whatever puts another document in its place gives the playthrough up, in
memory and in its record. From then on the story is without a playthrough until one is begun. -/
namespace VisualNovel

namespace Standing

variable {before after : Standing} {deed : Deed}

/-- A playthrough in memory goes by the stored document. -/
def UpToDate (standing : Standing) : Prop :=
  ∀ live, standing.playing = some live → ∃ document, standing.script = .ok document ∧
    Story.ofJson document = .valid live.engine.story

/-- Every deed keeps a playthrough with its document. -/
theorem step_upToDate (step : Step before deed after) (upToDate : before.UpToDate) :
    after.UpToDate := by
  cases step with
  | takenUp idle stored valid =>
    rintro _ ⟨⟩
    exact ⟨_, stored, valid⟩
  | begun stored valid =>
    rintro _ ⟨⟩
    exact ⟨_, stored, valid⟩
  | played there story =>
    rintro _ ⟨⟩
    rw [story]
    exact upToDate _ there
  | waited there same =>
    rintro _ ⟨⟩
    rw [same.story]
    exact upToDate _ there
  | left there story =>
    rintro _ ⟨⟩
    rw [story]
    exact upToDate _ there
  | uploaded | removed => exact fun _ there => nomatch there

/-- Only a new playthrough ends a vacancy: there is nothing to be taken up or to go on with. -/
theorem step_vacant (step : Step before deed after) (vacant : before.Vacant)
    (other : deed ≠ .begin) : after.Vacant := by
  obtain ⟨nobody, empty⟩ := vacant
  cases step with
  | takenUp _ _ _ kept => cases empty.symm.trans kept
  | begun => exact absurd rfl other
  | played there => cases nobody.symm.trans there
  | waited there => cases nobody.symm.trans there
  | left there => cases nobody.symm.trans there
  | uploaded | removed => exact ⟨rfl, rfl⟩

theorem Reaches.vacant {allowed : Deed → Prop} (reaches : Reaches allowed before after)
    (other : ¬ allowed .begin) (vacant : before.Vacant) : after.Vacant :=
  reaches.keeps (fun may step vacant => step_vacant step vacant fun same => other (same ▸ may)) vacant

end Standing

namespace Backend

variable {before after first last : Backend} {visit : Visit} {visits : List Visit} {slug : String}

/-- A story has no playthrough, neither in memory nor in a record. -/
def Vacant (backend : Backend) (slug : String) : Prop :=
  backend.sessions.get? slug = none ∧ backend.storage.playthrough slug = .ok .null

theorem Ordered.vacant_iff (ordered : Ordered before) :
    (before.standing slug).Vacant ↔ before.Vacant slug :=
  and_congr_left' ordered.playing_eq_none

theorem visited_upToDate (visited : Visited before visit after) (ordered : Ordered before)
    (plain : visit.IsPlain) (plain' : IsPlain slug) (upToDate : (before.standing slug).UpToDate) :
    (after.standing slug).UpToDate :=
  ((visited_changes visited ordered plain).1.moves slug plain').keeps
    (fun _ step => Standing.step_upToDate step) upToDate

/-- A visit after which a story is not vacant any more is one that may begin a playthrough. -/
theorem visited_vacant (visited : Visited before visit after) (ordered : Ordered before)
    (plain : visit.IsPlain) (plain' : IsPlain slug) (other : ¬ visit.Begins slug)
    (vacant : (before.standing slug).Vacant) : (after.standing slug).Vacant :=
  ((visited_changes visited ordered plain).1.moves slug plain').vacant other vacant

/-- After some visits, one of the later visits has given a vacant story a playthrough. -/
def Regained (first : Backend) (slug : String) (visits later : List Visit) : Prop :=
  ∃ middle visit rest before after, later = middle ++ visit :: rest ∧
    Series first (visits ++ middle) before ∧ Visited before visit after ∧
    before.Vacant slug ∧ ¬ after.Vacant slug ∧ visit.Begins slug

/-- A story that is uploaded or deleted is vacant until a visit begins a playthrough of it. -/
theorem series_vacant (ordered : Ordered first) (series : Series first visits last)
    (plain : ∀ visit ∈ visits, visit.IsPlain) (plain' : IsPlain slug) :
    ∀ earlier visit later, visits = earlier ++ visit :: later → visit.Replaces slug →
      last.Vacant slug ∨ Regained first slug (earlier ++ [visit]) later := by
  induction series with
  | none => exact fun earlier visit later split => absurd split.symm (by simp)
  | @next visits latest before after series visited ih =>
    intro earlier visit later split replaces
    have plain₀ : ∀ visit ∈ visits, visit.IsPlain := fun _ among =>
      plain _ (List.mem_append_left _ among)
    have ordered₀ := series.ordered ordered plain₀
    obtain ⟨changes, vacated⟩ := visited_changes visited ordered₀ (plain latest (by simp))
    rcases snoc_eq_append_cons split with ⟨rfl, rfl, rfl⟩ | ⟨later, rfl, rfl⟩
    · -- The story has just been replaced.
      exact .inl (changes.ordered.vacant_iff.mp (vacated slug replaces))
    · rcases ih plain₀ earlier visit later rfl replaces with vacant | regained
      · by_cases still : after.Vacant slug
        · exact .inl still
        · have begins : latest.Begins slug := by
            refine Classical.byContradiction fun other => still ?_
            exact changes.ordered.vacant_iff.mp (visited_vacant visited ordered₀
              (plain latest (by simp)) plain' other (ordered₀.vacant_iff.mpr vacant))
          exact .inr ⟨later, latest, [], before, after, by simp, by simpa using series, visited,
            vacant, still, begins⟩
      · obtain ⟨middle, beginning, rest, before, after, rfl, begun⟩ := regained
        exact .inr ⟨middle, beginning, rest ++ [latest], before, after, by simp, begun⟩

theorem series_upToDate (idle : ∀ slug, first.sessions.get? slug = none)
    (series : Series first visits last) (plain : ∀ visit ∈ visits, visit.IsPlain)
    (plain' : IsPlain slug) : (last.standing slug).UpToDate := by
  induction series with
  | none => exact fun _ there => nomatch (playing_of_idle idle slug).symm.trans there
  | @next visits visit before after earlier visited ih =>
    have plain₀ : ∀ visit ∈ visits, visit.IsPlain := fun _ among =>
      plain _ (List.mem_append_left _ among)
    exact visited_upToDate visited (earlier.ordered (ordered_of_idle idle) plain₀)
      (plain visit (by simp)) plain' (ih plain₀)

/-- Whatever visits a backend deals with after it has been started, every playthrough in memory goes
by the document that is stored for its story at that moment, and a story that has been uploaded or
deleted has neither a playthrough in memory nor a record until a new playthrough has been begun. -/
theorem scripts_are_current (idle : ∀ slug, first.sessions.get? slug = none)
    (series : Series first visits last) (plain : ∀ visit ∈ visits, visit.IsPlain) :
    (∀ slug number, IsPlain slug → last.sessions.get? slug = some number →
      ∃ live document, last.live[number]? = some live ∧
        last.storage.story slug = .ok document ∧
        Story.ofJson document = .valid live.engine.story) ∧
      ∀ slug, IsPlain slug → ∀ earlier visit later, visits = earlier ++ visit :: later →
        visit.Replaces slug →
          last.Vacant slug ∨ Regained first slug (earlier ++ [visit]) later := by
  have ordered := ordered_of_idle idle
  refine ⟨fun slug number plain' holds => ?_, fun slug plain' =>
    series_vacant ordered series plain plain'⟩
  obtain ⟨live, there⟩ := (series.ordered ordered plain).playing holds
  obtain ⟨document, stored, valid⟩ :=
    series_upToDate idle series plain plain' live ((playing_eq holds).trans there)
  exact ⟨live, document, there, stored, valid⟩

/-- A backend with a built-in story. -/
def library : Backend :=
  fresh (some [("song", (Story.lone (.bare "verse" .narration)).toJson .authored)])

/-- A tool by which it is played. -/
def singing : Tool := .startStory "song" "Ann"

/-- The same backend once the story is being played. -/
def sung : Except Stop Json × Backend := (use singing).run.run library

/-- A request by which another story is put in its place. -/
def revision : Call where
  method := "PUT"
  path := "/api/stories/song"
  payload := .document (.obj [("story", (Story.lone (.bare "refrain" .ending)).toJson .authored)])

/-- What comes of it where there is no network. -/
def revised : Except Mishap HttpAnswer × Backend × Unit :=
  serve (fun _ network => (.foreign "", network)) revision sung.2 ()

theorem revised_after_singing :
    Series library ([.tool singing sung.1] ++ [.request revision revised.1]) revised.2.1 := by
  have begun : Series library ([] ++ [.tool singing sung.1]) sung.2 := .next .none (.used rfl)
  exact begun.next (.served rfl)

theorem revised_song_is_vacant :
    (∃ body, revised.1 = .ok ⟨200, body⟩) ∧
      (revised.2.1.Vacant "song" ∨
        Regained library "song" ([.tool singing sung.1] ++ [.request revision revised.1]) []) := by
  have status : revised.1.toOption.map (·.status) = some 200 := by decide +kernel
  obtain ⟨⟨_, body⟩, answered, rfl⟩ := Option.map_eq_some_iff.mp status
  have answered : ∃ body, revised.1 = .ok ⟨200, body⟩ :=
    ⟨body, Outcome.toOption_eq_some.mp answered⟩
  have found : Endpoint.find revision.method revision.path = .ok (.here (.uploadStory "song")) :=
    Outcome.toOption_eq_some.mp (by decide +kernel)
  refine ⟨answered, ?_⟩
  exact (scripts_are_current (fun _ => rfl) revised_after_singing (by decide)).2 "song" (by decide)
    [.tool singing sung.1] (.request revision revised.1) [] rfl ⟨⟨_, found, .inl rfl⟩, answered⟩

end Backend

end VisualNovel
