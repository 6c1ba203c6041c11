import VisualNovel.Proofs.Places
import VisualNovel.Proofs.Playing
import VisualNovel.Proofs.Runs

/-! Which files playing leaves different: the save slot, and the records of what is played. Each
rule says of one piece of work that however it ends, it has touched nothing else. Nothing keeps a
record inside the folder of records, though. A name that leads out of that folder, as only a tool
can be given, has its record written over the very story that it names. -/
namespace VisualNovel

/-- A story is played by what is asked for. -/
def Endpoint.Plays (slug : String) (endpoint : Endpoint) : Prop :=
  (∃ action, endpoint = .here (.play slug action)) ∨ endpoint = .respond slug ∨
    endpoint = .recommend slug

/-- A story is played by a visit. -/
def Visit.Plays (slug : String) : Visit → Prop
  | request call _ =>
    ∃ endpoint, Endpoint.find call.method call.path = .ok endpoint ∧ endpoint.Plays slug
  | tool used _ => used.slug = slug

namespace Backend

open Storage

variable {α β : Type} {slug : String} {number : Nat}

/-! ## Work on a request -/

/-- However work on a story ends, it touches nothing but the slot and the record of that story. -/
def Confined (slug : String) (work : Serving α) : Prop :=
  ∀ before, Ends work before (fun _ after => Touches (· = slug) before.storage after.storage)
    (fun _ after => Touches (· = slug) before.storage after.storage)

/-- A playthrough is put in place in memory alone, and all that is written besides the slot is its
record. -/
theorem playing_touches (slug : String) :
    PlayingWithSlot slug fun before after => Touches (· = slug) before.storage after.storage where
  refl backend := .refl _ backend.storage
  trans := .trans
  placed backend _ _ := .refl _ backend.storage
  enrolled backend _ := .refl _ backend.storage
  recorded saved := .savePlaythrough rfl saved
  saved saved := .of_slot (write_place saved).1
  emptied removed := .of_slot (remove_place removed)

section

variable {before after first last : Backend} {payload : Payload} {visit : Visit}
  {visits : List Visit}

/-- Waiting for a network between two parts of work touches nothing. -/
theorem InParts.touches {Answer : Type} {first : Serving α} {second : α → Answer → Serving Json}
    {outcome : Except Stop Json} (parts : InParts first second before outcome after)
    (opens : Confined slug first) (closes : ∀ value answer, Confined slug (second value answer)) :
    Touches (· = slug) before.storage after.storage :=
  parts.keeps (playing_touches slug).toPlaying opens closes

/-- A visit touches nothing but the slot and the record of the story that it plays. -/
theorem visited_touches (visited : Visited before visit after) (plays : visit.Plays slug) :
    Touches (· = slug) before.storage after.storage := by
  have playing := (playing_touches slug).toPlaying
  cases visited with
  | served came =>
    obtain ⟨endpoint, found, plays⟩ := plays
    rcases serve_cases came with ⟨rfl, _⟩ | ⟨_, outcome, found', answered, _⟩
    · exact .refl _ _
    · cases found.symm.trans found'
      rcases plays with ⟨action, rfl⟩ | rfl | rfl
      · cases answered
        exact (keeps_playLocally playing action fun _ => playing_touches slug).came rfl
      · refine (respond_parts answered).touches ?_ fun _ _ => keeps_closeResponse playing
        exact keeps_bind playing (keeps_payloadAs playing) fun value => keeps_openResponse playing
      · exact (recommend_parts answered).touches (keeps_finishedGame playing) fun _ _ =>
          keeps_concludeGame playing
  | used came =>
    cases plays
    exact (keeps_use _ playing).came came

/-- A story is played in the course of some visits. -/
def Played (visits : List Visit) (slug : String) : Prop := ∃ visit ∈ visits, visit.Plays slug

theorem series_touches (series : Series first visits last)
    (playing : ∀ visit ∈ visits, ∃ slug, visit.Plays slug) :
    Touches (Played visits) first.storage last.storage := by
  induction series with
  | none => exact .refl _ _
  | @next visits visit before after earlier visited ih =>
    have touched := ih fun visit among => playing visit (List.mem_append_left _ among)
    obtain ⟨slug, plays⟩ := playing visit (by simp)
    refine (touched.mono ?_).trans ((visited_touches visited plays).mono ?_)
    · rintro _ ⟨visit, among, plays⟩
      exact ⟨visit, List.mem_append_left _ among, plays⟩
    · rintro _ rfl
      exact ⟨visit, by simp, plays⟩

end

/-- A story of one line. -/
def hymn : Json := (Story.lone (.bare "verse" .narration)).toJson .authored

/-- A backend that keeps this story alone. -/
def hymnal : Backend :=
  { fresh none with
    storage := ⟨(Storage.fresh none).directory.put "data/stories/song.json" (.document hymn)⟩ }

/-- What comes of starting it. -/
def started (slug : String) : Except Stop Json × Backend :=
  (use (.startStory slug "Ann")).run.run hymnal

theorem started_once (slug : String) :
    Series hymnal ([] ++ [.tool (.startStory slug "Ann") (started slug).1]) (started slug).2 :=
  .next .none (.used rfl)

end Backend

end VisualNovel
