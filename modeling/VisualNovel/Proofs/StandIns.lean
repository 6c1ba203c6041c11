import VisualNovel.Feedback.Recommender
import VisualNovel.Proofs.Documents
import VisualNovel.Proofs.Fences
import VisualNovel.Proofs.Outcomes

/-! What stands in for recommendations that a model does not give. An answer that is an object may
leave out fields, or give them empty: each of these has a standard value of its own, whatever the
other fields hold. Where a field is of the wrong kind, or there is no object at all, something else
stands in for the whole. Only an answer that is too deep to be looked at has no stand-in. -/
namespace VisualNovel

/-! ## What is read, and nothing else -/

namespace Schema

variable {α β : Type}

theorem map_eq_valid {f : α → β} {checked : Checked α} {value : β} :
    f <$> checked = .valid value ↔ ∃ given, checked = .valid given ∧ f given = value := by
  cases checked with
  | valid given => simp
  | invalid first more => exact iff_of_false nofun nofun

theorem seq_eq_valid {checked : Checked (α → β)} {other : Checked α} {value : β} :
    checked <*> other = .valid value ↔
      ∃ f given, checked = .valid f ∧ other = .valid given ∧ f given = value := by
  cases checked with
  | valid f =>
    cases other with
    | valid given => simp
    | invalid first more => exact iff_of_false nofun nofun
  | invalid first more =>
    cases other <;> exact iff_of_false nofun nofun

theorem within_eq_valid {step : Step} {checked : Checked α} {value : α} :
    checked.within step = .valid value ↔ checked = .valid value := by
  cases checked with
  | valid given => rfl
  | invalid first more => exact iff_of_false nofun nofun

/-- Nothing is read but what is written. -/
def Exact (write : α → Json) (read : Expects α) : Prop :=
  ∀ document value, read document = .valid value ↔ document = write value

theorem textual_exact : Exact .str textual := by
  intro document value
  cases document with
  | str text => simp [textual]
  | _ => exact iff_of_false nofun nofun

theorem each_exact {write : α → Json} {read : Expects α} (exact : Exact write read) :
    ∀ (items : List Json) (position : Nat) (values : List α),
      each read position items = .valid values ↔ items = values.map write
  | [], _, values => by
    cases values with
    | nil => exact iff_of_true rfl rfl
    | cons => exact iff_of_false nofun nofun
  | item :: rest, position, values => by
    simp only [each, seq_eq_valid, map_eq_valid, within_eq_valid, exact item,
      each_exact exact rest]
    constructor
    · rintro ⟨_, others, ⟨value, rfl, rfl⟩, rfl, rfl⟩
      rfl
    · intro same
      cases values with
      | nil => cases same
      | cons value others =>
        obtain ⟨rfl, rfl⟩ := List.cons.inj same
        exact ⟨_, others, ⟨value, rfl, rfl⟩, rfl, rfl⟩

theorem list_exact {write : α → Json} {read : Expects α} (exact : Exact write read) :
    Exact (fun values => .arr (values.map write)) (list read) := by
  intro document values
  cases document with
  | arr items => simpa [list] using each_exact exact items 0 values
  | _ => exact iff_of_false nofun nofun

end Schema

namespace Recommendations

open Schema

/-! ## Fields -/

/-- The fields of recommendations. -/
inductive Field where
  | overallAssessment
  | strengths
  | areasForImprovement
  | tips
  | encouragement
  deriving DecidableEq

namespace Field

def all : List Field := [overallAssessment, strengths, areasForImprovement, tips, encouragement]

/-- The name that an answer gives a field under. -/
def name : Field → String
  | overallAssessment => "overallAssessment"
  | strengths => "strengths"
  | areasForImprovement => "areasForImprovement"
  | tips => "tips"
  | encouragement => "encouragement"

/-- A value of the right kind: a text, or a list of texts. -/
def Fits : Field → Json → Prop
  | overallAssessment, value | encouragement, value => ∃ text, value = .str text
  | strengths, value | areasForImprovement, value | tips, value =>
    ∃ texts : List String, value = .arr (texts.map .str)

end Field

/-- What recommendations hold in a field. -/
def value (recommendations : Recommendations) : Field → Json
  | .overallAssessment => .str recommendations.overallAssessment
  | .strengths => .arr (recommendations.strengths.map .str)
  | .areasForImprovement => .arr (recommendations.areasForImprovement.map .str)
  | .tips => .arr (recommendations.tips.map .str)
  | .encouragement => .str recommendations.encouragement

variable {answer : List (String × Json)} {field : Field} {recommendations : Recommendations}

/-- What an answer offers for a field, if it is something. -/
def offered? (answer : List (String × Json)) (field : Field) : Option Json :=
  (Json.lookup? field.name answer).filter Json.truthy

/-- What a field comes to be: what is offered, or its standard value. -/
def filled (answer : List (String × Json)) (field : Field) : Json :=
  (offered? answer field).getD (standard.value field)

theorem fits_value (recommendations : Recommendations) (field : Field) :
    field.Fits (recommendations.value field) := by
  cases field <;> exact ⟨_, rfl⟩

/-- Values of the right kinds make up recommendations. -/
theorem exists_of_fits {values : Field → Json} (fits : ∀ field : Field, field.Fits (values field)) :
    ∃ recommendations : Recommendations, ∀ field, recommendations.value field = values field := by
  obtain ⟨overallAssessment, first⟩ := fits .overallAssessment
  obtain ⟨strengths, second⟩ := fits .strengths
  obtain ⟨areasForImprovement, third⟩ := fits .areasForImprovement
  obtain ⟨tips, fourth⟩ := fits .tips
  obtain ⟨encouragement, fifth⟩ := fits .encouragement
  refine ⟨⟨overallAssessment, strengths, areasForImprovement, tips, encouragement⟩, fun field => ?_⟩
  cases field with
  | overallAssessment => exact first.symm
  | strengths => exact second.symm
  | areasForImprovement => exact third.symm
  | tips => exact fourth.symm
  | encouragement => exact fifth.symm

theorem given_eq (answer : List (String × Json)) (field : Field) :
    given answer field.name (standard.value field) = (field.name, filled answer field) := by
  rw [given, filled, offered?]
  cases Json.lookup? field.name answer with
  | none => rfl
  | some value => cases solid : value.truthy <;> simp [Option.filter, solid]

theorem filledIn_eq (answer : List (String × Json)) :
    filledIn answer = .obj (Field.all.map fun field => (field.name, filled answer field)) := by
  simp only [← given_eq]
  rfl

/-- Each field is checked by itself. -/
theorem ofJson_filledIn_eq (answer : List (String × Json)) :
    ofJson (filledIn answer) =
      mk <$> (textual (filled answer .overallAssessment)).within (.key "overallAssessment")
        <*> (list textual (filled answer .strengths)).within (.key "strengths")
        <*> (list textual (filled answer .areasForImprovement)).within (.key "areasForImprovement")
        <*> (list textual (filled answer .tips)).within (.key "tips")
        <*> (textual (filled answer .encouragement)).within (.key "encouragement") := by
  rw [filledIn_eq]
  rfl

/-- An answer is read with each field filled by itself. -/
theorem ofJson_filledIn :
    ofJson (filledIn answer) = .valid recommendations ↔
      ∀ field, recommendations.value field = filled answer field := by
  have readList : Exact (fun texts => .arr (texts.map .str)) (list textual) :=
    list_exact textual_exact
  simp only [ofJson_filledIn_eq, seq_eq_valid, map_eq_valid, within_eq_valid, textual_exact _ _,
    readList _ _]
  constructor
  · rintro ⟨_, encouragement, ⟨_, tips, ⟨_, areas, ⟨_, strengths, ⟨assessment, first, rfl⟩, second,
      rfl⟩, third, rfl⟩, fourth, rfl⟩, fifth, rfl⟩ field
    cases field with
    | overallAssessment => exact first.symm
    | strengths => exact second.symm
    | areasForImprovement => exact third.symm
    | tips => exact fourth.symm
    | encouragement => exact fifth.symm
  · intro each
    exact ⟨_, _, ⟨_, _, ⟨_, _, ⟨_, _, ⟨_, (each .overallAssessment).symm, rfl⟩,
      (each .strengths).symm, rfl⟩, (each .areasForImprovement).symm, rfl⟩,
      (each .tips).symm, rfl⟩, (each .encouragement).symm, rfl⟩

/-- An answer is turned down exactly if it offers something of the wrong kind for a field. -/
theorem ofJson_filledIn_invalid :
    (∀ recommendations, ofJson (filledIn answer) ≠ .valid recommendations) ↔
      ∃ (field : Field) (value : Json), offered? answer field = some value ∧ ¬field.Fits value := by
  constructor
  · intro turnedDown
    refine Classical.byContradiction fun right => ?_
    have fits (field : Field) : field.Fits (filled answer field) := by
      rw [filled]
      cases offer : offered? answer field with
      | none => exact fits_value standard field
      | some value =>
        exact Classical.byContradiction fun wrong => right ⟨field, value, offer, wrong⟩
    obtain ⟨recommendations, each⟩ := exists_of_fits fits
    exact turnedDown recommendations (ofJson_filledIn.mpr each)
  · rintro ⟨field, value, offer, wrong⟩ recommendations valid
    have same := ofJson_filledIn.mp valid field
    rw [filled, offer, Option.getD_some] at same
    exact wrong (same ▸ fits_value recommendations field)

end Recommendations

/-! ## Replies -/

namespace FinishedGame

open Recommendations

/-- A text, or one of the two failures that a model can tell of. -/
def IsForeseen : Reply → Prop
  | .text _ | .failed _ | .unconfigured _ => True
  | _ => False

/-- What a reply comes to. -/
inductive ComesTo : Reply → Except RecommendationsFailure Recommendations → Prop where
  | unconfigured (why : String) : ComesTo (.unconfigured why) (.error (.unconfigured why))
  | failed (why : String) : ComesTo (.failed why) (.ok .fallback)
  | unread {text : String} {error : Json.ReadError}
      (refused : Json.read (Text.unfenced text) = .error error) (shallow : error.cause ≠ .tooDeep) :
      ComesTo (.text text) (.ok .fallback)
  | noObject {text : String} {document : Json}
      (came : Json.read (Text.unfenced text) = .ok document)
      (other : ∀ answer, document ≠ .obj answer) : ComesTo (.text text) (.ok .fallback)
  | misfit {text : String} {answer : List (String × Json)} {field : Field} {value : Json}
      (came : Json.read (Text.unfenced text) = .ok (.obj answer))
      (offer : offered? answer field = some value) (wrong : ¬field.Fits value) :
      ComesTo (.text text) (.ok .fallback)
  | filled {text : String} {answer : List (String × Json)} {recommendations : Recommendations}
      (came : Json.read (Text.unfenced text) = .ok (.obj answer))
      (each : ∀ field, recommendations.value field = filled answer field) :
      ComesTo (.text text) (.ok recommendations)
  | tooDeep {text : String} {error : Json.ReadError}
      (refused : Json.read (Text.unfenced text) = .error error) (deep : error.cause = .tooDeep) :
      ComesTo (.text text) (.error .tooDeep)

variable {text : String} {answer : List (String × Json)}

theorem conclude_ok {recommendations : Recommendations}
    (read : Recommendations.read text = .ok recommendations) :
    conclude (.text text) = .ok recommendations := by
  unfold conclude
  simp only [read]

theorem conclude_error {flaw : RecommendationsFlaw}
    (turnedDown : Recommendations.read text = .error flaw) :
    conclude (.text text) = if flaw.isTooDeep then .error .tooDeep else .ok .fallback := by
  unfold conclude
  simp only [turnedDown]

theorem conclude_refused {error : Json.ReadError}
    (refused : Json.read (Text.unfenced text) = .error error) :
    conclude (.text text) =
      if error.cause = .tooDeep then .error .tooDeep else .ok .fallback := by
  have read : Recommendations.read text = .error (.notJson error) := by
    unfold Recommendations.read
    rw [refused]
  rw [conclude_error read, RecommendationsFlaw.isTooDeep]
  simp only [decide_eq_true_eq]

theorem conclude_noObject {document : Json} (came : Json.read (Text.unfenced text) = .ok document)
    (other : ∀ answer, document ≠ .obj answer) : conclude (.text text) = .ok .fallback := by
  have read : Recommendations.read text = .error (.notObject document.kindName) := by
    unfold Recommendations.read
    rw [came]
    cases document with
    | obj answer => exact absurd rfl (other answer)
    | _ => rfl
  exact conclude_error read

theorem conclude_valid {recommendations : Recommendations}
    (came : Json.read (Text.unfenced text) = .ok (.obj answer))
    (valid : ofJson (filledIn answer) = .valid recommendations) :
    conclude (.text text) = .ok recommendations := by
  have read : Recommendations.read text = .ok recommendations := by
    unfold Recommendations.read
    simp only [came, valid]
  exact conclude_ok read

theorem conclude_invalid (came : Json.read (Text.unfenced text) = .ok (.obj answer))
    (turnedDown : ∀ recommendations, ofJson (filledIn answer) ≠ .valid recommendations) :
    conclude (.text text) = .ok .fallback := by
  cases checked : ofJson (filledIn answer) with
  | valid recommendations => exact absurd checked (turnedDown recommendations)
  | invalid first more =>
    have read : Recommendations.read text = .error (.invalid first more) := by
      unfold Recommendations.read
      simp only [came, checked]
    exact conclude_error read

theorem ComesTo.conclude_eq {reply : Reply}
    {outcome : Except RecommendationsFailure Recommendations} (comes : ComesTo reply outcome) :
    conclude reply = outcome := by
  cases comes with
  | unconfigured why => rfl
  | failed why => rfl
  | unread refused shallow => rw [conclude_refused refused, if_neg shallow]
  | noObject came other => exact conclude_noObject came other
  | misfit came offer wrong =>
    exact conclude_invalid came (ofJson_filledIn_invalid.mpr ⟨_, _, offer, wrong⟩)
  | filled came each => exact conclude_valid came (ofJson_filledIn.mpr each)
  | tooDeep refused deep => rw [conclude_refused refused, if_pos deep]

/-- A text comes to something, whatever it is. -/
theorem comesTo_text (text : String) : ∃ outcome, ComesTo (.text text) outcome := by
  cases came : Json.read (Text.unfenced text) with
  | error error =>
    by_cases deep : error.cause = .tooDeep
    · exact ⟨_, .tooDeep came deep⟩
    · exact ⟨_, .unread came deep⟩
  | ok document =>
    cases document with
    | obj answer =>
      cases checked : ofJson (filledIn answer) with
      | valid recommendations => exact ⟨_, .filled came (ofJson_filledIn.mp checked)⟩
      | invalid first more =>
        have turnedDown : ∀ recommendations, ofJson (filledIn answer) ≠ .valid recommendations :=
          fun recommendations valid => nomatch checked.symm.trans valid
        obtain ⟨field, value, offer, wrong⟩ := ofJson_filledIn_invalid.mp turnedDown
        exact ⟨_, .misfit came offer wrong⟩
    | _ => exact ⟨_, .noObject came nofun⟩

/-- What a reply comes to is settled by the reply. -/
theorem comesTo_iff {reply : Reply} (foreseen : IsForeseen reply)
    {outcome : Except RecommendationsFailure Recommendations} :
    ComesTo reply outcome ↔ outcome = conclude reply := by
  constructor
  · exact fun comes => comes.conclude_eq.symm
  · rintro rfl
    cases reply with
    | text text =>
      obtain ⟨outcome, comes⟩ := comesTo_text text
      exact comes.conclude_eq ▸ comes
    | failed why => exact .failed why
    | unconfigured why => exact .unconfigured why
    | _ => exact foreseen.elim

/-! ## Recommendations -/

theorem recommend_eq {Model : Type} (reply : String → Model → Reply × Model) {game : FinishedGame}
    (writable : game.finalScore.all Value.isWritable = true) (model : Model) :
    game.recommend reply model =
      (conclude (reply game.prompt model).1, (reply game.prompt model).2) := by
  rw [recommend, if_pos writable]

/-- Recommendations are made out of any reply that is foreseen, field by field or as a whole, unless
a model is not set up or its answer is too deep. -/
theorem recommendations_are_filled_in {Model : Type} (reply : String → Model → Reply × Model)
    (game : FinishedGame) (writable : game.finalScore.all Value.isWritable = true) (model : Model)
    (foreseen : IsForeseen (reply game.prompt model).1) :
    ∃ outcome, game.recommend reply model = (outcome, (reply game.prompt model).2) ∧
      ∀ other, ComesTo (reply game.prompt model).1 other ↔ other = outcome :=
  ⟨conclude (reply game.prompt model).1, recommend_eq reply writable model,
    fun _ => comesTo_iff foreseen⟩

/-- An answer in a fence, with an empty field, without two others, and with one that is unknown. -/
def partialAnswer : String :=
  "\x60\x60\x60json\n\x7b\"overallAssessment\": \"Fine.\", \"tips\": [], " ++
    "\"strengths\": [\"Listening\"], \"more\": 0\x7d\n\x60\x60\x60"

theorem a_partial_answer_is_filled_in :
    (mk [] "Sam" (some (.number (.int 15))) "").recommend
        (fun _ calls => (.text partialAnswer, calls + 1)) 0 =
      (.ok { Recommendations.standard with
        overallAssessment := "Fine.", strengths := ["Listening"] }, 1) := by
  obtain ⟨outcome, recommended, only⟩ := recommendations_are_filled_in
    (fun _ calls => (.text partialAnswer, calls + 1)) ⟨[], "Sam", some (.number (.int 15)), ""⟩
    (by decide +kernel) 0 trivial
  have came : Json.read (Text.unfenced partialAnswer) = .ok (.obj [("overallAssessment",
      .str "Fine."), ("tips", .arr []), ("strengths", .arr [.str "Listening"]), ("more", .int 0)]) :=
    Outcome.toOption_eq_some.mp (by decide +kernel)
  have comes : ComesTo (.text partialAnswer) (.ok { Recommendations.standard with
      overallAssessment := "Fine.", strengths := ["Listening"] }) :=
    .filled came fun field => by cases field <;> rfl
  rw [recommended, ← (only _).mp comes]

/-- Lists that are nested too deep leave no recommendations at all. -/
theorem a_deep_answer_has_no_stand_in :
    (mk [] "Sam" none "").recommend
        (fun _ calls => (.text (Json.write (.obj [("deep", Json.nest 2000)])), calls + 1)) 0 =
      (.error .tooDeep, 1) := by
  obtain ⟨error, refused, deep⟩ :=
    Json.read_nest (by decide : Json.depthLimit ≤ 2000 + 1) "deep" []
  rw [← Text.unfenced_braced (GradedAnswer.toList_write_obj _)] at refused
  rw [recommend_eq _ rfl, conclude_refused refused, if_pos deep]

end FinishedGame

end VisualNovel
