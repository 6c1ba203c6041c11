import VisualNovel.Audio.Playback
import VisualNovel.Playthrough.State

/-! What has been written down reads back as itself. A way of writing and a way of reading are
faithful if nothing is lost between them; lists, optional values and values by name take that over
from what they hold. An object whose keys cannot be taken for one another holds each of its fields
in every style, but for those that hold nothing, which a style may leave out. -/
namespace VisualNovel

namespace Schema

variable {α β : Type}

@[simp] theorem map_valid (f : α → β) (value : α) : f <$> Checked.valid value = .valid (f value) :=
  rfl

@[simp] theorem seq_valid (f : α → β) (value : α) :
    Checked.valid f <*> .valid value = .valid (f value) := rfl

@[simp] theorem within_valid (step : Step) (value : α) :
    (Checked.valid value).within step = .valid value := rfl

/-- Whatever is written reads back as itself. -/
def Faithful (write : α → Json) (read : Expects α) : Prop :=
  ∀ value, read (write value) = .valid value

/-- Besides, nothing is written as null, so what is there is not taken for something absent. -/
structure Firm (write : α → Json) (read : Expects α) : Prop where
  faithful : Faithful write read
  given : ∀ value, Style.isNull (write value) = false

theorem textual_firm : Firm .str textual := ⟨fun _ => rfl, fun _ => rfl⟩

theorem boolean_firm : Firm .bool boolean := ⟨fun _ => rfl, fun _ => rfl⟩

theorem integer_firm : Firm .int integer := ⟨fun _ => rfl, fun _ => rfl⟩

theorem floating_firm : Firm .float floating := ⟨fun _ => rfl, fun _ => rfl⟩

theorem numeric_firm : Firm Number.toJson numeric := by
  constructor <;> intro number <;> cases number <;> rfl

theorem scalar_firm : Firm Value.toJson scalar := by
  constructor <;> intro value
  all_goals
    cases value with
    | number number => cases number <;> rfl
    | _ => rfl

/-- A word is read as what it was written for, if it is understood at all. -/
theorem among_firm {word : α → String} {read : String → Option α}
    (understood : ∀ value, read (word value) = some value) :
    Firm (fun value => .str (word value)) (among read) := by
  refine ⟨fun value => ?_, fun _ => rfl⟩
  simp only [among, understood]

theorem each_faithful {write : α → Json} {read : Expects α} (faithful : Faithful write read) :
    ∀ (values : List α) (position : Nat), each read position (values.map write) = .valid values
  | [], _ => rfl
  | value :: rest, position => by
    simp [each, faithful value, each_faithful faithful rest (position + 1)]

theorem list_firm {write : α → Json} {read : Expects α} (firm : Firm write read) :
    Firm (fun values => .arr (values.map write)) (list read) :=
  ⟨fun values => each_faithful firm.faithful values 0, fun _ => rfl⟩

theorem eachField_faithful {write : α → Json} {read : Expects α} (faithful : Faithful write read) :
    ∀ entries : List (String × α),
      eachField read (entries.map fun (name, value) => (name, write value)) = .valid entries
  | [] => rfl
  | (name, value) :: rest => by
    simp [eachField, faithful value, eachField_faithful faithful rest]

theorem named_firm {write : α → Json} {read : Expects α} (firm : Firm write read) :
    Firm (ofNamed write) (named read) := by
  refine ⟨fun values => ?_, fun _ => rfl⟩
  simp only [named, ofNamed, fields, eachField_faithful firm.faithful, map_valid,
    Named.ofList_entries]

theorem nullable_faithful {write : α → Json} {read : Expects α} (firm : Firm write read) :
    Faithful (ofOption write) (nullable read) := by
  intro value
  cases value with
  | none => rfl
  | some value =>
    have solid := firm.given value
    have read := firm.faithful value
    simp only [ofOption, Option.elim_some]
    cases document : write value <;>
      simp_all [nullable, Style.isNull]

/-! ## Objects -/

/-- Two keys are told from one another in either way of writing, and across the two. -/
def Key.Apart (key other : Key) : Prop :=
  (key.camel ≠ other.camel ∧ key.camel ≠ other.snake) ∧
    key.snake ≠ other.camel ∧ key.snake ≠ other.snake

instance : DecidableRel Key.Apart := fun _ _ => inferInstanceAs (Decidable (_ ∧ _))

namespace Style

variable {style : Style} {key : Key} {value : Json} {fields : List (Key × Json)}

/-- The name of a key. -/
def nameOf (style : Style) (key : Key) : String := if style.camel then key.camel else key.snake

/-- Whether a field is left out. -/
def omits (style : Style) (value : Json) : Bool := style.omitNull && isNull value

/-- The fields of an object as they are written. -/
def entries (style : Style) (fields : List (Key × Json)) : List (String × Json) :=
  (fields.filter fun (_, value) => !style.omits value).map fun (key, value) =>
    (style.nameOf key, value)

theorem object_eq (style : Style) (fields : List (Key × Json)) :
    style.object fields = .obj (style.entries fields) := by
  unfold object entries omits
  cases style.omitNull with
  | true => rfl
  | false =>
    have all : fields.filter (fun _ => true) = fields := List.filter_eq_self.mpr fun _ _ => rfl
    simp [nameOf, all]

/-- A field is found in an object unless it is left out. -/
def Holds (style : Style) (entries : List (String × Json)) (key : Key) (value : Json) : Prop :=
  key.find? entries = if style.omits value then none else some (style.nameOf key, value)

theorem find?_cons_apart {other : Key} (apart : key.Apart other) (entries : List (String × Json)) :
    key.find? ((style.nameOf other, value) :: entries) = key.find? entries := by
  obtain ⟨⟨_, _⟩, _, _⟩ := apart
  cases camel : style.camel <;> simp_all [Key.find?, Json.lookup?, nameOf, Ne.symm]

theorem find?_cons_self {entries : List (String × Json)} (absent : key.find? entries = none) :
    key.find? ((style.nameOf key, value) :: entries) = some (style.nameOf key, value) := by
  cases found : Json.lookup? key.camel entries with
  | some other => simp [Key.find?, found] at absent
  | none =>
    cases camel : style.camel with
    | true => simp [Key.find?, Json.lookup?, nameOf, camel]
    | false =>
      by_cases word : key.snake = key.camel <;>
        simp [Key.find?, Json.lookup?, nameOf, camel, word, found]

/-- The first field of an object is written, or left out. -/
theorem entries_cons (style : Style) (key : Key) (value : Json) (fields : List (Key × Json)) :
    style.entries ((key, value) :: fields) =
      if style.omits value then style.entries fields
      else (style.nameOf key, value) :: style.entries fields := by
  cases omitted : style.omits value <;> simp [entries, omitted]

/-- A key that is told from all others is not found among them. -/
theorem find?_entries_none (apart : ∀ other ∈ fields.map Prod.fst, key.Apart other) :
    key.find? (style.entries fields) = none := by
  induction fields with
  | nil => rfl
  | cons field fields ih =>
    obtain ⟨other, value⟩ := field
    obtain ⟨here, there⟩ := List.forall_mem_cons.mp apart
    rw [entries_cons]
    split
    · exact ih there
    · rw [find?_cons_apart here, ih there]

/-- An object holds all of its fields if their keys are told from one another. -/
theorem holds_entries (apart : (fields.map Prod.fst).Pairwise Key.Apart) :
    ∀ field ∈ fields, style.Holds (style.entries fields) field.1 field.2 := by
  induction fields with
  | nil => exact fun _ => nofun
  | cons first fields ih =>
    obtain ⟨key, value⟩ := first
    obtain ⟨here, there⟩ := List.pairwise_cons.mp apart
    have absent : key.find? (style.entries fields) = none := find?_entries_none here
    rintro ⟨other, document⟩ among
    rw [Holds, entries_cons]
    rcases List.mem_cons.mp among with same | later
    · cases same
      split
      · exact absent
      · exact find?_cons_self absent
    · have apart' : other.Apart key := by
        obtain ⟨⟨a, b⟩, c, d⟩ := here other (List.mem_map_of_mem later)
        exact ⟨⟨a.symm, c.symm⟩, b.symm, d.symm⟩
      have held := ih there _ later
      split
      · exact held
      · rw [find?_cons_apart apart']
        exact held

end Style

section

variable {style : Style} {entries : List (String × Json)} {key : Key} {write : α → Json}
  {read : Expects α} {value : α}

theorem Firm.held (firm : Firm write read) (holds : style.Holds entries key (write value)) :
    key.find? entries = some (style.nameOf key, write value) := by
  simpa [Style.Holds, Style.omits, firm.given] using holds

/-- What has to be there is read, for it is never left out. -/
theorem Firm.field (firm : Firm write read) (holds : style.Holds entries key (write value)) :
    field entries key read = .valid value := by
  simp only [Schema.field, firm.held holds, firm.faithful value, within_valid]

/-- So is what may be missing from other documents. -/
theorem Firm.fieldOr {fallback : α} (firm : Firm write read)
    (holds : style.Holds entries key (write value)) :
    fieldOr entries key read fallback = .valid value := by
  simp only [Schema.fieldOr, firm.held holds, firm.faithful value, within_valid]

/-- What is left out is missing, and so is what it is taken for. -/
theorem Firm.optional {value : Option α} (firm : Firm write read)
    (holds : style.Holds entries key (ofOption write value)) :
    Schema.fieldOr entries key (nullable read) none = .valid value := by
  have reads := nullable_faithful firm value
  rw [Style.Holds] at holds
  split at holds
  · rename_i omitted
    have absent : value = none := by
      cases value with
      | none => rfl
      | some value => simp [Style.omits, ofOption, firm.given] at omitted
    simp only [Schema.fieldOr, holds, absent]
  · simp only [Schema.fieldOr, holds, reads, within_valid]

/-- An object is read by its fields. -/
theorem object_read {reading : Expects α} {fields : List (Key × Json)}
    (apart : (fields.map Prod.fst).Pairwise Key.Apart)
    (reads : ∀ entries, (∀ field ∈ fields, style.Holds entries field.1 field.2) →
      reading (.obj entries) = .valid value) : reading (style.object fields) = .valid value := by
  rw [Style.object_eq]
  exact reads _ (Style.holds_entries apart)

theorem object_firm {fields : α → List (Key × Json)} {check : List (String × Json) → Checked α}
    (written : ∀ value, write value = style.object (fields value))
    (apart : ∀ value, ((fields value).map Prod.fst).Pairwise Key.Apart)
    (reads : ∀ value entries, (∀ field ∈ fields value, style.Holds entries field.1 field.2) →
      check entries = .valid value) : Firm write (model check) := by
  constructor
  · intro value
    rw [written]
    exact object_read (apart value) fun entries holds => reads value entries holds
  · intro value
    rw [written]
    rfl

end

end Schema

open Schema

variable {style : Style}

@[simp] theorem Rating.ofWord?_word (rating : Rating) :
    Rating.ofWord? rating.word = some rating := by
  cases rating <;> rfl

theorem HistoryEntry.firm : Firm (HistoryEntry.toJson style) HistoryEntry.ofJson := by
  refine object_firm (fun _ => rfl) (fun _ => ?_) fun entry entries holds => ?_
  · simp only [List.map_cons, List.map_nil]
    decide
  simp only [List.forall_mem_cons] at holds
  obtain ⟨sceneId, nodeId, choiceId, -⟩ := holds
  rw [textual_firm.field sceneId, textual_firm.field nodeId,
    textual_firm.optional choiceId]
  rfl

theorem FeedbackEntry.firm : Firm (FeedbackEntry.toJson style) FeedbackEntry.ofJson := by
  refine object_firm (fun _ => rfl) (fun _ => ?_) fun entry entries holds => ?_
  · simp only [List.map_cons, List.map_nil]
    decide
  simp only [List.forall_mem_cons] at holds
  obtain ⟨nodeId, sceneId, userInput, evaluation, rating, context, -⟩ := holds
  rw [textual_firm.field nodeId, textual_firm.field sceneId,
    textual_firm.field userInput, textual_firm.field evaluation,
    (among_firm Rating.ofWord?_word).field rating, textual_firm.field context]
  rfl

theorem GameState.firm : Firm (GameState.toJson style) GameState.ofJson := by
  refine object_firm (fun _ => rfl) (fun _ => ?_) fun state entries holds => ?_
  · simp only [List.map_cons, List.map_nil]
    decide
  simp only [List.forall_mem_cons] at holds
  obtain ⟨currentSceneId, currentNodeId, vars, history, userName, gameStarted, feedback,
    showFeedbackScreen, -⟩ := holds
  rw [textual_firm.field currentSceneId, textual_firm.field currentNodeId,
    (named_firm scalar_firm).fieldOr vars,
    (list_firm HistoryEntry.firm).fieldOr history, textual_firm.fieldOr userName,
    boolean_firm.fieldOr gameStarted, (list_firm FeedbackEntry.firm).fieldOr feedback,
    boolean_firm.fieldOr showFeedbackScreen]
  rfl

/-- A state that has been written down reads back as itself. -/
theorem GameState.faithful : Faithful (GameState.toJson style) GameState.ofJson :=
  GameState.firm.faithful

/-- A playback that has been written down is taken up again as it was. -/
theorem Playback.ofFields_toJson (playback : Playback) :
    ∃ fields, playback.toJson = .obj fields ∧ ofFields fields = .ok playback := by
  refine ⟨_, rfl, ?_⟩
  simp only [ofFields, Json.lookup?, String.reduceEq, ↓reduceIte, Volume.read_level,
    Option.getD_some]
  rfl

end VisualNovel
