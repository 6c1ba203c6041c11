import VisualNovel.Json.Equality
import VisualNovel.Json.Reader
import VisualNovel.Json.Writer
import VisualNovel.Proofs.Documents
import VisualNovel.Proofs.Outcomes

/-! Stories and playthroughs come back from the documents that they are written as, in whichever
style: with either kind of keys, and with or without the fields that hold nothing. Nothing is
different afterwards, not even the kind of a number, because a value is written as the one document
that is read as that value. -/
namespace VisualNovel

open Schema

variable {style : Style}

/-! ## Words -/

theorem Side.ofWord?_word (side : Side) : Side.ofWord? side.word = some side := by
  cases side <;> rfl

theorem Transition.ofWord?_word (transition : Transition) :
    Transition.ofWord? transition.word = some transition := by
  cases transition <;> rfl

theorem AudioKind.ofWord?_word (kind : AudioKind) : AudioKind.ofWord? kind.word = some kind := by
  cases kind <;> rfl

theorem InputKind.ofWord?_word (kind : InputKind) : InputKind.ofWord? kind.word = some kind := by
  cases kind <;> rfl

theorem NodeKind.ofWord?_word (kind : NodeKind) : NodeKind.ofWord? kind.word = some kind := by
  cases kind <;> rfl

/-! ## Parts of a story -/

theorem Character.firm : Firm (Character.toJson style) Character.ofJson := by
  refine object_firm (fun _ => rfl) (fun _ => ?_) fun character entries holds => ?_
  · simp only [List.map_cons, List.map_nil]
    decide
  simp only [List.forall_mem_cons] at holds
  obtain ⟨id, name, displayName, sprites, defaultExpression, position, nameColor, scale, -⟩ := holds
  rw [textual_firm.field id, textual_firm.fieldOr name,
    textual_firm.field displayName, (named_firm textual_firm).fieldOr sprites,
    textual_firm.fieldOr defaultExpression,
    (among_firm Side.ofWord?_word).optional position, textual_firm.optional nameColor,
    floating_firm.optional scale]
  rfl

theorem Background.firm : Firm (Background.toJson style) Background.ofJson := by
  refine object_firm (fun _ => rfl) (fun _ => ?_) fun background entries holds => ?_
  · simp only [List.map_cons, List.map_nil]
    decide
  simp only [List.forall_mem_cons] at holds
  obtain ⟨id, name, src, -⟩ := holds
  rw [textual_firm.field id, textual_firm.fieldOr name, textual_firm.field src]
  rfl

theorem Appearance.firm : Firm (Appearance.toJson style) Appearance.ofJson := by
  refine object_firm (fun _ => rfl) (fun _ => ?_) fun appearance entries holds => ?_
  · simp only [List.map_cons, List.map_nil]
    decide
  simp only [List.forall_mem_cons] at holds
  obtain ⟨characterId, position, expression, scale, offsetX, offsetY, -⟩ := holds
  rw [textual_firm.field characterId, (among_firm Side.ofWord?_word).fieldOr position,
    textual_firm.optional expression, floating_firm.optional scale,
    floating_firm.optional offsetX, floating_firm.optional offsetY]
  rfl

theorem AudioDirective.firm : Firm (AudioDirective.toJson style) AudioDirective.ofJson := by
  refine object_firm (fun _ => rfl) (fun _ => ?_) fun directive entries holds => ?_
  · simp only [List.map_cons, List.map_nil]
    decide
  simp only [List.forall_mem_cons] at holds
  obtain ⟨kind, src, loop, -⟩ := holds
  rw [(among_firm AudioKind.ofWord?_word).field kind, textual_firm.field src,
    boolean_firm.optional loop]
  rfl

theorem Condition.firm : Firm (Condition.toJson style) Condition.ofJson := by
  refine object_firm (fun _ => rfl) (fun _ => ?_) fun condition entries holds => ?_
  · simp only [List.map_cons, List.map_nil]
    decide
  simp only [List.forall_mem_cons] at holds
  obtain ⟨name, operator, value, -⟩ := holds
  rw [textual_firm.field name, textual_firm.fieldOr operator,
    scalar_firm.optional value]
  rfl

theorem Choice.firm : Firm (Choice.toJson style) Choice.ofJson := by
  refine object_firm (fun _ => rfl) (fun _ => ?_) fun choice entries holds => ?_
  · simp only [List.map_cons, List.map_nil]
    decide
  simp only [List.forall_mem_cons] at holds
  obtain ⟨id, text, nextNodeId, condition, setVariables, addVariables, -⟩ := holds
  rw [textual_firm.field id, textual_firm.field text, textual_firm.field nextNodeId,
    Condition.firm.optional condition, (named_firm scalar_firm).optional setVariables,
    (named_firm numeric_firm).optional addVariables]
  rfl

theorem InputConfig.firm : Firm (InputConfig.toJson style) InputConfig.ofJson := by
  refine object_firm (fun _ => rfl) (fun _ => ?_) fun config entries holds => ?_
  · simp only [List.map_cons, List.map_nil]
    decide
  simp only [List.forall_mem_cons] at holds
  obtain ⟨variableName, placeholder, minLength, maxLength, inputKind, validation,
    validationMessage, -⟩ := holds
  rw [textual_firm.field variableName, textual_firm.fieldOr placeholder,
    integer_firm.fieldOr minLength, integer_firm.fieldOr maxLength,
    (among_firm InputKind.ofWord?_word).fieldOr inputKind,
    textual_firm.optional validation, textual_firm.fieldOr validationMessage]
  rfl

theorem RatingConfig.firm : Firm (RatingConfig.toJson style) RatingConfig.ofJson := by
  refine object_firm (fun _ => rfl) (fun _ => ?_) fun config entries holds => ?_
  · simp only [List.map_cons, List.map_nil]
    decide
  simp only [List.forall_mem_cons] at holds
  obtain ⟨variableToModify, goodPoints, neutralPoints, badPoints, -⟩ := holds
  rw [textual_firm.field variableToModify,
    numeric_firm.fieldOr goodPoints,
    numeric_firm.fieldOr neutralPoints,
    numeric_firm.fieldOr badPoints]
  rfl

theorem GradedConfig.firm : Firm (GradedConfig.toJson style) GradedConfig.ofJson := by
  refine object_firm (fun _ => rfl) (fun _ => ?_) fun config entries holds => ?_
  · simp only [List.map_cons, List.map_nil]
    decide
  simp only [List.forall_mem_cons] at holds
  obtain ⟨userInputVariable, characterResponseVariable, emotionVariable, evaluationVariable,
    allowedEmotions, context, placeholder, minLength, maxLength, ratingConfig, -⟩ := holds
  rw [textual_firm.field userInputVariable, textual_firm.field characterResponseVariable,
    textual_firm.field emotionVariable, textual_firm.field evaluationVariable,
    (list_firm textual_firm).fieldOr allowedEmotions, textual_firm.fieldOr context,
    textual_firm.fieldOr placeholder, integer_firm.fieldOr minLength,
    integer_firm.fieldOr maxLength, RatingConfig.firm.optional ratingConfig]
  rfl

/-! ## Nodes -/

theorem exactly_firm (word : String) : Firm (fun _ : Unit => .str word) (exactly word) := by
  refine ⟨fun value => ?_, fun _ => rfl⟩
  simp [exactly, among]

/-- What a node asks of the player is read from the fields that its kind has. -/
theorem NodeBody.ofFields_held {body : NodeBody} {entries : List (String × Json)}
    (holds : ∀ field ∈ body.fields style, style.Holds entries field.1 field.2) :
    NodeBody.ofFields entries body.kind = .valid body := by
  cases body with
  | dialogue | narration | ending => rfl
  | choice choices =>
    have held := holds _ (List.mem_singleton_self _)
    simp only [kind, ofFields, (list_firm Choice.firm).fieldOr held, map_valid]
  | input config =>
    have held := holds _ (List.mem_singleton_self _)
    simp only [kind, ofFields, InputConfig.firm.field held, map_valid]
  | graded config =>
    have held := holds _ (List.mem_singleton_self _)
    simp only [kind, ofFields, GradedConfig.firm.field held, map_valid]

/-- A node keeps its kind, which is always written. -/
theorem Node.firm : Firm (Node.toJson style) Node.ofJson := by
  refine ⟨fun node => ?_, fun _ => rfl⟩
  refine object_read (by cases node.body <;> simp only [NodeBody.fields, List.cons_append,
    List.nil_append, List.map_cons, List.map_nil] <;> decide) fun entries holds => ?_
  simp only [List.cons_append, List.nil_append, List.forall_mem_cons] at holds
  obtain ⟨id, text, speakerName, characterId, expression, background, visibleCharacters, audio,
    setVariables, addVariables, nextNodeId, transition, kind, body⟩ := holds
  have tagged : Key.type.find? entries =
      some (style.nameOf .type, .str node.body.kind.word) := by
    simpa [Style.Holds, Style.omits, Style.isNull] using kind
  have typed : fieldOr entries .type (exactly node.body.kind.word) () = .valid () :=
    (exactly_firm _).fieldOr kind
  simp only [ofJson, tagged, NodeKind.ofWord?_word, ofFields]
  rw [textual_firm.field id, textual_firm.optional text,
    textual_firm.optional speakerName, textual_firm.optional characterId,
    textual_firm.optional expression, textual_firm.optional background,
    (list_firm Appearance.firm).fieldOr visibleCharacters,
    AudioDirective.firm.optional audio,
    (named_firm scalar_firm).optional setVariables,
    (named_firm numeric_firm).optional addVariables,
    textual_firm.optional nextNodeId,
    (among_firm Transition.ofWord?_word).optional transition,
    typed, NodeBody.ofFields_held body]
  rfl

theorem Scene.firm : Firm (Scene.toJson style) Scene.ofJson := by
  refine object_firm (fun _ => rfl) (fun _ => ?_) fun scene entries holds => ?_
  · simp only [List.map_cons, List.map_nil]
    decide
  simp only [List.forall_mem_cons] at holds
  obtain ⟨id, name, startNodeId, nodes, -⟩ := holds
  rw [textual_firm.field id, textual_firm.fieldOr name,
    textual_firm.field startNodeId, (list_firm Node.firm).fieldOr nodes]
  rfl

theorem Settings.firm : Firm (Settings.toJson style) Settings.ofJson := by
  refine object_firm (fun _ => rfl) (fun _ => ?_) fun settings entries holds => ?_
  · simp only [List.map_cons, List.map_nil]
    decide
  simp only [List.forall_mem_cons] at holds
  obtain ⟨askForName, nameInputTitle, nameInputPrompt, nameInputPlaceholder, nameMinLength,
    nameMaxLength, defaultPlayerName, defaultBgm, clickSfx, scoreVariable, -⟩ := holds
  simp only [standard]
  rw [boolean_firm.fieldOr askForName, textual_firm.optional nameInputTitle,
    textual_firm.fieldOr nameInputPrompt, textual_firm.fieldOr nameInputPlaceholder,
    integer_firm.fieldOr nameMinLength, integer_firm.fieldOr nameMaxLength,
    textual_firm.fieldOr defaultPlayerName, textual_firm.optional defaultBgm,
    textual_firm.optional clickSfx, textual_firm.fieldOr scoreVariable]
  rfl

theorem Story.firm : Firm (Story.toJson style) Story.ofJson := by
  refine object_firm (fun _ => rfl) (fun _ => ?_) fun story entries holds => ?_
  · simp only [List.map_cons, List.map_nil]
    decide
  simp only [List.forall_mem_cons] at holds
  obtain ⟨title, author, version, characters, backgrounds, scenes, startSceneId, vars, settings,
    -⟩ := holds
  rw [textual_firm.field title, textual_firm.optional author,
    textual_firm.optional version, (list_firm Character.firm).fieldOr characters,
    (list_firm Background.firm).fieldOr backgrounds,
    (list_firm Scene.firm).fieldOr scenes, textual_firm.field startSceneId,
    (named_firm scalar_firm).fieldOr vars, Settings.firm.fieldOr settings]
  rfl

/-- A story that has been written down reads back as itself. -/
theorem Story.faithful : Faithful (Story.toJson style) Story.ofJson := Story.firm.faithful

/-! ## By way of a text -/

/-- A scalar that is accepted is kept, whatever document it stands in: it is what its value is
written as. -/
theorem scalar_eq_valid {document : Json} {value : Value} :
    scalar document = .valid value ↔ value.toJson = document := by
  constructor
  · intro accepted
    cases document <;> cases accepted <;> rfl
  · rintro rfl
    exact scalar_firm.faithful value

/-- A document can be written as a text and read again. -/
def Json.ReadsBack (document : Json) : Prop := Json.read (Json.write document) = .ok document

instance (document : Json) : Decidable document.ReadsBack :=
  decidable_of_iff _ Outcome.toOption_eq_some

-- Every kind of scalar is told from the others by its text.
example : (Json.obj [("a", .bool true), ("b", .int (-7)), ("c", .float .unit),
    ("d", .float (.infinite true)), ("e", .str "7\n"), ("f", .null)]).ReadsBack := by
  decide +kernel

/-- A value comes back from its document in every style, and from the text of that document. -/
def ComesBack {α : Type} (write : Style → α → Json) (read : Expects α) (value : α) : Prop :=
  ∀ style, read (write style value) = .valid value ∧
    ((write style value).ReadsBack →
      (Json.read (Json.write (write style value))).map read = .ok (.valid value))

theorem comesBack_of_faithful {α : Type} {write : Style → α → Json} {read : Expects α}
    (faithful : ∀ style, Faithful (write style) read) (value : α) : ComesBack write read value := by
  intro style
  refine ⟨faithful style value, fun again => ?_⟩
  rw [Json.ReadsBack] at again
  rw [again, Except.map, faithful style value]

/-- Every story and every state comes back from what it is written as, and every value that a
variable is given in a document is kept as it stands there. -/
theorem documents_come_back :
    (∀ story : Story, ComesBack Story.toJson Story.ofJson story) ∧
      (∀ state : GameState, ComesBack GameState.toJson GameState.ofJson state) ∧
        ∀ document value, scalar document = .valid value ↔ value.toJson = document :=
  ⟨comesBack_of_faithful fun _ => Story.faithful,
    comesBack_of_faithful fun _ => GameState.faithful, fun _ _ => scalar_eq_valid⟩

end VisualNovel
