import VisualNovel.Proofs.Forms
import VisualNovel.Server.Serve

/-! What the prompts say. Each is the text of a template with its holes filled, and every hole takes
a text as it is: the prompt that asks again holds the whole first prompt, tags that the player has
written included. The prompt for recommendations repeats one block of text for every graded
response, in the order in which they were graded, and then counts them by their ratings. -/
namespace VisualNovel

namespace Prompt

/-! ## Forms without blocks -/

/-- The document that gives each name its text. -/
def texts (values : List (String × String)) : Json :=
  .obj (values.map fun (name, text) => (name, .str text))

/-- The text that stands for a name. -/
def textOf (values : List (String × String)) (name : String) : String :=
  (values.lookup name).getD ""

namespace Form

/-- Whether a form is a text with holes, without any block. -/
def isFlat (form : Form) : Bool :=
  form.all fun
    | .literal _ | .hole _ => true
    | _ => false

/-- The names of the holes in such a form. -/
def holes (form : Form) : List String :=
  form.filterMap fun
    | .hole name => some name
    | _ => none

variable {form : Form} {values : List (String × String)} {name : String}

theorem get?_texts (values : List (String × String)) (name : String) :
    (texts values).get? name = (values.lookup name).map Json.str := by
  simp only [texts, Json.get?]
  induction values with
  | nil => rfl
  | cons first rest ih =>
    obtain ⟨key, text⟩ := first
    by_cases same : key = name
    · simp [Json.lookup?, same]
    · simp [Json.lookup?, List.lookup_cons, same, beq_eq_false_iff_ne.mpr (Ne.symm same), ih]

theorem lookup_of_named (named : name ∈ values.map Prod.fst) :
    values.lookup name = some (textOf values name) := by
  obtain ⟨⟨key, text⟩, among, rfl⟩ := List.mem_map.mp named
  have found : (values.lookup key).isSome = true :=
    List.lookup_isSome_iff.mpr ⟨_, among, beq_self_eq_true _⟩
  obtain ⟨text, found⟩ := Option.isSome_iff_exists.mp found
  rw [textOf, found, Option.getD_some]

theorem valueOf_texts (named : name ∈ values.map Prod.fst) :
    valueOf name (texts values) = .str (textOf values name) := by
  rw [valueOf, get?_texts, lookup_of_named named]
  rfl

/-- Texts for all holes are all that a form without blocks asks for. -/
theorem fits_texts (flat : form.isFlat = true) (fields : ∀ name ∈ form.holes, IsFieldName name)
    (named : ∀ name ∈ form.holes, name ∈ values.map Prod.fst) : Fits (texts values) form := by
  induction form with
  | nil => trivial
  | cons piece rest ih =>
    cases piece with
    | literal text => exact ⟨trivial, ih flat fields named⟩
    | hole name =>
      refine ⟨⟨fields name (.head _), ?_⟩, ih flat (fun other among => fields other (.tail _ among))
        fun other among => named other (.tail _ among)⟩
      rw [get?_texts, lookup_of_named (named name (.head _))]
      rfl
    | given | each => cases flat

/-- Each hole is filled with its text. -/
theorem fill_texts (flat : form.isFlat = true)
    (named : ∀ name ∈ form.holes, name ∈ values.map Prod.fst) :
    fill (texts values) form = form.write fun name => (textOf values name).toList := by
  induction form with
  | nil => rfl
  | cons piece rest ih =>
    cases piece with
    | literal text => rw [fill, fillPiece, write, writePiece, ih flat named]
    | hole name =>
      rw [fill, fillPiece, write, writePiece, valueOf_texts (named name (.head _)),
        ih flat fun other among => named other (.tail _ among)]
      rfl
    | given | each => cases flat

end Form

/-- A prompt is what comes of a template's text, and differs from it in what stands in the holes
alone. -/
structure Verbatim (form : Form) (values : List (String × String)) (prompt : String) : Prop where
  /-- There is a text for each hole, and for nothing else. -/
  holes : form.holes = values.map Prod.fst
  /-- The template, which has been read before it is filled, gives the prompt. -/
  expanded : Template.expand? form.source (texts values) = some prompt
  /-- The prompt has the text of each hole where the template has a tag. -/
  written : prompt.toList = form.write fun name => (textOf values name).toList

/-- A form without blocks becomes its text with the texts of the holes in it. -/
theorem verbatim_of_flat {form : Form} {values : List (String × String)} (among : form ∈ forms)
    (flat : form.isFlat = true) (fields : ∀ name ∈ form.holes, Form.IsFieldName name)
    (holes : form.holes = values.map Prod.fst) :
    Verbatim form values (form.render (texts values)) where
  holes := holes
  expanded := expand?_source among (Form.fits_texts flat fields fun _ => (holes ▸ ·))
  written := by
    rw [Form.render, String.toList_ofList, Form.fill_texts flat fun _ => (holes ▸ ·)]

/-- The prompts of grading show the texts that they are about as they are. -/
theorem prompts_show_texts_verbatim (context userInput previous error : String)
    (allowedEmotions : List String) :
    Verbatim gradingForm
      [("context", if context = "" then defaultContext else context),
        ("user_input", userInput),
        ("emotions", ", ".intercalate
          ((if allowedEmotions = [] then defaultEmotions else allowedEmotions).map
            fun emotion => "\"" ++ emotion ++ "\""))]
      (grading userInput context allowedEmotions) ∧
    Verbatim retryForm
      [("previous", previous), ("error", if error = "" then defaultError else error),
        ("prompt", grading userInput context allowedEmotions)]
      (retry (grading userInput context allowedEmotions) previous error) := by
  have emotions : (if allowedEmotions = [] then defaultEmotions else allowedEmotions) =
      if allowedEmotions.isEmpty then defaultEmotions else allowedEmotions := by
    cases allowedEmotions <;> rfl
  constructor
  · rw [emotions]
    exact verbatim_of_flat (.head _) rfl (by decide) rfl
  · exact verbatim_of_flat (.tail _ (.head _)) rfl (by decide) rfl

end Prompt

/-! ## Recommendations -/

namespace FeedbackSummary

/-- Every entry is counted under one rating. -/
theorem counts_add_up (entries : List FeedbackEntry) :
    count entries .good + count entries .neutral + count entries .bad = entries.length := by
  induction entries with
  | nil => rfl
  | cons entry rest ih =>
    simp only [count, List.countP_cons, List.length_cons] at ih ⊢
    cases entry.rating <;> simp <;> omega

end FeedbackSummary

namespace FinishedGame

open Prompt

variable {game : FinishedGame}

/-- What the prompt says before it comes to the responses. -/
def heading (title playerName : String) : String :=
  "You are a helpful guide for a visual novel game" ++
    (if title = "" then "" else " called \"" ++ title ++ "\"") ++ ".\n\nThe player \"" ++
    playerName ++ "\" has just finished playing the game.\n\n" ++
    "Here is a summary of their interactions throughout the game:\n\n"

/-- The block of a graded response. -/
def interaction (number : Nat) (entry : FeedbackEntry) : String :=
  "Interaction " ++ toString number ++ ":\n- Situation: " ++ entry.context ++
    "\n- Player's response: \"" ++ entry.userInput ++ "\"\n- Evaluation: " ++ entry.evaluation ++
    "\n- Rating: " ++ entry.rating.word ++ "\n\n"

/-- The counts of the ratings. -/
def tally (good neutral bad : Nat) : String :=
  "Rating Summary:\n- Good responses: " ++ toString good ++ "\n- Neutral responses: " ++
    toString neutral ++ "\n- Bad responses: " ++ toString bad ++ "\n- Final score: "

/-- What the form of a block takes from an entry. -/
def entryTexts (number : Nat) (entry : FeedbackEntry) : List (String × String) :=
  [("node_id", entry.nodeId), ("scene_id", entry.sceneId), ("user_input", entry.userInput),
    ("evaluation", entry.evaluation), ("rating", entry.rating.word), ("context", entry.context),
    ("number", toString number)]

theorem numbered_entries (entries : List FeedbackEntry) :
    numbered (entries.map fun entry => fieldsOf (entry.toJson .plain)) =
      entries.mapIdx fun index entry => texts (entryTexts (index + 1) entry) := by
  rw [numbered, List.mapIdx_eq_zipIdx_map, List.zipIdx_map, List.map_map,
    List.mapIdx_eq_zipIdx_map]
  rfl

theorem entry_named (number : Nat) (entry : FeedbackEntry) :
    ∀ name ∈ interactionForm.holes, name ∈ (entryTexts number entry).map Prod.fst := by
  simp only [entryTexts, List.map_cons, List.map_nil]
  decide

theorem fill_entry (number : Nat) (entry : FeedbackEntry) :
    Form.fill (texts (entryTexts number entry)) interactionForm =
      (interaction number entry).toList := by
  have told : textOf (entryTexts number entry) "number" = toString number ∧
      textOf (entryTexts number entry) "context" = entry.context ∧
      textOf (entryTexts number entry) "user_input" = entry.userInput ∧
      textOf (entryTexts number entry) "evaluation" = entry.evaluation ∧
      textOf (entryTexts number entry) "rating" = entry.rating.word := by
    simp [textOf, entryTexts, List.lookup_cons]
  rw [Form.fill_texts rfl (entry_named number entry)]
  delta interaction
  simp only [interactionForm, Form.write, Form.writePiece, told, String.toList_append,
    List.append_assoc, List.append_nil]

/-- What the form of the prompt takes from a game. -/
def report (game : FinishedGame) : Json :=
  .obj
    [("title", .str game.title), ("player_name", .str (orElse game.playerName unnamedPlayer)),
      ("entries", .arr (game.entries.mapIdx fun index entry =>
        texts (entryTexts (index + 1) entry))),
      ("good", .str (toString (FeedbackSummary.count game.entries .good))),
      ("neutral", .str (toString (FeedbackSummary.count game.entries .neutral))),
      ("bad", .str (toString (FeedbackSummary.count game.entries .bad))),
      ("final_score", .str ((game.finalScore.map Value.display).getD noScore))]

theorem prompt_eq_render (game : FinishedGame) :
    game.prompt = recommendationsForm.render game.report := by
  rw [report, ← numbered_entries]
  rfl

/-- The report has what the form of the prompt asks for, and so has each entry in it. -/
theorem fits_report (game : FinishedGame) : Form.Fits game.report recommendationsForm := by
  have inside : ∀ item ∈ game.entries.mapIdx fun index entry => texts (entryTexts (index + 1) entry),
      Form.Fits item interactionForm := by
    intro item among
    obtain ⟨index, within, rfl⟩ := List.mem_mapIdx.mp among
    exact Form.fits_texts rfl (by decide) (entry_named _ _)
  have fields : ∀ name ∈ ["title", "player_name", "entries", "good", "neutral", "bad",
      "final_score"], Form.IsFieldName name := by
    decide
  simp only [List.forall_mem_cons, List.not_mem_nil, false_implies, implies_true, and_true] at fields
  simp only [recommendationsForm, Form.Fits, Form.FitsPiece, fields, report, Json.get?, Json.lookup?,
    String.reduceEq, ↓reduceIte, Option.isSome_some, Option.some_inj, Json.arr.injEq, exists_eq_left',
    true_and, and_true]
  exact inside

/-! ### Filling, piece by piece -/

section

variable {document : Json} {name text : String} {items : List Json} {body rest : Form}

theorem fill_literal :
    Form.fill document (.literal text :: rest) = text.toList ++ Form.fill document rest := by
  rw [Form.fill, Form.fillPiece]

theorem fill_hole (found : document.get? name = some (.str text)) :
    Form.fill document (.hole name :: rest) = text.toList ++ Form.fill document rest := by
  rw [Form.fill, Form.fillPiece, Form.valueOf, found]
  rfl

theorem fill_given (found : document.get? name = some (.str text)) :
    Form.fill document (.given name body :: rest) =
      (if text = "" then [] else Form.fill document body) ++ Form.fill document rest := by
  rw [Form.fill, Form.fillPiece, Form.valueOf, found]
  by_cases empty : text = "" <;> simp [Json.truthy, empty]

theorem fill_each (found : document.get? name = some (.arr items)) :
    Form.fill document (.each name body :: rest) =
      (items.flatMap fun item => Form.fill item body) ++ Form.fill document rest := by
  rw [Form.fill, Form.fillPiece, Form.valueOf, found]
  rfl

end

/-- The request that the prompt ends with. -/
def request : String :=
  match recommendationsForm.getLast? with
  | some (.literal text) => text
  | _ => ""

/-- The prompt is the heading, the blocks of the log, and its counts, with the score and the request
behind them. -/
theorem prompt_toList (game : FinishedGame) :
    game.prompt.toList =
      (heading game.title (orElse game.playerName unnamedPlayer)).toList ++
        ((game.entries.mapIdx fun index entry => (interaction (index + 1) entry).toList).flatten ++
          ((tally (FeedbackSummary.count game.entries .good)
              (FeedbackSummary.count game.entries .neutral)
              (FeedbackSummary.count game.entries .bad)).toList ++
            (((game.finalScore.map Value.display).getD noScore).toList ++ request.toList))) := by
  have title : game.report.get? "title" = some (.str game.title) := rfl
  have player : game.report.get? "player_name" =
      some (.str (orElse game.playerName unnamedPlayer)) := rfl
  have entries : game.report.get? "entries" = some (.arr (game.entries.mapIdx fun index entry =>
      texts (entryTexts (index + 1) entry))) := rfl
  have good : game.report.get? "good" =
      some (.str (toString (FeedbackSummary.count game.entries .good))) := rfl
  have neutral : game.report.get? "neutral" =
      some (.str (toString (FeedbackSummary.count game.entries .neutral))) := rfl
  have bad : game.report.get? "bad" =
      some (.str (toString (FeedbackSummary.count game.entries .bad))) := rfl
  have score : game.report.get? "final_score" =
      some (.str ((game.finalScore.map Value.display).getD noScore)) := rfl
  have blocks : ((game.entries.mapIdx fun index entry =>
        texts (entryTexts (index + 1) entry)).flatMap fun item => Form.fill item interactionForm) =
      (game.entries.mapIdx fun index entry => (interaction (index + 1) entry).toList).flatten := by
    simp only [List.flatMap, List.mapIdx_eq_zipIdx_map, List.map_map, Function.comp_def, fill_entry]
  rw [prompt_eq_render, Form.render, String.toList_ofList]
  -- The pieces of the form are filled one after the other.
  rw [recommendationsForm, fill_literal, fill_given title, fill_literal, fill_hole title,
    fill_literal, fill_literal, fill_hole player, fill_literal, fill_each entries, blocks,
    fill_literal, fill_hole good, fill_literal, fill_hole neutral, fill_literal, fill_hole bad,
    fill_literal, fill_hole score, fill_literal, Form.fill]
  delta heading tally request recommendationsForm
  simp only [apply_ite String.toList, String.toList_append, String.toList_empty, List.append_assoc,
    List.append_nil, List.getLast?_cons_cons, List.getLast?_singleton]

/-- A prompt tells the whole log of a game. -/
structure Reports (game : FinishedGame) (prompt : String) : Prop where
  /-- The template, which has been read before it is filled, gives the prompt. -/
  expanded : Template.expand? recommendationsForm.source game.report = some prompt
  /-- Between the heading and the counts there is a block for each entry, in the order of the log,
  and nothing else. -/
  written : prompt = heading game.title (orElse game.playerName unnamedPlayer) ++
    String.join (game.entries.mapIdx fun index entry => interaction (index + 1) entry) ++
    tally (FeedbackSummary.count game.entries .good) (FeedbackSummary.count game.entries .neutral)
      (FeedbackSummary.count game.entries .bad) ++
    (game.finalScore.map Value.display).getD noScore ++ request
  /-- Every entry is in one of the counts. -/
  counted : FeedbackSummary.count game.entries .good + FeedbackSummary.count game.entries .neutral +
    FeedbackSummary.count game.entries .bad = game.entries.length

theorem prompt_reports (game : FinishedGame) : Reports game game.prompt where
  expanded := by
    rw [prompt_eq_render, expand?_source (.tail _ (.tail _ (.head _))) (fits_report game)]
  written := by
    apply String.toList_inj.mp
    have joined : (String.join (game.entries.mapIdx fun index entry =>
          interaction (index + 1) entry)).toList =
        (game.entries.mapIdx fun index entry => (interaction (index + 1) entry).toList).flatten := by
      simp only [String.toList_join, List.flatMap, List.mapIdx_eq_zipIdx_map, List.map_map,
        Function.comp_def]
    rw [prompt_toList, String.toList_append, String.toList_append, String.toList_append,
      String.toList_append, joined]
    simp only [List.append_assoc]
  counted := FeedbackSummary.counts_add_up game.entries

/-- A model together with a list of the prompts that it is given. -/
def noting {Model : Type} (reply : String → Model → Reply × Model) (prompt : String)
    (noted : List String × Model) : Reply × List String × Model :=
  let (answer, model) := reply prompt noted.2
  (answer, noted.1 ++ [prompt], model)

end FinishedGame

end VisualNovel
