import VisualNovel.LanguageModel.Connection
import VisualNovel.Proofs.Attempts

/-! What a backend may answer without stopping a grade. Whatever else comes of a request, a caller
is only unprepared for a completion that is no text, for a document beyond the depth limit and for
failures that connections do not have. A grade that meets none of these, and no text beyond what can
be read, always has a result. -/
namespace VisualNovel

/-- What a caller of a connection is prepared for: a text, or a failure of the connection. -/
def Reply.IsForeseen : Reply → Prop
  | .text _ | .failed _ => True
  | .document _ | .unconfigured _ | .timedOut | .broken _ => False

/-! ## Where a completion stands -/

/-- The key under which an answer lists its alternatives, in the formats that have them. -/
def WireFormat.alternatives? : WireFormat → Option String
  | .gemini => none
  | .openai => some "choices"
  | .koboldcpp => some "results"

/-- A completion stands in an answer where its wire format has it. -/
inductive WireFormat.Completes (answer : Json) : WireFormat → Json → Prop
  | candidate {candidate content part completion : Json} {candidates parts : List Json}
    (found : answer.get? "candidates" = some (.arr (candidate :: candidates)))
    (holds : candidate.get? "content" = some content)
    (consists : content.get? "parts" = some (.arr (part :: parts)))
    (reads : part.get? "text" = some completion) : Completes answer .gemini completion
  | alternative {format : WireFormat} {key : String} {first completion : Json} {others : List Json}
    (listed : format.alternatives? = some key)
    (found : answer.get? key = some (.arr (first :: others)))
    (reads : first.get? "text" = some completion) : Completes answer format completion

namespace Connection

variable {connection : Connection} {answer completion : Json}

theorem first?_eq_some {items item : Json} :
    first? items = some item ↔ ∃ others, items = .arr (item :: others) := by
  cases items with
  | arr items => cases items <;> simp [first?]
  | null | bool | int | float | str | obj => simp [first?]

theorem candidateText?_eq_some :
    candidateText? answer = some completion ↔ WireFormat.gemini.Completes answer completion := by
  constructor
  · intro found
    simp only [candidateText?, Option.bind_eq_bind, Option.bind_eq_some_iff,
      first?_eq_some] at found
    obtain ⟨_, listed, candidate, ⟨_, rfl⟩, content, holds, _, consists, part, ⟨_, rfl⟩, reads⟩ :=
      found
    exact .candidate listed holds consists reads
  · intro completes
    cases completes with
    | candidate found holds consists reads =>
      simp [candidateText?, found, holds, consists, reads, first?]
    | alternative listed => cases listed

theorem alternativeText_eq_ok {backend : String} {alternative : Json} :
    alternativeText backend alternative = .ok completion ↔
      alternative.get? "text" = some completion := by
  cases alternative with
  | obj fields => exact Outcome.needed_eq_ok
  | null | bool | int | float | str | arr => simp [alternativeText, Json.get?]

theorem firstAlternative_eq_ok {key backend : String} :
    firstAlternative key backend answer = .ok completion ↔
      ∃ alternative others, answer.get? key = some (.arr (alternative :: others)) ∧
        alternative.get? "text" = some completion := by
  cases answer with
  | obj fields =>
    rw [firstAlternative, Json.get?]
    cases found : Json.lookup? key fields with
    | none => simp [Json.truthy]
    | some alternatives =>
      cases alternatives with
      | arr items => cases items <;> simp [Json.truthy, alternativeText_eq_ok]
      | str text =>
        by_cases given : text = "" <;> simp [Json.truthy, given, alternativeText_eq_ok, Json.get?]
      | null | bool | int | float | obj => simp; split <;> nofun
  | null | bool | int | float | str | arr => simp [firstAlternative, Json.get?]

theorem completes_alternative {format : WireFormat} {key : String}
    (listed : format.alternatives? = some key) :
    format.Completes answer completion ↔
      ∃ first others, answer.get? key = some (.arr (first :: others)) ∧
        first.get? "text" = some completion := by
  constructor
  · intro completes
    cases completes with
    | candidate => cases listed
    | alternative listed' found reads =>
      cases listed.symm.trans listed'
      exact ⟨_, _, found, reads⟩
  · rintro ⟨first, others, found, reads⟩
    exact .alternative listed found reads

/-- A connection takes the completion that an answer holds. Where there is none, one of the formats
makes do with the text of an empty object. -/
theorem completion_eq_ok : connection.completion answer = .ok completion ↔
    connection.wireFormat.Completes answer completion ∨
      completion = .str "\x7b\x7d" ∧ connection.wireFormat = .gemini ∧
        ∀ other, ¬ connection.wireFormat.Completes answer other := by
  rw [Connection.completion]
  cases connection.wireFormat with
  | gemini =>
    simp only [← candidateText?_eq_some, Except.ok.injEq, true_and]
    cases candidateText? answer with
    | none => simp [eq_comm]
    | some found => simp
  | openai =>
    have listed : WireFormat.openai.alternatives? = some "choices" := rfl
    simp [firstAlternative_eq_ok, completes_alternative listed]
  | koboldcpp =>
    have listed : WireFormat.koboldcpp.alternatives? = some "results" := rfl
    simp [firstAlternative_eq_ok, completes_alternative listed]

end Connection

/-! ## What comes of a request -/

/-- A caller is prepared for what comes of a request, by the format in which it is read: the
connection fails in a way of its own, or the answer is no deeper than can be read and has no
completion but a text. -/
def Exchange.IsProper (format : WireFormat) : Exchange → Prop
  | .answered status body => isSuccess status = true →
    (∀ error, body.read = .error error → error.cause ≠ .tooDeep) ∧
      ∀ answer, body.read = .ok answer → ∀ completion, format.Completes answer completion →
        ∃ text, completion = .str text
  | .noConnection | .timedOut | .failed _ _ => True
  | .foreign _ => False

/-- A grader can read every text that an answer has for its completion, or can say where it breaks
the grammar. -/
def Exchange.IsLegible (format : WireFormat) : Exchange → Prop
  | .answered status body => isSuccess status = true →
    ∀ answer, body.read = .ok answer → ∀ text, format.Completes answer (.str text) →
      (Reply.text text).IsOrdinary
  | .noConnection | .timedOut | .failed _ _ | .foreign _ => True

namespace Connection

variable {connection : Connection} {exchange : Exchange} {text : String}

theorem replyOf_isForeseen {completion : Json} :
    (replyOf completion).IsForeseen ↔ ∃ text, completion = .str text := by
  cases completion <;> simp [replyOf, Reply.IsForeseen]

theorem replyOf_eq_text {completion : Json} :
    replyOf completion = .text text ↔ completion = .str text := by
  cases completion <;> simp [replyOf]

/-- A caller foresees the reply to a success with a document if each completion is a text. -/
theorem reply_document_isForeseen {status : Int} {body : Body} {answer : Json}
    (success : isSuccess status = true) (read : body.read = .ok answer) :
    (connection.reply (.answered status body)).IsForeseen ↔
      ∀ completion, connection.wireFormat.Completes answer completion →
        ∃ text, completion = .str text := by
  simp only [reply, success, if_true, read]
  cases completed : connection.completion answer with
  | error why =>
    refine iff_of_true trivial fun completion completes => ?_
    cases completed.symm.trans (completion_eq_ok.mpr (.inl completes))
  | ok completion =>
    refine replyOf_isForeseen.trans ⟨fun ⟨text, said⟩ other completes => ?_, fun textual => ?_⟩
    · cases completed.symm.trans (completion_eq_ok.mpr (.inl completes))
      exact ⟨text, said⟩
    · rcases completion_eq_ok.mp completed with completes | ⟨said, _⟩
      · exact textual completion completes
      · exact ⟨_, said⟩

/-- A caller foresees the reply exactly if it is prepared for what comes of the request. -/
theorem reply_isForeseen :
    (connection.reply exchange).IsForeseen ↔ exchange.IsProper connection.wireFormat := by
  cases exchange with
  | answered status body =>
    by_cases success : isSuccess status = true
    · cases read : body.read with
      | error error =>
        by_cases deep : error.cause = .tooDeep <;>
          simp [reply, Reply.IsForeseen, Exchange.IsProper, success, read, deep]
      | ok answer =>
        simp [reply_document_isForeseen success read, Exchange.IsProper, success, read]
    · simp [reply, success, Exchange.IsProper, Reply.IsForeseen]
  | noConnection | timedOut | failed => exact iff_of_true trivial trivial
  | foreign kind => exact Iff.rfl

/-- A text comes out of a document that holds it, or stands for nothing. -/
theorem reply_text_cases {raw : String} (replied : connection.reply exchange = .text raw) :
    ∃ status body answer, exchange = .answered status body ∧ isSuccess status = true ∧
      body.read = .ok answer ∧
        (connection.wireFormat.Completes answer (.str raw) ∨ raw = "\x7b\x7d") := by
  cases exchange with
  | answered status body =>
    by_cases success : isSuccess status = true
    · cases read : body.read with
      | error error =>
        by_cases deep : error.cause = .tooDeep <;> simp [reply, success, read, deep] at replied
      | ok answer =>
        refine ⟨status, body, answer, rfl, success, read, ?_⟩
        simp only [reply, success, if_true, read] at replied
        cases completed : connection.completion answer with
        | error why => simp [completed] at replied
        | ok completion =>
          rw [completed] at replied
          rcases completion_eq_ok.mp completed with completes | ⟨rfl, _⟩
          · exact .inl (replyOf_eq_text.mp replied ▸ completes)
          · cases replied
            exact .inr rfl
    · simp [reply, success] at replied
  | noConnection | timedOut | failed | foreign => cases replied

/-- What the backend says legibly can be graded, and so can the text that stands for nothing. -/
theorem reply_isOrdinary (proper : exchange.IsProper connection.wireFormat)
    (legible : exchange.IsLegible connection.wireFormat) :
    (connection.reply exchange).IsOrdinary := by
  have foreseen := reply_isForeseen.mpr proper
  cases replied : connection.reply exchange with
  | text raw =>
    obtain ⟨status, body, answer, rfl, success, read, completes | rfl⟩ := reply_text_cases replied
    · exact legible success answer read raw completes
    · decide +kernel
  | failed why => trivial
  | document | unconfigured | timedOut | broken => exact (replied ▸ foreseen).elim

end Connection

/-! ## What a grade comes to -/

namespace Grader

/-- With a model that only says what is foreseen and ordinary, the attempts that remain come to a
result. -/
theorem attempt_returns {Model : Type} {question : Question}
    {reply : String → Model → Reply × Model} (usable : question.limit.IsUsable)
    (foreseen : ∀ prompt model, (reply prompt model).1.IsForeseen)
    (ordinary : ∀ prompt model, (reply prompt model).1.IsOrdinary) :
    ∀ remaining evidence model, ∃ result later,
      (attempt question remaining evidence).run reply model = (.ok result, later)
  | 0, _, _ => ⟨_, _, rfl⟩
  | remaining + 1, evidence, model => by
    cases lasts : question.limit.hasPassed with
    | true =>
      have skipped : attempt question (remaining + 1) evidence =
          attempt question remaining { evidence with error := question.limit.message } :=
        (if_neg usable.comparable).trans (if_pos lasts)
      rw [skipped]
      exact attempt_returns usable foreseen ordinary remaining _ model
    | false =>
      rcases asked : reply (question.promptAfter evidence) model with ⟨answered, later⟩
      have awaited : answered.IsForeseen := by
        simpa only [asked] using foreseen (question.promptAfter evidence) model
      have readable : answered.IsOrdinary := by
        simpa only [asked] using ordinary (question.promptAfter evidence) model
      rcases run_attempt remaining usable lasts asked readable with
        ⟨outcome, concludes, came⟩ | ⟨_, came⟩
      · cases concludes with
        | answered read => exact ⟨_, _, came⟩
        | unconfigured => exact awaited.elim
      · rw [came]
        exact attempt_returns usable foreseen ordinary remaining _ later

end Grader

namespace Connection

variable {connection : Connection}

/-- A connection that has the key it needs. -/
def HasKey (connection : Connection) : Prop :=
  connection.wireFormat = .gemini → connection.apiKey.truthy = true

theorem HasKey.request? (key : connection.HasKey) (prompt : Json) :
    ∃ request, connection.request? prompt = some request := by
  refine Option.isSome_iff_exists.mp ?_
  cases format : connection.wireFormat with
  | gemini => simp [Connection.request?, format, key format]
  | openai | koboldcpp => simp [Connection.request?, format]

/-- A connection that has its key sends every prompt. -/
theorem HasKey.ask {Network : Type} (key : connection.HasKey)
    (send : Request → Network → Exchange × Network) (prompt : String) (network : Network) :
    ∃ request, connection.request? (.str prompt) = some request ∧
      (connection.ask send prompt network).1 = connection.reply (send request network).1 := by
  obtain ⟨request, requested⟩ := key.request? (.str prompt)
  exact ⟨request, requested, by simp [Connection.ask, askWith, requested, isMeasurable]⟩

/-- A caller of a connection that has its key foresees exactly what it is prepared for, and a grade
has a result whenever all that comes of its requests is proper and legible. -/
theorem proper_answers_are_graded (key : connection.HasKey) :
    (∀ {Network : Type} (send : Request → Network → Exchange × Network) (prompt : String)
        (network : Network), ∃ request, connection.request? (.str prompt) = some request ∧
          ((connection.ask send prompt network).1.IsForeseen ↔
            (send request network).1.IsProper connection.wireFormat)) ∧
      ∀ {Network : Type} (send : Request → Network → Exchange × Network) (network : Network)
        (grader : Grader) (most : Int) (userInput context : String)
        (allowedEmotions : List String),
        (∀ request network, (send request network).1.IsProper connection.wireFormat ∧
          (send request network).1.IsLegible connection.wireFormat) →
        grader.maxAttempts = some most → grader.limit.IsUsable → userInput ≠ "" →
          ∃ result later, (grader.grade userInput context allowedEmotions).run
            (connection.ask send) network = (.ok result, later) := by
  refine ⟨fun send prompt network => ?_, fun send network grader most userInput context
    allowedEmotions answers countable usable given => ?_⟩
  · obtain ⟨request, requested, asked⟩ := key.ask send prompt network
    exact ⟨request, requested, asked ▸ reply_isForeseen⟩
  · have foreseen prompt network : (connection.ask send prompt network).1.IsForeseen := by
      obtain ⟨request, _, asked⟩ := key.ask send prompt network
      rw [asked]
      exact reply_isForeseen.mpr (answers request network).1
    have ordinary prompt network : (connection.ask send prompt network).1.IsOrdinary := by
      obtain ⟨request, _, asked⟩ := key.ask send prompt network
      rw [asked]
      exact reply_isOrdinary (answers request network).1 (answers request network).2
    rw [Grader.grade, if_neg given, Grader.gradeBy, countable]
    exact Grader.attempt_returns usable foreseen ordinary _ _ network

/-- A network on which every request is answered alike. -/
def answering (answer : Json) (_ : Request) (network : Unit) : Exchange × Unit :=
  (.answered 200 (.document answer), network)

/-- An answer in the last format. -/
def resultWith (completion : Json) : Json := .obj [("results", .arr [.obj [("text", completion)]])]

/-- A connection in the last format. -/
def plain : Connection := { standard with format := .str "koboldcpp" }

theorem refusal_is_graded :
    ∃ result later, (Grader.standard.grade "Hi" "A cat." ["happy"]).run
      (plain.ask (answering (resultWith (.str "no")))) () = (.ok result, later) := by
  have key : plain.HasKey := nofun
  have only (completion : Json)
      (completes : WireFormat.koboldcpp.Completes (resultWith (.str "no")) completion) :
      completion = .str "no" := by
    obtain ⟨_, _, found, reads⟩ := (completes_alternative rfl).mp completes
    cases found
    exact (Option.some.inj reads).symm
  have proper : Exchange.IsProper .koboldcpp
      (.answered 200 (.document (resultWith (.str "no")))) := fun _ =>
    ⟨nofun, fun _ read completion completes => by
      cases read
      exact ⟨_, only completion completes⟩⟩
  have legible : Exchange.IsLegible .koboldcpp
      (.answered 200 (.document (resultWith (.str "no")))) := fun _ _ read text completes => by
    cases read
    cases only _ completes
    decide +kernel
  exact (proper_answers_are_graded key).2 _ () Grader.standard 3 "Hi" "A cat." ["happy"]
    (fun _ _ => ⟨proper, legible⟩) rfl ⟨nofun, rfl⟩ (by decide)

/-- A completion that is a number is not foreseen, and stops the grade at its first attempt. -/
theorem number_stops_a_grade :
    ¬ (plain.ask (answering (resultWith (.int 5))) "Hi" ()).1.IsForeseen ∧
      ¬ ∃ result later, (Grader.standard.grade "Hi" "A cat." ["happy"]).run
        (plain.ask (answering (resultWith (.int 5)))) () = (.ok result, later) := by
  refine ⟨id, fun ⟨result, later, came⟩ => ?_⟩
  have stopped : ((Grader.standard.grade "Hi" "A cat." ["happy"]).run
      (plain.ask (answering (resultWith (.int 5)))) ()).1.toOption.isNone = true := by
    decide +kernel
  rw [came] at stopped
  cases stopped

end Connection

end VisualNovel
