import VisualNovel.Proofs.Attempts

/-! What a model is shown when it is asked again. The evidence has two halves that are kept apart:
the last answer and the last error. An attempt without an answer replaces the error alone. So a
prompt that shows an answer shows the complaint about it exactly as long as no attempt has failed
without an answer since; after that, it shows the answer next to what another attempt has failed
for. -/
namespace VisualNovel

/-- An attempt with this reply has failed for a reason, and another one may be made. -/
inductive Reply.Fails (limit : TimeLimit) : Reply → String → Prop
  | unusable {raw : String} {flaw : AnswerFlaw} (read : GradedAnswer.read raw = .error flaw)
      (within : flaw.limit? = none) : Fails limit (.text raw) flaw.message
  | failed {why : String} : Fails limit (.failed why) why
  | timedOut : Fails limit .timedOut limit.message

namespace Prompt

/-- A prompt that asks again says what the answer was, what was wrong, and what the question was. -/
theorem retry_toList (basePrompt previous error : String) :
    (retry basePrompt previous error).toList =
      "Your previous response was invalid JSON. Here was your response:\n\"".toList ++
        (previous.toList ++ ("\"\n\nError: ".toList ++
          ((orElse error defaultError).toList ++
            ("\n\nPlease try again. ".toList ++ basePrompt.toList)))) := by
  simp only [retry, filledRetry, Form.render, String.toList_ofList, retryForm, Form.fill,
    Form.fillPiece, Form.valueOf, Json.get?, Json.lookup?, String.reduceEq, ↓reduceIte,
    Option.getD_some, Form.filling, Json.display, List.append_nil]

/-- Next to the same answer, different errors are shown differently. -/
theorem retry_error_inj {basePrompt previous error other : String}
    (same : retry basePrompt previous error = retry basePrompt previous other) :
    orElse error defaultError = orElse other defaultError := by
  have chars := congrArg String.toList same
  rw [retry_toList, retry_toList, List.append_cancel_left_eq, List.append_cancel_left_eq,
    List.append_cancel_left_eq, List.append_cancel_right_eq] at chars
  exact String.toList_inj.mp chars

end Prompt

namespace Grader

variable {limit : TimeLimit} {question : Question} {replies : Nat → Reply} {reason : String}

-- What a text says is told from the reader's outcome alone.
attribute [local irreducible] GradedAnswer.read

/-! ## The evidence -/

/-- The error that is known is what the last attempt has failed for. -/
theorem evidenceAfter_error {last : Nat} (fails : (replies last).Fails limit reason) :
    (evidenceAfter limit replies (last + 1)).error = reason := by
  rw [evidenceAfter]
  generalize replies last = reply at fails
  cases fails with
  | unusable read within => simp only [Evidence.after, read]
  | failed | timedOut => rfl

/-- Unless nothing but empty texts has come, the last text is what one of the replies says, and no
reply after that one says anything. -/
theorem lastText_said (replies : Nat → Reply) (count : Nat) (shown : lastText replies count ≠ "") :
    ∃ earlier < count, replies earlier = .text (lastText replies count) ∧
      ∀ between, earlier < between → between < count → (replies between).text? = none := by
  induction count with
  | zero => exact absurd rfl shown
  | succ count ih =>
    have next : lastText replies (count + 1) =
        (replies count).text?.getD (lastText replies count) := by
      have raw := Evidence.after_raw .unlimited (evidenceAfter .unlimited replies count)
        (replies count)
      rwa [← evidenceAfter, evidenceAfter_raw, evidenceAfter_raw] at raw
    cases reply : replies count with
    | text raw =>
      have latest : lastText replies (count + 1) = raw := by rw [next, reply]; rfl
      refine ⟨count, Nat.lt_succ_self count, by rw [reply, latest], ?_⟩
      intro between after before
      omega
    | document | failed | unconfigured | timedOut | broken =>
      have silent : (replies count).text? = none := by rw [reply]; rfl
      have same : lastText replies (count + 1) = lastText replies count := by rw [next, silent]; rfl
      rw [same] at shown ⊢
      obtain ⟨earlier, before, said, quiet⟩ := ih shown
      refine ⟨earlier, Nat.lt_succ_of_lt before, said, ?_⟩
      intro between after within
      rcases Nat.lt_succ_iff_lt_or_eq.mp within with within | rfl
      · exact quiet between after within
      · exact silent

/-! ## The prompts -/

/-- Attempts that have run out of time before they begin ask nothing. -/
theorem attempt_passed {Model : Type} {reply : String → Model → Reply × Model}
    (passed : question.limit.hasPassed = true) (remaining : Nat) :
    ∀ (evidence : Evidence) (model : Model),
      ((attempt question remaining evidence).run reply model).2 = model := by
  induction remaining with
  | zero => exact fun _ _ => rfl
  | succ remaining ih =>
    intro evidence model
    rw [attempt]
    split
    · rfl
    · exact ih _ model

/-- An attempt asks nothing, or it is over once it has been answered, or it has failed and leaves the
evidence that comes after its answer to the others. -/
theorem attempt_step {Model : Type} {reply : String → Model → Reply × Model} {model later : Model}
    {answer : Reply} {evidence : Evidence} (remaining : Nat)
    (asked : reply (question.promptAfter evidence) model = (answer, later)) :
    ((attempt question (remaining + 1) evidence).run reply model).2 = model ∨
      ((attempt question (remaining + 1) evidence).run reply model).2 = later ∨
      ∃ reason, answer.Fails question.limit reason ∧
        (attempt question (remaining + 1) evidence).run reply model =
          (attempt question remaining (evidence.after question.limit answer)).run reply later := by
  by_cases passed : question.limit.hasPassed = true
  · exact .inl (attempt_passed passed _ _ _)
  rw [attempt]
  split
  · exact .inl rfl
  split
  · exact .inl rfl
  rw [Grading.run, asked]
  right
  cases answer with
  | failed why => exact .inr ⟨why, .failed, rfl⟩
  | timedOut => exact .inr ⟨_, .timedOut, rfl⟩
  | unconfigured | document | broken => exact .inl rfl
  | text raw =>
    cases read : GradedAnswer.read raw with
    | ok answer =>
      simp only [read]
      exact .inl rfl
    | error flaw =>
      cases within : flaw.limit? with
      | some error =>
        simp only [read, within]
        exact .inl rfl
      | none =>
        refine .inr ⟨_, .unusable read within, ?_⟩
        simp only [read, within, Evidence.after]

/-- The attempts that remain ask the prompts of a script in a row, each but the first after an
attempt that has failed. -/
theorem attempt_prompts (remaining : Nat) :
    ∀ count, (∀ earlier < count, ∃ reason, (replies earlier).Fails question.limit reason) →
      ∃ asked,
        ((attempt question remaining (evidenceAfter question.limit replies count)).run
          (scripted replies) (promptsOf question replies count)).2 =
            promptsOf question replies asked ∧
        ∀ earlier, earlier + 1 < asked →
          ∃ reason, (replies earlier).Fails question.limit reason := by
  -- By induction on the attempts that remain. An attempt that goes on leaves the evidence that the
  -- script gives for one reply more.
  induction remaining with
  | zero =>
    intro count failing
    exact ⟨count, rfl, fun earlier before => failing earlier (by omega)⟩
  | succ remaining ih =>
    intro count failing
    rcases attempt_step remaining (scripted_next question replies count) with
      passed | answered | ⟨reason, fails, goesOn⟩
    · exact ⟨count, passed, fun earlier before => failing earlier (by omega)⟩
    · exact ⟨count + 1, answered, fun earlier before => failing earlier (by omega)⟩
    · rw [goesOn]
      refine ih (count + 1) fun earlier before => ?_
      rcases Nat.lt_succ_iff_lt_or_eq.mp before with before | rfl
      · exact failing earlier before
      · exact ⟨reason, fails⟩

/-- A prompt is told from the replies before it, all of which have failed: it is the first one again
while the last text is empty, and else shows that text and the last error. -/
theorem grade_prompt {grader : Grader} {userInput context : String} {allowedEmotions : List String}
    {asked : Nat} {prompt : String}
    (sent : ((grader.grade userInput context allowedEmotions).run (scripted replies) []).2[asked]? =
      some prompt) :
    (∀ earlier < asked, ∃ reason, (replies earlier).Fails grader.limit reason) ∧
      prompt = if lastText replies asked = "" then Prompt.grading userInput context allowedEmotions
        else Prompt.retry (Prompt.grading userInput context allowedEmotions)
          (lastText replies asked) (evidenceAfter grader.limit replies asked).error := by
  rw [grade] at sent
  split at sent
  · cases sent
  rw [gradeBy] at sent
  split at sent
  · cases sent
  rename_i most _
  let question : Question :=
    ⟨userInput, Prompt.grading userInput context allowedEmotions, grader.limit, attempts most⟩
  obtain ⟨count, prompts, failing⟩ :=
    @attempt_prompts question replies question.attempts 0 (by simp)
  have prompts : ((attempt question question.attempts ⟨"", ""⟩).run (scripted replies) []).2 =
      promptsOf question replies count := prompts
  rw [prompts] at sent
  have within : asked < count := by
    have bound := (List.getElem?_eq_some_iff.mp sent).1
    rwa [length_promptsOf] at bound
  have said : prompt = question.promptAfter (evidenceAfter question.limit replies asked) := by
    simpa [promptsOf, within, eq_comm] using sent
  refine ⟨fun earlier before => failing earlier (by omega), ?_⟩
  rw [said, Question.promptAfter, evidenceAfter_raw]

/-- What a prompt goes by that shows an answer: a text that an earlier reply has said, and the
reason why the last attempt has failed. -/
structure Quotes (limit : TimeLimit) (replies : Nat → Reply) (asked earlier : Nat) (raw : String)
    (flaw : AnswerFlaw) (reason : String) : Prop where
  before : earlier < asked
  said : replies earlier = .text raw
  flawed : GradedAnswer.read raw = .error flaw
  /-- No reply since then has said anything. -/
  silent : ∀ between, earlier < between → between < asked → (replies between).text? = none
  latest : (replies (asked - 1)).Fails limit reason
  /-- The reason is the complaint about the text if the text has come last. -/
  matching : earlier + 1 = asked → reason = flaw.message

/-- After replies that have failed there is something to show, unless the last text is empty. -/
theorem quotes_of_shown {asked : Nat}
    (failing : ∀ earlier < asked, ∃ reason, (replies earlier).Fails limit reason)
    (shown : lastText replies asked ≠ "") :
    ∃ earlier flaw, Quotes limit replies asked earlier (lastText replies asked) flaw
      (evidenceAfter limit replies asked).error := by
  obtain ⟨earlier, before, said, silent⟩ := lastText_said replies asked shown
  obtain ⟨last, rfl⟩ : ∃ last, asked = last + 1 := ⟨asked - 1, by omega⟩
  obtain ⟨reason, latest⟩ := failing last (Nat.lt_succ_self last)
  obtain ⟨flaw, flawed⟩ :
      ∃ flaw, GradedAnswer.read (lastText replies (last + 1)) = .error flaw := by
    obtain ⟨complaint, fails⟩ := failing earlier before
    rw [said] at fails
    cases fails with
    | unusable read => exact ⟨_, read⟩
  rw [evidenceAfter_error latest]
  refine ⟨earlier, flaw, before, said, flawed, silent, latest, ?_⟩
  intro next
  obtain rfl : earlier = last := Nat.succ.inj next
  rw [said] at latest
  cases latest with
  | unusable read => rw [Except.error.inj (read.symm.trans flawed)]

/-- Whatever comes of the attempts, a prompt is the first one again as long as there is no answer to
show. Otherwise it shows the last answer, and next to it the complaint about that answer unless an
attempt without any answer has failed since. -/
theorem retries_show_the_latest_error (grader : Grader) (userInput context : String)
    (allowedEmotions : List String) (replies : Nat → Reply) (asked : Nat) (prompt : String)
    (sent : ((grader.grade userInput context allowedEmotions).run (scripted replies) []).2[asked]? =
      some prompt) :
    lastText replies asked = "" ∧ prompt = Prompt.grading userInput context allowedEmotions ∨
      ∃ earlier raw flaw reason, Quotes grader.limit replies asked earlier raw flaw reason ∧
        prompt = Prompt.retry (Prompt.grading userInput context allowedEmotions) raw reason := by
  obtain ⟨failing, said⟩ := grade_prompt sent
  by_cases shown : lastText replies asked = ""
  · exact .inl ⟨shown, by rw [said, if_pos shown]⟩
  · obtain ⟨earlier, flaw, quotes⟩ := quotes_of_shown failing shown
    exact .inr ⟨earlier, _, flaw, _, quotes, by rw [said, if_neg shown]⟩

/-- A model that says something of no use and then cannot be reached. -/
def faltering : Nat → Reply
  | 0 => .text "no"
  | _ => .failed "down"

/-- A third prompt is sent to it. -/
theorem faltering_prompted : ∃ prompt,
    ((standard.grade "Hi" "A cat." ["happy"]).run (scripted faltering) []).2[2]? = some prompt :=
  Option.isSome_iff_exists.mp (by decide +kernel)

/-- The third prompt shows what has been said, and next to it that nobody could be reached. -/
theorem faltering_is_shown_another_error :
    ∃ prompt,
      ((standard.grade "Hi" "A cat." ["happy"]).run (scripted faltering) []).2[2]? = some prompt ∧
        ∃ flaw, Quotes standard.limit faltering 2 0 "no" flaw "down" ∧
          prompt = Prompt.retry (Prompt.grading "Hi" "A cat." ["happy"]) "no" "down" := by
  obtain ⟨prompt, sent⟩ := faltering_prompted
  refine ⟨prompt, sent, ?_⟩
  rcases retries_show_the_latest_error standard "Hi" "A cat." ["happy"] faltering 2 prompt sent with
    ⟨nothing, _⟩ | ⟨earlier, raw, flaw, reason, quotes, retried⟩
  · exact absurd nothing (by decide)
  · obtain rfl : reason = "down" := by
      have latest : (Reply.failed "down").Fails standard.limit reason := quotes.latest
      cases latest
      rfl
    obtain rfl : earlier = 0 := by
      have before := quotes.before
      have said := quotes.said
      match earlier with
      | 0 => rfl
      | 1 => cases said
    cases quotes.said
    exact ⟨flaw, quotes, retried⟩

/-- What is said to be wrong with an answer, if anything is. -/
def complaint? (raw : String) : Option String :=
  match GradedAnswer.read raw with
  | .ok _ => none
  | .error flaw => some flaw.message

/-- An answer may be shown next to an error that is not about it. -/
theorem errors_may_be_about_something_else :
    ¬∀ (grader : Grader) (userInput context : String) (allowedEmotions : List String)
      (replies : Nat → Reply) (asked : Nat) (prompt : String),
      ((grader.grade userInput context allowedEmotions).run (scripted replies) []).2[asked]? =
          some prompt → lastText replies asked ≠ "" →
        ∃ earlier raw flaw, earlier < asked ∧ replies earlier = .text raw ∧
          GradedAnswer.read raw = .error flaw ∧
          prompt = Prompt.retry (Prompt.grading userInput context allowedEmotions) raw
            flaw.message := by
  intro matching
  obtain ⟨prompt, sent⟩ := faltering_prompted
  obtain ⟨_, shown⟩ := grade_prompt sent
  have text : lastText faltering 2 = "no" := by decide
  have error : (evidenceAfter standard.limit faltering 2).error = "down" :=
    evidenceAfter_error .failed
  rw [text, error, if_neg (by decide)] at shown
  obtain ⟨earlier, raw, flaw, before, said, flawed, matched⟩ :=
    matching _ _ _ _ _ 2 _ sent (by decide)
  match earlier, said with
  | 0, said =>
    cases said
    -- Of two errors that are shown next to the same answer, only one is about it.
    have same := Prompt.retry_error_inj (shown.symm.trans matched)
    have complaint : complaint? "no" =
        some "Invalid JSON: Expecting value: line 1 column 1 (char 0)" := by decide +kernel
    simp only [complaint?, flawed, Option.some_inj] at complaint
    rw [complaint] at same
    exact absurd same (by decide)
  | 1, said => cases said

end Grader

end VisualNovel
