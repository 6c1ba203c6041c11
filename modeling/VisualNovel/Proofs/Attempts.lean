import VisualNovel.Grading.Grader
import VisualNovel.Json.Writer
import VisualNovel.Proofs.Outcomes

/-! How often a model is asked for a grade, and what comes of it. One attempt either concludes the
grading or leaves evidence for the next one. So a grading that is answered by a script asks until
the first conclusion in it, or as often as it may, and what it knows of the answers up to any
attempt can be told from the script alone. -/
namespace VisualNovel

/-- A reply that a grader is prepared for: no breakdown, and no answer beyond what can be read. -/
def Reply.IsOrdinary : Reply → Prop
  | .text raw => ∀ flaw, GradedAnswer.read raw = .error flaw → flaw.limit? = none
  | .failed _ | .timedOut | .unconfigured _ => True
  | .document _ | .broken _ => False

instance : DecidablePred Reply.IsOrdinary
  | .text raw =>
    match read : GradedAnswer.read raw with
    | .ok _ => .isTrue fun _ flawed => nomatch read.symm.trans flawed
    | .error flaw =>
      decidable_of_iff (flaw.limit? = none)
        ⟨fun within _ flawed => Except.error.inj (read.symm.trans flawed) ▸ within,
          fun ordinary => ordinary flaw read⟩
  | .failed _ | .timedOut | .unconfigured _ => .isTrue trivial
  | .document _ | .broken _ => .isFalse id

/-- The text of a reply. -/
def Reply.text? : Reply → Option String
  | .text raw => some raw
  | _ => none

/-- A time limit that leaves some time. An integer that is beyond the range of double precision is
no time at all. -/
def TimeLimit.IsPositive : TimeLimit → Prop
  | .seconds (.int amount) => 0 < amount ∧ (Binary64.ofInt? amount).isSome
  | .seconds (.float amount) => Binary64.zero.lt amount = true
  | .switch isOn => isOn = true
  | .unlimited | .unusable => False

instance : DecidablePred TimeLimit.IsPositive
  | .seconds (.int _) => inferInstanceAs (Decidable (_ ∧ _))
  | .seconds (.float _) | .switch _ => inferInstanceAs (Decidable (_ = _))
  | .unlimited | .unusable => .isFalse id

/-- A time limit that attempts can be made under, whether or not it leaves any time. -/
structure TimeLimit.IsUsable (limit : TimeLimit) : Prop where
  comparable : limit ≠ .unusable
  reachable : limit.isBeyond = false

namespace TimeLimit

variable {limit : TimeLimit}

theorem IsPositive.usable (positive : limit.IsPositive) : limit.IsUsable := by
  cases limit with
  | seconds amount =>
    refine ⟨nofun, ?_⟩
    cases amount with
    | int amount =>
      obtain ⟨_, inRange⟩ := positive
      simpa [isBeyond, Option.isSome_iff_ne_none] using inRange
    | float amount => rfl
  | switch isOn => exact ⟨nofun, rfl⟩
  | unlimited | unusable => exact positive.elim

theorem le_zero_of_lt {amount : Binary64} (positive : Binary64.zero.lt amount = true) :
    amount.le .zero = false := by
  cases amount with
  | nan => rfl
  | infinite negative =>
    cases negative with
    | true => cases positive
    | false => rfl
  | finite negative units fits =>
    have above : 0 < Binary64.signedUnits negative units := by
      simpa [Binary64.lt, Binary64.compare?, Binary64.zero, Binary64.signedUnits,
        Int.compare_eq_lt] using positive
    have order : compare (Binary64.signedUnits negative units)
        (Binary64.signedUnits false 0) = .gt := Int.compare_eq_gt.mpr above
    simp only [Binary64.le, Binary64.compare?, Binary64.zero, order]
    rfl

theorem IsPositive.lasts (positive : limit.IsPositive) : limit.hasPassed = false := by
  cases limit with
  | seconds amount =>
    cases amount with
    | int amount => simpa [hasPassed] using positive.1
    | float amount => exact le_zero_of_lt positive
  | switch isOn => exact congrArg not positive
  | unlimited | unusable => exact positive.elim

end TimeLimit

namespace Grader

variable {limit : TimeLimit} {question : Question} {replies : Nat → Reply}
  {outcome : Except GradingFailure GradingResult} {prompts : List String}

/-! ## One attempt -/

-- What a text says is told from the reader's outcome alone.
attribute [local irreducible] GradedAnswer.read

/-- What a reply to an attempt concludes a grading with: what was read in a good answer, or the
complaint that there is no model to ask. -/
inductive Concludes (userInput : String) (attempt : Nat) :
    Reply → Except GradingFailure GradingResult → Prop
  | answered {raw : String} {answer : GradedAnswer} (read : GradedAnswer.read raw = .ok answer) :
    Concludes userInput attempt (.text raw) (.ok
      { characterResponse := answer.characterResponse
        emotion := answer.emotion
        evaluation := answer.evaluation
        rating := answer.rating
        attempts := attempt
        userInput
        raw
        error := none })
  | unconfigured {why : String} :
    Concludes userInput attempt (.unconfigured why) (.error (.unconfigured why))

/-- Whether a reply concludes a grading. -/
def Conclusive : Reply → Prop
  | .text raw => ∃ answer, GradedAnswer.read raw = .ok answer
  | .unconfigured _ => True
  | .document _ | .failed _ | .timedOut | .broken _ => False

instance : DecidablePred Conclusive
  | .text _ => decidable_of_iff _ Outcome.isSome_toOption
  | .unconfigured _ => .isTrue trivial
  | .document _ | .failed _ | .timedOut | .broken _ => .isFalse id

theorem Concludes.conclusive {userInput : String} {attempt : Nat} {reply : Reply}
    (concludes : Concludes userInput attempt reply outcome) : Conclusive reply := by
  cases concludes with
  | answered read => exact ⟨_, read⟩
  | unconfigured => trivial

/-- What is known after one more attempt that has concluded nothing. -/
def Evidence.after (limit : TimeLimit) (evidence : Evidence) : Reply → Evidence
  | .text raw =>
    ⟨raw, match GradedAnswer.read raw with
      | .ok _ => evidence.error
      | .error flaw => flaw.message⟩
  | .failed why => { evidence with error := why }
  | .timedOut => { evidence with error := limit.message }
  | .unconfigured _ | .document _ | .broken _ => evidence

theorem Evidence.after_raw (limit : TimeLimit) (evidence : Evidence) (reply : Reply) :
    (evidence.after limit reply).raw = reply.text?.getD evidence.raw := by
  cases reply <;> rfl

/-- An attempt asks one prompt, and what the reply does not conclude is left to the attempts that
remain. -/
theorem run_attempt {Model : Type} {reply : String → Model → Reply × Model} {model later : Model}
    {evidence : Evidence} {answered : Reply} (remaining : Nat)
    (usable : question.limit.IsUsable) (lasts : question.limit.hasPassed = false)
    (asked : reply (question.promptAfter evidence) model = (answered, later))
    (ordinary : answered.IsOrdinary) :
    (∃ outcome, Concludes question.userInput (question.attempts - remaining) answered outcome ∧
        (attempt question (remaining + 1) evidence).run reply model = (outcome, later)) ∨
      ¬ Conclusive answered ∧
        (attempt question (remaining + 1) evidence).run reply model =
          (attempt question remaining (evidence.after question.limit answered)).run
            reply later := by
  have asks : attempt question (remaining + 1) evidence =
      .ask (question.promptAfter evidence) _ :=
    (if_neg usable.comparable).trans <| (if_neg (by simp [lasts])).trans <|
      if_neg (by simp [usable.reachable])
  rw [asks, Grading.run, asked]
  cases answered with
  | text raw =>
    cases read : GradedAnswer.read raw with
    | ok answer => exact .inl ⟨_, .answered read, by simp only [read]; rfl⟩
    | error flaw =>
      refine .inr ⟨fun ⟨answer, accepted⟩ => ?_, ?_⟩
      · cases read.symm.trans accepted
      · simp only [read, ordinary flaw read, Evidence.after]
  | failed why => exact .inr ⟨id, rfl⟩
  | timedOut => exact .inr ⟨id, rfl⟩
  | unconfigured why => exact .inl ⟨_, .unconfigured, rfl⟩
  | document _ => exact ordinary.elim
  | broken _ => exact ordinary.elim

/-! ## All attempts -/

/-- A model that gives the replies of a script one after the other, and keeps the prompts. -/
def scripted (replies : Nat → Reply) (prompt : String) (prompts : List String) :
    Reply × List String :=
  (replies prompts.length, prompts ++ [prompt])

/-- What is known after some replies of a script. -/
def evidenceAfter (limit : TimeLimit) (replies : Nat → Reply) : Nat → Evidence
  | 0 => ⟨"", ""⟩
  | count + 1 => (evidenceAfter limit replies count).after limit (replies count)

/-- The last text among some replies of a script, which is empty if there is none. -/
def lastText (replies : Nat → Reply) (count : Nat) : String :=
  (((List.range count).filterMap fun earlier => (replies earlier).text?).getLast?).getD ""

theorem evidenceAfter_raw (limit : TimeLimit) (replies : Nat → Reply) (count : Nat) :
    (evidenceAfter limit replies count).raw = lastText replies count := by
  induction count with
  | zero => rfl
  | succ count held =>
    rw [evidenceAfter, Evidence.after_raw, held]
    cases said : (replies count).text? <;> simp [lastText, List.range_succ, said]

/-- While nothing but empty texts has come, the last text is empty. -/
theorem lastText_eq_empty {count : Nat}
    (silent : ∀ earlier < count, ∀ text, (replies earlier).text? = some text → text = "") :
    lastText replies count = "" := by
  rw [lastText]
  cases last : ((List.range count).filterMap fun earlier => (replies earlier).text?).getLast? with
  | none => rfl
  | some text =>
    obtain ⟨earlier, within, said⟩ := List.mem_filterMap.mp (List.mem_of_getLast? last)
    exact silent earlier (List.mem_range.mp within) text said

/-- The prompts of some attempts in a row, from the first one on. -/
def promptsOf (question : Question) (replies : Nat → Reply) (count : Nat) : List String :=
  (List.range count).map fun earlier =>
    question.promptAfter (evidenceAfter question.limit replies earlier)

@[simp] theorem length_promptsOf (question : Question) (replies : Nat → Reply) (count : Nat) :
    (promptsOf question replies count).length = count := by
  simp [promptsOf]

theorem promptsOf_succ (question : Question) (replies : Nat → Reply) (count : Nat) :
    promptsOf question replies (count + 1) = promptsOf question replies count ++
      [question.promptAfter (evidenceAfter question.limit replies count)] := by
  simp [promptsOf, List.range_succ]

/-- The prompt that comes next gets the reply that comes next. -/
theorem scripted_next (question : Question) (replies : Nat → Reply) (count : Nat) :
    scripted replies (question.promptAfter (evidenceAfter question.limit replies count))
        (promptsOf question replies count) =
      (replies count, promptsOf question replies (count + 1)) := by
  rw [scripted, length_promptsOf, promptsOf_succ]

/-- How a grading by a script ends after some attempts that have concluded nothing. -/
inductive Ending (question : Question) (replies : Nat → Reply) (count : Nat) :
    Except GradingFailure GradingResult → List String → Prop
  | concluded (last : Nat) {outcome : Except GradingFailure GradingResult}
    (later : count ≤ last) (allowed : last < question.attempts)
    (first : ∀ other, count ≤ other → other < last → ¬ Conclusive (replies other))
    (concludes : Concludes question.userInput (last + 1) (replies last) outcome) :
    Ending question replies count outcome (promptsOf question replies (last + 1))
  | exhausted
    (none : ∀ other, count ≤ other → other < question.attempts → ¬ Conclusive (replies other)) :
    Ending question replies count
      (.ok (fallback question.userInput question.attempts
        (evidenceAfter question.limit replies question.attempts).raw))
      (promptsOf question replies question.attempts)

/-- The attempts that remain go through the script from where it stands. -/
theorem attempt_ending (usable : question.limit.IsUsable)
    (lasts : question.limit.hasPassed = false) (ordinary : ∀ reply, (replies reply).IsOrdinary) :
    ∀ remaining count, count + remaining = question.attempts →
      (attempt question remaining (evidenceAfter question.limit replies count)).run
          (scripted replies) (promptsOf question replies count) = (outcome, prompts) →
        Ending question replies count outcome prompts
  -- By induction on the attempts that remain. Evidence and prompts are both told from how much of
  -- the script has been gone through, so one attempt more is one reply further.
  | 0, count, all, ran => by
    cases ran
    rw [Nat.add_zero] at all
    subst all
    exact .exhausted fun other after before => absurd before (Nat.not_lt.mpr after)
  | remaining + 1, count, all, ran => by
    have number : question.attempts - remaining = count + 1 := by omega
    rcases run_attempt remaining usable lasts (scripted_next question replies count)
        (ordinary count) with
      ⟨concluded, concludes, came⟩ | ⟨inconclusive, came⟩
    · cases came.symm.trans ran
      rw [number] at concludes
      exact .concluded count (Nat.le_refl count) (by omega) (fun _ _ _ => by omega) concludes
    · have rest := attempt_ending usable lasts ordinary remaining (count + 1) (by omega)
        (came.symm.trans ran)
      cases rest with
      | concluded last later allowed first concludes =>
        refine .concluded last (by omega) allowed (fun other after before => ?_) concludes
        rcases Nat.eq_or_lt_of_le after with rfl | after
        · exact inconclusive
        · exact first other after before
      | exhausted none =>
        refine .exhausted fun other after before => ?_
        rcases Nat.eq_or_lt_of_le after with rfl | after
        · exact inconclusive
        · exact none other after before

/-- What a grading by a script comes to: the number of its prompts, its outcome, and the prompts
that are the first one again. Replies of a script are counted from zero, attempts from one. -/
structure FollowsScript (userInput prompt : String) (allowed : Nat) (replies : Nat → Reply)
    (outcome : Except GradingFailure GradingResult) (prompts : List String) : Prop where
  /-- The first conclusion that is within reach is the last reply that is asked for. -/
  concluded : ∀ last < allowed, Conclusive (replies last) →
    (∀ earlier < last, ¬ Conclusive (replies earlier)) →
      prompts.length = last + 1 ∧ Concludes userInput (last + 1) (replies last) outcome
  /-- Without a conclusion all attempts are made, and the last text goes into the result. -/
  exhausted : (∀ reply < allowed, ¬ Conclusive (replies reply)) →
    prompts.length = allowed ∧ outcome = .ok (fallback userInput allowed (lastText replies allowed))
  /-- The first prompt is asked again until there is a text to point at. -/
  repeats : ∀ asked < prompts.length,
    (∀ earlier < asked, ∀ text, (replies earlier).text? = some text → text = "") →
      prompts[asked]? = some prompt

/-- An ending from the very start is what the script says. -/
theorem Ending.followsScript (ending : Ending question replies 0 outcome prompts) :
    FollowsScript question.userInput question.prompt question.attempts replies outcome prompts where
  concluded last within conclusive before := by
    cases ending with
    | concluded found later allowed first concludes =>
      have same : found = last := by
        rcases Nat.lt_trichotomy found last with less | same | more
        · exact absurd concludes.conclusive (before found less)
        · exact same
        · exact absurd conclusive (first last (Nat.zero_le last) more)
      subst same
      exact ⟨length_promptsOf .., concludes⟩
    | exhausted none => exact absurd conclusive (none last (Nat.zero_le last) within)
  exhausted none := by
    cases ending with
    | concluded found later allowed first concludes =>
      exact absurd concludes.conclusive (none found allowed)
    | exhausted =>
      rw [evidenceAfter_raw]
      exact ⟨length_promptsOf .., rfl⟩
  repeats asked before silent := by
    obtain ⟨count, rfl⟩ : ∃ count, prompts = promptsOf question replies count := by
      cases ending <;> exact ⟨_, rfl⟩
    rw [length_promptsOf] at before
    have nothing : (evidenceAfter question.limit replies asked).raw = "" :=
      (evidenceAfter_raw ..).trans (lastText_eq_empty silent)
    simp [promptsOf, before, Question.promptAfter, nothing]

/-- A model that cannot be reached, then will not grade, then takes too long, and then does. -/
def reluctant : Nat → Reply
  | 0 => .failed "down"
  | 1 => .text "no"
  | 2 => .timedOut
  | _ => .text (GradedAnswer.toJson ⟨"Oh.", "happy", "Kind.", .good⟩).write

end Grader

end VisualNovel
