import VisualNovel.Calls.TextRule
import VisualNovel.Proofs.Fences
import VisualNovel.Proofs.GradingProtocol
import VisualNovel.Proofs.Refusals
import VisualNovel.Proofs.Thresholds

/-! Texts that are entered under a rule. A rule admits a text or not by the text alone, as it will be
kept: bare of white space, within the bounds, and of the right kind and pattern. Checking a value
drops the white space around it and then asks whether what is left is admitted; so it changes nothing
about a text that it has let through, and a check that is repeated cannot fail. Numbers are read from
texts in the same way when they are entered and when they are compared. -/
namespace VisualNovel

namespace Text

/-! ## White space around a text -/

/-- A text with no white space at either end. -/
def IsBare (text : List Char) : Prop := text = [] ∨ IsSolid text

/-- A bare text is the core of another if that has nothing else besides white space around it. -/
structure IsCore (core text : List Char) : Prop where
  bare : IsBare core
  around : ∃ before after, AreBlanks before ∧ AreBlanks after ∧ text = before ++ (core ++ after)

variable {core text : List Char}

theorem isBare_iff : IsBare text ↔ trimChars text = text := by
  constructor
  · rintro (rfl | solid)
    · rfl
    · exact trimChars_solid solid
  · intro trimmed
    have begins := dropWhile_trimChars text
    have ends := rdropWhile_trimChars text
    rw [trimmed] at begins ends
    cases text with
    | nil => exact .inl rfl
    | cons c rest =>
      have first : isBlank c = false := by
        simpa using List.dropWhile_eq_self_iff.mp begins (Nat.succ_pos _)
      have last := List.rdropWhile_eq_self_iff.mp ends (List.cons_ne_nil c rest)
      exact .inr ⟨⟨c, rest, rfl, first⟩,
        ⟨_, _, (List.dropLast_append_getLast (List.cons_ne_nil c rest)).symm, by simpa using last⟩⟩

/-- Every text has one core. -/
theorem isCore_iff : IsCore core text ↔ core = trimChars text := by
  constructor
  · rintro ⟨rfl | solid, before, after, blank, blank', rfl⟩
    · have blanks : (before ++ after).dropWhile isBlank = [] :=
        List.dropWhile_eq_nil_iff.mpr (blank.append blank')
      rw [List.nil_append, trimChars, blanks]
      rfl
    · exact (trimChars_around blank blank' solid).symm
  · rintro rfl
    refine ⟨isBare_iff.mpr (trimChars_trimChars text), text.takeWhile isBlank,
      (text.dropWhile isBlank).rtakeWhile isBlank, fun _ among => List.mem_takeWhile_imp among,
      fun _ among => List.mem_rtakeWhile_imp among, ?_⟩
    calc text
        = text.takeWhile isBlank ++ text.dropWhile isBlank := List.takeWhile_append_dropWhile.symm
      _ = _ := congrArg _ List.rdropWhile_append_rtakeWhile.symm

end Text

/-! ## What a rule admits -/

namespace TextRule

/-- A name, an at sign, and a host and a domain with a point between them. -/
def IsAddress (text : List Char) : Prop :=
  ∃ name host domain, name ≠ [] ∧ host ≠ [] ∧ domain ≠ [] ∧
    text = name ++ '@' :: (host ++ '.' :: domain) ∧
      ∀ c ∈ name ++ (host ++ domain), c ≠ '@' ∧ Text.isBlank c = false

/-- What a pattern asks for. One that has been left out, that is empty, or that is no pattern, asks
for nothing; one that cannot be used is matched by no text. -/
def Fits (pattern : Option String) (text : List Char) : Prop :=
  ∀ written, nonempty? pattern = some written →
    Pattern.read written = .error .malformed ∨
      ∃ asked, Pattern.read written = .ok asked ∧ asked.occursIn text = true

/-- What a rule asks of a text as it is kept. -/
structure Admits (rule : TextRule) (text : String) : Prop where
  bare : Text.IsBare text.toList
  longEnough : rule.minLength ≤ text.length
  shortEnough : text.length ≤ rule.maxLength
  number : rule.kind = .number → ∃ x, Decimal.read text = some x ∧ x ≠ .nan
  address : rule.kind = .email → IsAddress text.toList
  fits : Fits rule.pattern text.toList

variable {rule : TextRule} {value text : String} {chars : List Char}

theorem isNumber_iff :
    isNumber chars = true ↔ ∃ x, Decimal.readTrimmed chars = some x ∧ x ≠ .nan := by
  unfold isNumber
  cases Decimal.readTrimmed chars with
  | none => simp
  | some x => cases x <;> simp

/-- What comes behind the at sign has a point within it if it falls into a host and a domain. -/
theorem contains_point_iff {behind : List Char} :
    ((behind.drop 1).dropLast.contains '.') = true ↔
      ∃ host domain, host ≠ [] ∧ domain ≠ [] ∧ behind = host ++ '.' :: domain := by
  rw [List.contains_iff_mem]
  constructor
  · intro within
    cases behind with
    | nil => simp at within
    | cons first rest =>
      obtain ⟨front, back, parts⟩ := List.append_of_mem within
      have some : rest ≠ [] := by
        rintro rfl
        simp at within
      refine ⟨first :: front, back ++ [rest.getLast some], List.cons_ne_nil _ _, by simp, ?_⟩
      calc first :: rest
          = first :: (rest.dropLast ++ [rest.getLast some]) := by rw [List.dropLast_append_getLast]
        _ = _ := by rw [show rest.dropLast = front ++ '.' :: back from parts]; simp
  · rintro ⟨host, domain, hosted, placed, rfl⟩
    obtain ⟨first, front, rfl⟩ := List.exists_cons_of_ne_nil hosted
    rw [List.cons_append, List.drop_one, List.tail_cons,
      List.dropLast_append_of_ne_nil (List.cons_ne_nil _ _), List.dropLast_cons_of_ne_nil placed]
    simp

/-- An address is looked for on either side of the first at sign. -/
theorem isEmail_marked {name behind : List Char} (unmarked : '@' ∉ name) :
    isEmail (name ++ '@' :: behind) = true ↔
      name ≠ [] ∧ '@' ∉ behind ∧ (∀ c ∈ name ++ behind, Text.isBlank c = false) ∧
        ∃ host domain, host ≠ [] ∧ domain ≠ [] ∧ behind = host ++ '.' :: domain := by
  have before : ∀ c ∈ name, decide (c ≠ '@') = true := fun c among =>
    decide_eq_true fun same => unmarked (same ▸ among)
  have solid : Text.isBlank '@' = false := by decide
  simp only [isEmail, List.takeWhile_append_of_pos before, List.dropWhile_append_of_pos before,
    ne_eq, not_true_eq_false, decide_false, Bool.false_eq_true, not_false_eq_true,
    List.takeWhile_cons_of_neg, List.dropWhile_cons_of_neg, List.append_nil, Bool.and_eq_true,
    contains_point_iff]
  simp [solid, or_imp, forall_and, and_assoc]

theorem isEmail_iff : isEmail chars = true ↔ IsAddress chars := by
  constructor
  · intro accepted
    have mark : '@' ∈ chars := by
      by_contra unmarked
      have nothing : chars.dropWhile (· ≠ '@') = [] := List.dropWhile_eq_nil_iff.mpr fun c among =>
        decide_eq_true fun same => unmarked (same ▸ among)
      simp only [isEmail, nothing] at accepted
      cases accepted
    obtain ⟨name, behind, rfl, unmarked⟩ := List.eq_append_cons_of_mem mark
    obtain ⟨named, single, solid, host, domain, hosted, placed, rfl⟩ :=
      (isEmail_marked unmarked).mp accepted
    refine ⟨name, host, domain, named, hosted, placed, rfl, fun c among => ⟨?_, ?_⟩⟩
    · rintro rfl
      grind
    · grind
  · rintro ⟨name, host, domain, named, hosted, placed, rfl, inside⟩
    have point : '.' ≠ '@' ∧ Text.isBlank '.' = false := by decide
    have unmarked : '@' ∉ name := by grind
    exact (isEmail_marked unmarked).mpr
      ⟨named, by grind, by grind, host, domain, hosted, placed, rfl⟩

theorem matchesPattern_eq_ok {pattern : Option String} :
    matchesPattern pattern chars = .ok true ↔ Fits pattern chars := by
  unfold matchesPattern Fits
  cases nonempty? pattern with
  | none => simp
  | some written =>
    simp only [Option.some.injEq, forall_eq']
    cases Pattern.read written with
    | ok asked => simp
    | error flaw => cases flaw <;> simp

/-- A value is taken in if what is left of it without the white space around it passes each test. -/
theorem check_eq_ok : rule.check value = .ok text ↔
    text.toList = Text.trimChars value.toList ∧
      rule.minLength ≤ text.length ∧ text.length ≤ rule.maxLength ∧
      (rule.kind = .number → isNumber text.toList = true) ∧
      (rule.kind = .email → isEmail text.toList = true) ∧
      matchesPattern rule.pattern text.toList = .ok true := by
  constructor
  · intro checked
    have core : text.toList = Text.trimChars value.toList := by
      rw [check_trims checked, String.toList_ofList]
    simp only [check, ← core, Outcome.unless_eq_ok, Int.not_lt, not_and, not_not,
      String.length_toList] at checked
    obtain ⟨longEnough, shortEnough, number, email, accepted⟩ := checked
    refine ⟨core, longEnough, shortEnough, number, email, ?_⟩
    split at accepted
    · assumption
    · cases accepted
    · cases accepted
  · rintro ⟨core, longEnough, shortEnough, number, email, accepted⟩
    simp only [check, ← core, Outcome.unless_eq_ok, Int.not_lt, not_and, not_not,
      String.length_toList, accepted, String.ofList_toList, and_true]
    exact ⟨longEnough, shortEnough, number, email⟩

/-- Checking a value leaves its core, if that is admitted. -/
theorem check_iff :
    rule.check value = .ok text ↔ Text.IsCore text.toList value.toList ∧ rule.Admits text := by
  rw [check_eq_ok, Text.isCore_iff]
  refine and_congr_right fun core => ?_
  have bare : Text.IsBare text.toList := by
    rw [core]
    exact Text.isBare_iff.mpr (Text.trimChars_trimChars _)
  have read : Decimal.read text = Decimal.readTrimmed text.toList :=
    congrArg Decimal.readTrimmed (Text.isBare_iff.mp bare)
  rw [isNumber_iff, isEmail_iff, matchesPattern_eq_ok, ← read]
  constructor
  · rintro ⟨longEnough, shortEnough, number, address, fits⟩
    exact ⟨bare, longEnough, shortEnough, number, address, fits⟩
  · rintro ⟨-, longEnough, shortEnough, number, address, fits⟩
    exact ⟨longEnough, shortEnough, number, address, fits⟩

/-- A text that has been taken in is taken in again as it is. -/
theorem check_admitted : rule.check text = .ok text ↔ rule.Admits text := by
  rw [check_iff, and_iff_right_iff_imp]
  exact fun admits => ⟨admits.bare, [], [], nofun, nofun, by simp⟩

/-! ## Rules that nothing has looked at -/

/-- The same rule with any word for its kind; one that is none of the three asks for nothing. -/
def loosely (rule : TextRule) (word : String) : LooseRule where
  minLength := .int rule.minLength
  maxLength := .int rule.maxLength
  pattern := rule.pattern.elim .null .str
  message := .str rule.message
  kind := .str word

/-- Its bounds are compared with the length first, and then it is any other rule. -/
theorem loosely_eq_ok {word : String} :
    (rule.loosely word).check (.str value) = .ok text ↔
      rule.minLength ≤ (Text.trimChars value.toList).length ∧
        (Text.trimChars value.toList).length ≤ rule.maxLength ∧
          ((rule.loosely word).typed (Text.trimChars value.toList).length rule.pattern).check value =
            .ok text := by
  obtain ⟨least, most, pattern, message, kind⟩ := rule
  have bounds (n : Int) : LooseRule.bound (.int n) = .ok (.int n) := rfl
  unfold LooseRule.check
  simp only [Outcome.bind_eq_ok, LooseRule.reject, Outcome.unless_eq_ok, Outcome.mapError_eq_ok]
  cases pattern <;>
  · dsimp only [loosely, Option.elim]
    simp only [bounds, Except.ok.injEq, exists_eq_left', LooseRule.isBelow, LooseRule.isAbove,
      decide_eq_true_eq, Int.not_lt, Json.truthy, Option.isNone_some, Bool.and_false, Bool.false_and,
      Bool.false_eq_true, ↓reduceIte, Outcome.pure_eq_ok, exists_eq_right]

theorem loosely_check {word : String} (named : (InputKind.ofWord? word).getD .text = rule.kind) :
    (rule.loosely word).check (.str value) = .ok text ↔ rule.check value = .ok text := by
  rw [loosely_eq_ok, check_eq_ok, check_eq_ok]
  simp only [LooseRule.typed, loosely, named]
  constructor
  · rintro ⟨longEnough, shortEnough, core, -, -, rest⟩
    rw [← core, String.length_toList] at longEnough shortEnough
    exact ⟨core, longEnough, shortEnough, rest⟩
  · rintro ⟨core, longEnough, shortEnough, rest⟩
    rw [← core, String.length_toList]
    exact ⟨longEnough, shortEnough, rfl, Int.natCast_nonneg _, Int.le_refl _, rest⟩

end TextRule

/-! ## Texts in orders -/

namespace Comparison

variable {comparison : Comparison} {left right other another : Option Value}

/-- An order looks at its sides as numbers only. -/
theorem holds?_congr (orders : comparison.IsOrder) (same : toNumber? left = toNumber? other)
    (same' : toNumber? right = toNumber? another) :
    comparison.holds? left right = comparison.holds? other another := by
  cases comparison with
  | equal | different => exact orders.elim
  | greater | less | greaterOrEqual | lessOrEqual => simp only [holds?, order, same, same']

end Comparison

/-- A text that counts as a number wherever an order is asked for. -/
structure CountsAs (text : String) (x : Binary64) : Prop where
  number : x ≠ .nan
  read : (Value.text text).toNumber? = some x
  /-- A variable that holds the text is compared like one that holds the number. -/
  compared : ∀ (condition : Condition) comparison (vars : Variables),
    Comparison.ofOperator? condition.operator = some comparison → comparison.IsOrder →
      vars.get? condition.name = some (.text text) →
        condition.holds? vars =
          condition.holds? (vars.insert condition.name (.number (.float x)))
  /-- Against any number within the range, each order comes to what it should. -/
  decided : ∀ (threshold : Option Value) y, Comparison.toNumber? threshold = some y → y ≠ .nan →
    ∃ order, x.compare? y = some order ∧ ∀ comparison : Comparison, comparison.IsOrder →
      comparison.holds? (some (.text text)) threshold =
        some (comparison.verdict (.float x) (.float y) order)

theorem Value.toNumber?_text {text : String} {x : Binary64} (read : Decimal.read text = some x) :
    (Value.text text).toNumber? = some x := by
  unfold Decimal.read at read
  simp only [toNumber?]
  split
  case h_1 empty =>
    have none : Decimal.readTrimmed [] = none := by decide +kernel
    rw [empty, none] at read
    cases read
  case h_2 => rw [read, Option.getD_some]

theorem countsAs_of_read {text : String} {x : Binary64} (read : Decimal.read text = some x)
    (number : x ≠ .nan) : CountsAs text x := by
  have isNumber : Comparison.toNumber? (some (.text text)) = some x := Value.toNumber?_text read
  constructor
  case number => exact number
  case read => exact isNumber
  case compared =>
    intro condition comparison vars means orders holds
    simp only [Condition.holds?, means, holds, Named.get?_insert, ↓reduceIte]
    exact Comparison.holds?_congr orders isNumber rfl
  case decided =>
    intro threshold y other number'
    obtain ⟨order, compared⟩ := Binary64.compare?_isSome number number'
    refine ⟨order, compared, fun comparison orders => ?_⟩
    calc comparison.holds? (some (.text text)) threshold
        = comparison.holds? (some (.number (.float x))) (some (.number (.float y))) :=
          Comparison.holds?_congr orders isNumber other
      _ = some (comparison.verdict (.float x) (.float y) order) :=
          Comparison.holds?_numbers rfl rfl compared comparison

/-! ## Where texts are entered -/

/-- A text that is entered at a node is kept in the variable that the node names. -/
theorem Story.submitInput_keeps {story : Story} {state next : GameState} {value : String}
    (submitted : story.submitInput state value = .ok next) :
    ∃ node config text, story.node? state.currentSceneId state.currentNodeId = some node ∧
      node.body = .input config ∧ (TextRule.ofInput config).check value = .ok text ∧
        next.vars.get? config.variableName = some (.text text) := by
  obtain ⟨_, node, found, config, asks, text, checked, rfl⟩ := Story.submitInput_eq_ok.mp submitted
  refine ⟨node, config, text, found, asks, checked, ?_⟩
  rw [GameState.navigate_vars, Named.get?_insert, if_pos rfl]

namespace Engine

/-- A response is checked twice when it is opened, the second time as it has been taken in. -/
structure ChecksTwice (engine : Engine) (value : String) : Prop where
  /-- The second check comes to what the first one did. -/
  again : ∀ ticket, (engine.beginGrading value).outcome = .ok ticket →
    ∃ node config,
      engine.story.validateResponse engine.state value = .ok (node, config, ticket.userInput) ∧
        (engine.beginGrading value).engine.story.validateResponse
          (engine.beginGrading value).engine.state ticket.userInput =
            .ok (node, config, ticket.userInput)
  /-- So a response is not opened only if no ticket is handed out for it, or if its situation cannot
  be written out. -/
  opened : ∀ grader fault, (engine.openResponse grader value).outcome = .error fault →
    (engine.beginGrading value).outcome = .error fault ∨ fault = .unwritable

theorem checks_twice (engine : Engine) (value : String) : ChecksTwice engine value := by
  constructor
  case again =>
    intro ticket handedOut
    obtain ⟨asking, node, config, valid⟩ := beginGrading_takes_in handedOut
    rw [asking]
    exact ⟨node, config, valid, Story.validateResponse_again valid⟩
  case opened =>
    intro grader fault failed
    have opens := engine.openResponse_opens grader value
    generalize engine.openResponse grader value = opened at opens failed
    cases opens with
    | refused why =>
      cases failed
      exact .inl (congrArg Turn.outcome (beginGrading_refused why))
    | unwritable =>
      cases failed
      exact .inr rfl
    | asked => cases failed

end Engine

/-! ## Checking as a projection -/

namespace TextRule

/-- Checking under a rule is a projection onto the texts that the rule admits. -/
structure Projects (rule : TextRule) : Prop where
  /-- A value comes to its core, if that is admitted, and is turned down otherwise. -/
  takes : ∀ value text, rule.check value = .ok text ↔
    Text.IsCore text.toList value.toList ∧ rule.Admits text
  again : ∀ value text, rule.check value = .ok text → rule.check text = .ok text
  /-- It leaves exactly the admitted texts as they are. -/
  unchanged : ∀ text, rule.check text = .ok text ↔ rule.Admits text
  numbers : rule.kind = .number → ∀ value text, rule.check value = .ok text →
    ∃ x, CountsAs text x
  /-- The same comes of it under a rule that nothing has looked at, whatever the word for its
  kind. -/
  loosely : ∀ word, (InputKind.ofWord? word).getD .text = rule.kind → ∀ value text,
    (rule.loosely word).check (.str value) = .ok text ↔ rule.check value = .ok text

theorem projects (rule : TextRule) : Projects rule := by
  constructor
  case takes => exact fun _ _ => check_iff
  case again => exact fun _ _ checked => check_again checked
  case unchanged => exact fun _ => check_admitted
  case numbers =>
    intro kind value text checked
    obtain ⟨x, read, number⟩ := (check_iff.mp checked).2.number kind
    exact ⟨x, countsAs_of_read read number⟩
  case loosely => exact fun _ named _ _ => loosely_check named

/-- Every rule is a projection onto the texts that it admits. A text that is entered at a node is
kept as the rule of the node leaves it, and where that asks for a number, orders on its variable
compare it as one; a response that has been taken in is taken in again when it is opened. -/
theorem checked_texts_stay_valid :
    (∀ rule : TextRule, rule.Projects) ∧
      (∀ (story : Story) state next value, story.submitInput state value = .ok next →
        ∃ node config text, story.node? state.currentSceneId state.currentNodeId = some node ∧
          node.body = .input config ∧ (ofInput config).check value = .ok text ∧
            next.vars.get? config.variableName = some (.text text) ∧
              (config.inputKind = .number → ∃ x, CountsAs text x)) ∧
      ∀ (engine : Engine) value, engine.ChecksTwice value := by
  refine ⟨projects, fun story state next value submitted => ?_, Engine.checks_twice⟩
  obtain ⟨node, config, text, found, asks, checked, kept⟩ := Story.submitInput_keeps submitted
  exact ⟨node, config, text, found, asks, checked, kept,
    fun kind => (projects _).numbers kind value text checked⟩

/-- An age, asked for in digits. -/
def age : InputConfig := ⟨"age", "", 1, 3, .number, some "^[0-9]+$", "Digits only"⟩

/-- A story that asks for nothing but an age. -/
def census : Story := .lone (.bare "age" (.input age))

/-- The state once somebody has entered twelve. -/
def counted : GameState := { census.newGame with vars := .ofList [("age", .text "12")] }

/-- An age is kept without the white space around it and compared as a number, and it is asked for
in the same way by a rule that nothing has looked at; an essay is checked twice. -/
theorem ages_are_counted :
    ((ofInput age).check "12" = .ok "12" ∧
      ((ofInput age).loosely "number").check (.str " 12 ") = .ok "12") ∧
      (census.submitInput census.newGame " 12 " = .ok counted ∧ (∃ x, CountsAs "12" x) ∧
        (Condition.on "age" ">" (.int 9)).holds? counted.vars = some true) ∧
      ∃ node config,
        Engine.essay.story.validateResponse Engine.essay.state " rain " = .ok (node, config, "rain") ∧
          (Engine.essay.beginGrading " rain ").engine.story.validateResponse
            (Engine.essay.beginGrading " rain ").engine.state "rain" = .ok (node, config, "rain") := by
  obtain ⟨projects, keeps, twice⟩ := checked_texts_stay_valid
  have checked : (ofInput age).check " 12 " = .ok "12" :=
    Outcome.toOption_eq_some.mp (by decide +kernel)
  have submitted : census.submitInput census.newGame " 12 " = .ok counted :=
    Outcome.toOption_eq_some.mp (by decide +kernel)
  have handedOut : (Engine.essay.beginGrading " rain ").outcome =
      .ok ⟨0, ⟨"scene", "essay", 0⟩, "rain"⟩ :=
    Outcome.toOption_eq_some.mp (by decide +kernel)
  refine ⟨⟨(projects _).again _ _ checked, ?_⟩, ⟨submitted, ?_, by decide +kernel⟩,
    (twice Engine.essay " rain ").again _ handedOut⟩
  · exact ((projects _).loosely "number" (by decide) " 12 " "12").mpr checked
  · obtain ⟨node, config, text, found, asks, _, kept, number⟩ := keeps _ _ _ _ submitted
    have there : census.node? census.newGame.currentSceneId census.newGame.currentNodeId =
        some (.bare "age" (.input age)) := by
      decide +kernel
    obtain rfl : Node.bare "age" (.input age) = node := Option.some_inj.mp (there.symm.trans found)
    cases asks
    have held : counted.vars.get? "age" = some (.text "12") := by decide +kernel
    cases held.symm.trans kept
    exact number rfl

end TextRule

end VisualNovel
