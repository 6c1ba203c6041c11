import VisualNovel.Grading.Answer
import VisualNovel.Proofs.Documents
import VisualNovel.Proofs.Rereading

/-! Graded answers in their wrappings. An answer is asked for as the text of an object, and it may
come with a fence around it and white space around that. Taking it out looks at the two ends of the
text only, where an object has its braces; so whatever its strings hold, nothing of it is lost
(`Text.unfenced_wrap`). What is left is read as any document is, and the fields of the answer are
found in it by their names (`ofJson_reread`). -/
namespace VisualNovel

namespace Text

/-! ## Wrappings -/

/-- The ways in which the text of an answer may be wrapped. -/
inductive Wrapping where
  | bare
  | fenced
  | labelled
  deriving DecidableEq

namespace Wrapping

def opening : Wrapping → List Char
  | bare => []
  | fenced => fence
  | labelled => fence ++ "json".toList

def closing : Wrapping → List Char
  | bare => []
  | fenced | labelled => fence

end Wrapping

/-- A text of nothing but white space. -/
def AreBlanks (text : List Char) : Prop := ∀ c ∈ text, isBlank c = true

instance (text : List Char) : Decidable (AreBlanks text) :=
  List.decidableBAll (fun c => isBlank c = true) text

/-- The white space around a wrapping and within it. -/
structure Margins where
  before : List Char
  inside : List Char
  behind : List Char
  after : List Char
  blank : ∀ part ∈ [before, inside, behind, after], AreBlanks part

/-- A text in a wrapping. -/
def Wrapping.wrap (wrapping : Wrapping) (margins : Margins) (text : String) : String :=
  String.ofList (margins.before ++
    (wrapping.opening ++ (margins.inside ++ (text.toList ++ margins.behind)) ++ wrapping.closing ++
      margins.after))

/-- A text with something other than white space at either end. -/
structure IsSolid (text : List Char) : Prop where
  starts : ∃ c rest, text = c :: rest ∧ isBlank c = false
  ends : ∃ c rest, text = rest ++ [c] ∧ isBlank c = false

variable {before inside behind after text : List Char} {c : Char}

theorem isSolid_braced : IsSolid ('{' :: text ++ ['}']) :=
  ⟨⟨'{', text ++ ['}'], rfl, by decide⟩, ⟨'}', '{' :: text, rfl, by decide⟩⟩

theorem AreBlanks.append (blank : AreBlanks before) (blank' : AreBlanks after) :
    AreBlanks (before ++ after) := by
  intro c among
  rcases List.mem_append.mp among with among | among
  · exact blank c among
  · exact blank' c among

theorem dropWhile_blanks (blank : AreBlanks before) (solid : isBlank c = false) :
    (before ++ c :: text).dropWhile isBlank = c :: text := by
  rw [List.dropWhile_append_of_pos blank, List.dropWhile_cons_of_neg (by simp [solid])]

/-- White space around a text is trimmed, and nothing else. -/
theorem trimChars_around (blank : AreBlanks before) (blank' : AreBlanks after)
    (solid : IsSolid text) : trimChars (before ++ (text ++ after)) = text := by
  obtain ⟨⟨c, rest, starts, solid⟩, ⟨d, front, ends, solid'⟩⟩ := solid
  have blank' : AreBlanks after.reverse := fun c among => blank' c (List.mem_reverse.mp among)
  rw [trimChars, starts, List.cons_append, dropWhile_blanks blank solid, ← List.cons_append,
    ← starts, List.reverse_append, ends, List.reverse_append, List.reverse_singleton,
    List.singleton_append, dropWhile_blanks blank' solid', List.reverse_cons, List.reverse_reverse]

theorem trimChars_solid (solid : IsSolid text) : trimChars text = text := by
  have around := @trimChars_around [] [] text nofun nofun solid
  rwa [List.nil_append, List.append_nil] at around

/-- The mark that a wrapping opens with is dropped, and nothing of what comes behind it, provided
that this could not make the mark a longer one. -/
theorem dropFirstMark_opening (wrapping : Wrapping) (unmarked : c ≠ '\x60') (unlabelled : c ≠ 'j') :
    dropFirstMark [fence ++ "json".toList, fence] (wrapping.opening ++ c :: text) = c :: text := by
  have label : "json".toList = ['j', 's', 'o', 'n'] := String.toList_ofList
  have apart : ('\x60' == c) = false ∧ ('j' == c) = false :=
    ⟨beq_eq_false_iff_ne.mpr unmarked.symm, beq_eq_false_iff_ne.mpr unlabelled.symm⟩
  cases wrapping <;>
    simp [dropFirstMark, Wrapping.opening, fence, label, List.find?, List.isPrefixOf, apart]

theorem dropFenceAtEnd_fence : dropFenceAtEnd (text ++ fence) = text := by
  rw [dropFenceAtEnd, if_pos (by simp [List.isSuffixOf_iff_suffix])]
  simp

theorem dropFenceAtEnd_of_last (unmarked : c ≠ '\x60') :
    dropFenceAtEnd (text ++ [c]) = text ++ [c] := by
  rw [dropFenceAtEnd, if_neg]
  rw [List.isSuffixOf_iff_suffix]
  rintro ⟨front, same⟩
  have last := congrArg List.getLast? same
  rw [fence, List.getLast?_append, List.getLast?_concat] at last
  cases last
  exact unmarked rfl

theorem unfenced_ofList (text : List Char) :
    unfenced (String.ofList text) = String.ofList (trimChars (dropFenceAtEnd
      (dropFirstMark [fence ++ "json".toList, fence] (trimChars text)))) := by
  rw [unfenced, String.toList_ofList (l := text)]

/-- What stands between two fences is taken out, and trimmed. -/
theorem unfenced_fences {wrapping : Wrapping} (closes : wrapping.closing = fence)
    (blankBefore : AreBlanks before) (blankAfter : AreBlanks after) (unmarked : c ≠ '\x60')
    (unlabelled : c ≠ 'j') :
    unfenced (String.ofList
      (before ++ (wrapping.opening ++ c :: text ++ wrapping.closing ++ after))) =
      String.ofList (trimChars (c :: text)) := by
  have solid : IsSolid (wrapping.opening ++ c :: text ++ wrapping.closing) := by
    refine ⟨?_, ⟨'\x60', wrapping.opening ++ c :: text ++ ['\x60', '\x60'], ?_, by decide⟩⟩
    · cases wrapping with
      | bare => cases closes
      | fenced | labelled => exact ⟨'\x60', _, rfl, by decide⟩
    · rw [closes, List.append_assoc _ _ ['\x60']]
      rfl
  rw [unfenced_ofList, trimChars_around blankBefore blankAfter solid, List.append_assoc,
    List.cons_append, dropFirstMark_opening wrapping unmarked unlabelled, ← List.cons_append,
    closes, dropFenceAtEnd_fence]

/-- Without fences white space is all that is taken off a text in braces. -/
theorem unfenced_bare (blankBefore : AreBlanks before) (blankAfter : AreBlanks after) :
    unfenced (String.ofList (before ++ ('{' :: text ++ ['}'] ++ after))) =
      String.ofList ('{' :: text ++ ['}']) := by
  have unopened : dropFirstMark [fence ++ "json".toList, fence] ('{' :: text ++ ['}']) =
      '{' :: text ++ ['}'] :=
    @dropFirstMark_opening (text ++ ['}']) '{' .bare (by decide) (by decide)
  rw [unfenced_ofList, trimChars_around blankBefore blankAfter isSolid_braced, unopened,
    dropFenceAtEnd_of_last (by decide : '}' ≠ '\x60'), trimChars_solid isSolid_braced]

theorem exists_cons_of_blanks (blank : AreBlanks inside) (text : List Char) :
    ∃ c rest, inside ++ '{' :: text = c :: rest ∧ c ≠ '\x60' ∧ c ≠ 'j' := by
  cases inside with
  | nil => exact ⟨'{', text, rfl, by decide, by decide⟩
  | cons c rest =>
    refine ⟨c, rest ++ '{' :: text, rfl, ?_, ?_⟩
    all_goals
      rintro rfl
      exact absurd (blank _ (.head _)) (by decide)

/-- A text in braces comes out of its wrapping as it is, whatever stands between them. -/
theorem unfenced_wrap {object : String} (braced : object.toList = '{' :: text ++ ['}'])
    (wrapping : Wrapping) (margins : Margins) :
    unfenced (wrapping.wrap margins object) = object := by
  obtain ⟨before, inside, behind, after, blank⟩ := margins
  have same : String.ofList ('{' :: text ++ ['}']) = object := by
    rw [← braced, String.ofList_toList]
  -- Behind an opening fence comes white space or the brace, so no label is made of the object.
  have fenced (closes : wrapping.closing = fence) :
      unfenced (wrapping.wrap ⟨before, inside, behind, after, blank⟩ object) = object := by
    obtain ⟨c, rest, starts, unmarked, unlabelled⟩ :=
      exists_cons_of_blanks (blank inside (by simp)) (text ++ ['}'] ++ behind)
    have starts : inside ++ ('{' :: text ++ ['}'] ++ behind) = c :: rest := starts
    rw [Wrapping.wrap, braced]
    dsimp only
    rw [starts, unfenced_fences closes (blank before (by simp)) (blank after (by simp)) unmarked
      unlabelled, ← starts,
      trimChars_around (blank inside (by simp)) (blank behind (by simp)) isSolid_braced, same]
  cases wrapping with
  | bare =>
    have together : before ++ ([] ++ (inside ++ ('{' :: text ++ ['}'] ++ behind)) ++ [] ++ after) =
        before ++ inside ++ ('{' :: text ++ ['}'] ++ (behind ++ after)) := by
      simp
    rw [Wrapping.wrap, braced]
    dsimp only [Wrapping.opening, Wrapping.closing]
    rw [together, unfenced_bare ((blank before (by simp)).append (blank inside (by simp)))
      ((blank behind (by simp)).append (blank after (by simp))), same]
  | fenced | labelled => exact fenced rfl

/-- A text in braces is left alone when there is no wrapping. -/
theorem unfenced_braced {object : String} (braced : object.toList = '{' :: text ++ ['}']) :
    unfenced object = object := by
  have alone := @unfenced_bare [] [] text nofun nofun
  rwa [List.nil_append, List.append_nil, ← braced, String.ofList_toList] at alone

end Text

namespace GradedAnswer

open Json

/-! ## Answers among other fields -/

/-- An answer is in an object that has its four fields, among others of other names. -/
structure IsIn (answer : GradedAnswer) (fields : List (String × Json)) : Prop where
  distinct : (fields.map Prod.fst).Nodup
  characterResponse : ("characterResponse", .str answer.characterResponse) ∈ fields
  emotion : ("emotion", .str answer.emotion) ∈ fields
  evaluation : ("evaluation", .str answer.evaluation) ∈ fields
  rating : ("rating", .str answer.rating.word) ∈ fields

/-- The texts of an answer. -/
def texts (answer : GradedAnswer) : List String :=
  [answer.characterResponse, answer.emotion, answer.evaluation]

theorem forall_texts {answer : GradedAnswer} {p : String → Prop} :
    (∀ text ∈ answer.texts, p text) ↔
      p answer.characterResponse ∧ p answer.emotion ∧ p answer.evaluation := by
  simp [texts]

/-- What comes of an answer when its texts have been written and read. -/
def joined (answer : GradedAnswer) : GradedAnswer :=
  { answer with
    characterResponse := Text.joined answer.characterResponse
    emotion := Text.joined answer.emotion
    evaluation := Text.joined answer.evaluation }

theorem joined_of_isWhole {answer : GradedAnswer}
    (whole : ∀ text ∈ answer.texts, Text.IsWhole text) : answer.joined = answer := by
  obtain ⟨response, emotion, evaluation⟩ := forall_texts.mp whole
  rw [joined, Text.joined_of_isWhole response, Text.joined_of_isWhole emotion,
    Text.joined_of_isWhole evaluation]

theorem joined_ne_empty {text : String} (given : text ≠ "") : Text.joined text ≠ "" :=
  fun empty => given ((Text.joined_eq_iff (by simp)).mp empty)

/-- The names of the fields are written as they are. -/
theorem plain_keys : ∀ name ∈ ["characterResponse", "emotion", "evaluation", "rating"],
    ∀ c ∈ name.toList, c.toNat < 0xd800 := by
  simp only [List.forall_mem_cons, List.not_mem_nil, false_implies, implies_true, and_true]
  repeat rw [String.toList_ofList]
  simp only [List.forall_mem_cons, List.not_mem_nil, false_implies, implies_true, and_true]
  decide

theorem plain_word (rating : Rating) : ∀ c ∈ rating.word.toList, c.toNat < 0xd800 := by
  cases rating
  all_goals
    rw [Rating.word, String.toList_ofList]
    simp only [List.forall_mem_cons, List.not_mem_nil, false_implies, implies_true, and_true]
    decide

section

variable {name : String} (plain : ∀ c ∈ name.toList, c.toNat < 0xd800)
  {fields read : List (String × Json)} (each : FieldsReread fields read)
  (distinct : (fields.map Prod.fst).Nodup)

include plain each distinct

theorem textAt_reread {text : String} (among : (name, .str text) ∈ fields) (given : text ≠ "") :
    textAt name (assignAll read []) = .ok (Text.joined text) := by
  obtain ⟨got, found, reread⟩ := lookup?_of_mem plain each distinct among []
  cases reread
  rw [textAt, found]
  exact if_neg (joined_ne_empty given)

theorem ratingAt_reread {rating : Rating} (among : (name, .str rating.word) ∈ fields) :
    ratingAt name (assignAll read []) = .ok rating := by
  obtain ⟨got, found, reread⟩ := lookup?_of_mem plain each distinct among []
  cases reread
  have word : Text.joined rating.word = rating.word :=
    (Text.joined_eq_iff (plain_word rating)).mpr rfl
  rw [ratingAt, found, word]
  dsimp only
  rw [Rating.ofWord?_word]
  rfl

end

/-- An answer is found in the fields of its object once these have been read. -/
theorem ofJson_reread {answer : GradedAnswer} {fields read : List (String × Json)}
    (isIn : answer.IsIn fields) (given : ∀ text ∈ answer.texts, text ≠ "")
    (each : FieldsReread fields read) : ofJson (.obj (assignAll read [])) = .ok answer.joined := by
  obtain ⟨response, emotion, evaluation⟩ := forall_texts.mp given
  have plain {name : String} := plain_keys name
  rw [ofJson, textAt_reread (plain (by simp)) each isIn.distinct isIn.characterResponse response,
    textAt_reread (plain (by simp)) each isIn.distinct isIn.emotion emotion,
    textAt_reread (plain (by simp)) each isIn.distinct isIn.evaluation evaluation,
    ratingAt_reread (plain (by simp)) each isIn.distinct isIn.rating]
  rfl

/-! ## Answers as texts -/

theorem toList_write_obj (fields : List (String × Json)) :
    (write (.obj fields)).toList = '{' :: writeFields fields ++ ['}'] := by
  rw [write, String.toList_ofList, writeChars]

theorem read_eq (text : String) :
    read text =
      match Json.read (Text.unfenced text) with
      | .ok document => ofJson document
      | .error error => .error (.notJson error) := by
  delta read
  cases Json.read (Text.unfenced text) <;> rfl

/-- A wrapping makes no difference to how an object is read. -/
theorem read_wrap (fields : List (String × Json)) (wrapping : Text.Wrapping)
    (margins : Text.Margins) :
    read (wrapping.wrap margins (write (.obj fields))) = read (write (.obj fields)) := by
  rw [read_eq, read_eq, Text.unfenced_wrap (toList_write_obj fields),
    Text.unfenced_braced (toList_write_obj fields)]

/-- An answer is read from any object that it is in, if that can be read at all. -/
theorem read_write_obj {answer : GradedAnswer} {fields : List (String × Json)}
    (isIn : answer.IsIn fields) (given : ∀ text ∈ answer.texts, text ≠ "")
    (readable : (Json.obj fields).isReadable depthLimit = true) :
    read (write (.obj fields)) = .ok answer.joined := by
  obtain ⟨got, came, reread⟩ := read_write readable
  rw [read_eq, Text.unfenced_braced (toList_write_obj fields), came]
  cases reread with
  | obj each => exact ofJson_reread isIn given each

/-- An answer is read again from its own text. -/
theorem read_write_toJson {answer : GradedAnswer} (given : ∀ text ∈ answer.texts, text ≠ "") :
    read (write answer.toJson) = .ok answer.joined :=
  read_write_obj ⟨by simp, by simp, by simp, by simp, by simp⟩ given rfl

/-- An object that is refused as a document is refused as an answer. -/
theorem read_write_obj_error {fields : List (String × Json)} {error : ReadError}
    (refused : Json.read (write (.obj fields)) = .error error) :
    read (write (.obj fields)) = .error (.notJson error) := by
  rw [read_eq, Text.unfenced_braced (toList_write_obj fields), refused]

/-- An answer comes out of its wrapping with the texts that went in, whatever else its object holds;
two halves of a surrogate pair that stand side by side in a text are read as one character. -/
theorem answers_survive_their_wrapping {answer : GradedAnswer} {fields : List (String × Json)}
    (isIn : answer.IsIn fields) (given : ∀ text ∈ answer.texts, text ≠ "")
    (readable : (Json.obj fields).isReadable depthLimit = true) (wrapping : Text.Wrapping)
    (margins : Text.Margins) :
    read (wrapping.wrap margins (write (.obj fields))) = .ok answer.joined ∧
      ((∀ text ∈ answer.texts, Text.IsWhole text) → answer.joined = answer) := by
  rw [read_wrap]
  exact ⟨read_write_obj isIn given readable, joined_of_isWhole⟩

theorem a_fenced_answer_is_read :
    read (Text.Wrapping.labelled.wrap ⟨[' '], ['\n'], ['\n'], ['\n'], by decide⟩
      (write (.obj [("more", .arr [.int 3, .null]),
        ("characterResponse", .str "\x60\x60\x60 \"Hi\\ \x7d\n"), ("emotion", .str "happy"),
        ("evaluation", .str "Kind\x60\x60\x60"), ("rating", .str Rating.good.word)]))) =
      .ok ⟨"\x60\x60\x60 \"Hi\\ \x7d\n", "happy", "Kind\x60\x60\x60", .good⟩ := by
  have survives := @answers_survive_their_wrapping
    ⟨"\x60\x60\x60 \"Hi\\ \x7d\n", "happy", "Kind\x60\x60\x60", .good⟩
    [("more", .arr [.int 3, .null]), ("characterResponse", .str "\x60\x60\x60 \"Hi\\ \x7d\n"),
      ("emotion", .str "happy"), ("evaluation", .str "Kind\x60\x60\x60"),
      ("rating", .str Rating.good.word)]
    ⟨by decide, by simp, by simp, by simp, by simp⟩ (by decide) (by decide +kernel) .labelled
    ⟨[' '], ['\n'], ['\n'], ['\n'], by decide⟩
  rw [survives.1, survives.2 (by decide +kernel)]

/-- Lists that are nested too deep keep an answer from being read, and the two halves of a pair come
back as one character. -/
theorem some_answers_are_not_read_back :
    (∃ error, read (write (.obj [("deep", nest 993), ("characterResponse", .str "Hi"),
          ("emotion", .str "happy"), ("evaluation", .str "Kind"),
          ("rating", .str Rating.good.word)])) = .error (.notJson error) ∧
        error.cause = .tooDeep) ∧
      read (write (toJson ⟨String.ofList [Text.ofCodePoint 0xd83d, Text.ofCodePoint 0xde00],
          "happy", "Kind", .good⟩)) =
        .ok ⟨String.ofList [Char.ofNat 0x1f600], "happy", "Kind", .good⟩ ∧
      String.ofList [Char.ofNat 0x1f600] ≠
        String.ofList [Text.ofCodePoint 0xd83d, Text.ofCodePoint 0xde00] := by
  refine ⟨?deep, ?halves, by decide⟩
  case deep =>
    obtain ⟨error, refused, cause⟩ := read_nest (by decide : depthLimit ≤ 993 + 1) "deep"
      [("characterResponse", .str "Hi"), ("emotion", .str "happy"), ("evaluation", .str "Kind"),
        ("rating", .str Rating.good.word)]
    exact ⟨error, read_write_obj_error refused, cause⟩
  case halves =>
    have paired : Text.joined (String.ofList [Text.ofCodePoint 0xd83d, Text.ofCodePoint 0xde00]) =
        String.ofList [Char.ofNat 0x1f600] := by
      rw [Text.joined, String.toList_ofList]
      rfl
    have happy : Text.joined "happy" = "happy" := Text.joined_of_isWhole (by decide +kernel)
    have kind : Text.joined "Kind" = "Kind" := Text.joined_of_isWhole (by decide +kernel)
    rw [read_write_toJson (by decide), joined]
    dsimp only
    rw [paired, happy, kind]

end GradedAnswer

end VisualNovel
