import Mathlib.Data.List.Forall2
import Mathlib.Data.List.TakeWhile
import VisualNovel.Story.Interpolation

/-! Which parts of a text are tokens, and how the text reads once they have been replaced. A token is
told by how it is written alone: an opening brace, at least one word character, a closing brace, and
nothing else in between. No brace is a word character, so two tokens have no character in common,
and a brace that opens no token cannot be in the way of one that comes later. Taking a text apart
from left to right therefore finds exactly its tokens, whatever stands around them. What a token
brings in stands where the token stood and is not read again; two texts can be read one after the
other as long as no token begins in one and ends in the next. -/
namespace VisualNovel.Interpolation

open Text

/-- A token stands in a text, between what comes before it and what comes after it. -/
structure Occurs (text before name after : List Char) : Prop where
  whole : text = before ++ '\x7b' :: (name ++ '\x7d' :: after)
  named : name ≠ []
  worded : ∀ c ∈ name, isWordChar c = true

/-- A token begins in one text and ends in the text that follows it. -/
def Straddles (first second : List Char) : Prop :=
  ∃ before name after, Occurs (first ++ second) before name after ∧
    before.length < first.length ∧ first.length < before.length + name.length + 2

/-- A part of a text as it is written. -/
def Piece.source : Piece → List Char
  | char c => [c]
  | token name => '\x7b' :: (name.toList ++ ['\x7d'])

/-- Some parts of a text as they are written. -/
def source (parts : List Piece) : List Char := parts.flatMap Piece.source

@[simp] theorem source_nil : source [] = [] := rfl

@[simp] theorem source_cons (part : Piece) (parts : List Piece) :
    source (part :: parts) = part.source ++ source parts := rfl

@[simp] theorem source_append (earlier later : List Piece) :
    source (earlier ++ later) = source earlier ++ source later :=
  List.flatMap_append

/-- What a part of a text stands for: a character for itself, the player's token for the name that
was given or else for the usual one, any other token for the variable of that name or else for
itself. -/
inductive Piece.StandsFor (vars : Variables) (player : Option String) : Piece → String → Prop
  | char (c : Char) : StandsFor vars player (.char c) c.toString
  | named {given : String} (called : player = some given) (proper : given ≠ "") :
      StandsFor vars player (.token playerToken) given
  | unnamed (uncalled : player = none ∨ player = some "") :
      StandsFor vars player (.token playerToken) unnamedPlayer
  | held {name : String} {value : Value} (other : name ≠ playerToken)
      (holds : vars.get? name = some value) : StandsFor vars player (.token name) value.display
  | unknown {name : String} (other : name ≠ playerToken) (absent : vars.get? name = none) :
      StandsFor vars player (.token name) (String.ofList (Piece.token name).source)

variable {text rest before name after before' name' after' first second : List Char}

theorem opening_unworded : isWordChar '\x7b' = false := by decide +kernel

theorem closing_unworded : isWordChar '\x7d' = false := by decide +kernel

/-- A token follows if and only if word characters come first and then a closing brace. -/
theorem tokenAt?_eq_some : tokenAt? text = some (name, rest) ↔
    text = name ++ '\x7d' :: rest ∧ name ≠ [] ∧ ∀ c ∈ name, isWordChar c = true := by
  constructor
  · intro found
    have whole := List.takeWhile_append_dropWhile (p := isWordChar) (l := text)
    unfold tokenAt? at found
    split at found
    · rename_i head tail later named ended
      cases found
      rw [named, ended] at whole
      refine ⟨whole.symm, by simp, fun c among => ?_⟩
      rw [← named] at among
      exact List.mem_takeWhile_imp among
    · cases found
  · rintro ⟨rfl, named, worded⟩
    have taken : (name ++ '\x7d' :: rest).takeWhile isWordChar = name := by
      rw [List.takeWhile_append_of_pos worded, List.takeWhile_cons_of_neg (by simp [closing_unworded]),
        List.append_nil]
    have dropped : (name ++ '\x7d' :: rest).dropWhile isWordChar = '\x7d' :: rest := by
      rw [List.dropWhile_append_of_pos worded, List.dropWhile_cons_of_neg (by simp [closing_unworded])]
    cases name with
    | nil => exact absurd rfl named
    | cons head tail => simp only [tokenAt?, taken, dropped]

theorem tokenAt?_eq_none : tokenAt? text = none ↔
    ∀ name rest, text = name ++ '\x7d' :: rest → name ≠ [] → ¬∀ c ∈ name, isWordChar c = true := by
  constructor
  · intro missing name rest whole named worded
    have found := tokenAt?_eq_some.mpr ⟨whole, named, worded⟩
    cases missing.symm.trans found
  · intro nowhere
    cases found : tokenAt? text with
    | none => rfl
    | some token =>
      obtain ⟨whole, named, worded⟩ := tokenAt?_eq_some.mp found
      exact absurd worded (nowhere _ _ whole named)

/-- Tokens never overlap: one that begins later begins after the end of the other. -/
theorem occurs_apart (one : Occurs text before name after) (other : Occurs text before' name' after')
    (later : before.length < before'.length) :
    before.length + name.length + 2 ≤ before'.length := by
  have same := one.whole.symm.trans other.whole
  rcases List.append_eq_append_iff.mp same with ⟨between, rfl, inner⟩ | ⟨between, rfl, _⟩
  · cases between with
    | nil => simp at later
    | cons c between =>
      simp only [List.cons_append, List.cons.injEq] at inner
      rcases List.append_eq_append_iff.mp inner.2 with ⟨rest, rfl, closing⟩ | ⟨rest, rfl, opening⟩
      · cases rest with
        | nil => simp at closing
        | cons => simp only [List.length_append, List.length_cons]; omega
      · -- An opening brace is no word character, so it cannot stand in a name.
        cases rest with
        | nil => simp at opening
        | cons c rest =>
          simp only [List.cons_append, List.cons.injEq] at opening
          have word := one.worded c (by simp)
          rw [← opening.1, opening_unworded] at word
          cases word
  · simp only [List.length_append] at later
    omega

/-! ## Taking a text apart -/

theorem pieces_token (found : tokenAt? text = some (name, rest)) :
    pieces ('\x7b' :: text) = .token (String.ofList name) :: pieces rest := by
  rw [pieces]
  simp only [↓reduceIte]
  split
  · rename_i found'
    cases found.symm.trans found'
    rfl
  · rename_i missing
    cases missing.symm.trans found

theorem pieces_brace (missing : tokenAt? text = none) :
    pieces ('\x7b' :: text) = .char '\x7b' :: pieces text := by
  rw [pieces]
  simp only [↓reduceIte]
  split
  · rename_i found
    cases missing.symm.trans found
  · rfl

theorem pieces_char {c : Char} (plain : c ≠ '\x7b') :
    pieces (c :: text) = .char c :: pieces text := by
  rw [pieces, if_neg plain]

@[simp] theorem pieces_nil : pieces [] = [] := by rw [pieces]

/-- A text consists of its parts. -/
theorem source_pieces (text : List Char) : source (pieces text) = text := by
  fun_induction pieces text with
  | case1 => rfl
  | case2 rest name after found ih =>
    obtain ⟨rfl, _⟩ := tokenAt?_eq_some.mp found
    simp [Piece.source, ih]
  | case3 rest missing ih => simp [Piece.source, ih]
  | case4 c rest plain ih => simp [Piece.source, ih]

/-- What is found to be a token has the name of one. -/
theorem token_proper {name : String} (among : Piece.token name ∈ pieces text) :
    name.toList ≠ [] ∧ ∀ c ∈ name.toList, isWordChar c = true := by
  fun_induction pieces text with
  | case1 => cases among
  | case2 rest given after found ih =>
    rcases List.mem_cons.mp among with same | among
    · cases same
      rw [String.toList_ofList]
      exact (tokenAt?_eq_some.mp found).2
    · exact ih among
  | case3 rest missing ih => exact ih (by simpa using among)
  | case4 c rest plain ih => exact ih (by simpa using among)

/-- What stands before two texts does not keep a token from straddling them. -/
theorem Straddles.behind (lead : List Char) (straddles : Straddles first second) :
    Straddles (lead ++ first) second := by
  obtain ⟨before, name, after, ⟨whole, named, worded⟩, begins, ends⟩ := straddles
  refine ⟨lead ++ before, name, after, ⟨by simp [whole], named, worded⟩, ?_, ?_⟩
  · simp only [List.length_append]
    omega
  · simp only [List.length_append]
    omega

/-- A brace that opens no token in a text opens one in no longer text, unless that token straddles
the end of the first. -/
theorem tokenAt?_append_none (missing : tokenAt? first = none)
    (apart : ¬Straddles ('\x7b' :: first) second) : tokenAt? (first ++ second) = none := by
  refine tokenAt?_eq_none.mpr fun name rest whole named worded => ?_
  -- The token ends in the second text, at the seam, or already in the first text.
  rcases List.append_eq_append_iff.mp whole with ⟨more, rfl, _⟩ | ⟨more, rfl, closing⟩
  · refine apart ⟨[], first ++ more, rest, ⟨by simp [whole], named, worded⟩, by simp, ?_⟩
    simp only [List.length_cons, List.length_append, List.length_nil]
    omega
  · cases more with
    | nil =>
      refine apart ⟨[], name, rest, ⟨by simpa using closing.symm, named, worded⟩, by simp, ?_⟩
      simp
    | cons c more =>
      simp only [List.cons_append, List.cons.injEq] at closing
      refine tokenAt?_eq_none.mp missing name more ?_ named worded
      rw [← closing.1]

/-- Two texts that no token straddles can be taken apart one after the other. -/
theorem pieces_append (apart : ¬Straddles first second) :
    pieces (first ++ second) = pieces first ++ pieces second := by
  fun_induction pieces first with
  | case1 => rfl
  | case2 rest name after found ih =>
    obtain ⟨rfl, proper⟩ := tokenAt?_eq_some.mp found
    have found' : tokenAt? (name ++ '\x7d' :: after ++ second) = some (name, after ++ second) :=
      tokenAt?_eq_some.mpr ⟨by simp, proper⟩
    have later : ¬Straddles after second := fun straddles =>
      apart (by simpa using straddles.behind ('\x7b' :: (name ++ ['\x7d'])))
    rw [List.cons_append, pieces_token found', ih later, List.cons_append]
  | case3 rest missing ih =>
    have later : ¬Straddles rest second := fun straddles => apart (straddles.behind ['\x7b'])
    rw [List.cons_append, pieces_brace (tokenAt?_append_none missing apart), ih later,
      List.cons_append]
  | case4 c rest plain ih =>
    have later : ¬Straddles rest second := fun straddles => apart (straddles.behind [c])
    rw [List.cons_append, pieces_char plain, ih later, List.cons_append]

/-- A token is one of the parts, and the others are those of what stands before and after it. -/
theorem pieces_of_occurs (there : Occurs text before name after) :
    pieces text = pieces before ++ .token (String.ofList name) :: pieces after := by
  have apart : ¬Straddles before ('\x7b' :: (name ++ '\x7d' :: after)) := by
    rintro ⟨before', name', after', other, begins, ends⟩
    rw [← there.whole] at other
    have before := occurs_apart other there begins
    omega
  rw [there.whole, pieces_append apart,
    pieces_token (tokenAt?_eq_some.mpr ⟨rfl, there.named, there.worded⟩)]

/-- The tokens among the parts of a text are exactly the tokens that stand in it. -/
theorem occurs_iff : Occurs text before name after ↔ ∃ earlier later,
    pieces text = earlier ++ .token (String.ofList name) :: later ∧
      source earlier = before ∧ source later = after := by
  constructor
  · intro there
    exact ⟨_, _, pieces_of_occurs there, source_pieces before, source_pieces after⟩
  · rintro ⟨earlier, later, taken, rfl, rfl⟩
    have among : Piece.token (String.ofList name) ∈ pieces text := by simp [taken]
    have proper := token_proper among
    rw [String.toList_ofList] at proper
    refine ⟨?_, proper.1, proper.2⟩
    calc text = source (pieces text) := (source_pieces text).symm
      _ = _ := by simp [taken, Piece.source]

/-! ## Replacing the tokens -/

variable {vars : Variables} {player : Option String}

/-- A text without tokens consists of characters. -/
theorem pieces_plain (plain : ∀ before name after, ¬Occurs text before name after) :
    pieces text = text.map .char := by
  have characters (parts : List Piece) (untokened : ∀ name, .token name ∉ parts) :
      parts = (source parts).map .char := by
    induction parts with
    | nil => rfl
    | cons part rest ih =>
      have rested := ih fun name among => untokened name (List.mem_cons_of_mem _ among)
      cases part with
      | char c => simpa [Piece.source] using rested
      | token name => exact absurd List.mem_cons_self (untokened name)
  have untokened (name : String) : .token name ∉ pieces text := fun among => by
    obtain ⟨earlier, later, taken⟩ := List.append_of_mem among
    exact plain _ name.toList _ (occurs_iff.mpr ⟨earlier, later, by simpa using taken, rfl, rfl⟩)
  rw [characters (pieces text) untokened, source_pieces]

theorem expand_char (c : Char) : Piece.expand vars player (.char c) = c.toString := rfl

theorem expand_standsFor (part : Piece) : part.StandsFor vars player (part.expand vars player) := by
  cases part with
  | char c => exact .char c
  | token name =>
    by_cases same : name = playerToken
    · subst same
      simp only [Piece.expand, ↓reduceIte]
      cases player with
      | none => exact .unnamed (.inl rfl)
      | some given =>
        by_cases empty : given = ""
        · subst empty
          exact .unnamed (.inr rfl)
        · simp only [empty, ↓reduceIte]
          exact .named rfl empty
    · simp only [Piece.expand, same, ↓reduceIte]
      cases holds : vars.get? name with
      | none =>
        have written : "\x7b" ++ name ++ "\x7d" = String.ofList (Piece.token name).source :=
          String.toList_inj.mp (by simp [Piece.source])
        simp only [written]
        exact .unknown same holds
      | some value => exact .held same holds

/-- Characters stand for themselves. -/
theorem join_characters (text : List Char) :
    String.join ((text.map Piece.char).map (Piece.expand vars player)) = String.ofList text := by
  refine String.toList_inj.mp ?_
  simp [String.toList_join, List.flatMap_map, expand_char, Char.toString]

/-- Whether a text can be written out depends on the variables that replace its tokens. -/
theorem isWritable_iff {text : String} : isWritable text vars = true ↔
    ∀ before name after value, Occurs text.toList before name after →
      String.ofList name ≠ playerToken → vars.get? (String.ofList name) = some value →
        value.isWritable = true := by
  rw [isWritable, List.all_eq_true]
  constructor
  · intro writable before name after value there unplayer held
    have token := writable (.token (String.ofList name)) (by simp [pieces_of_occurs there])
    simpa [Piece.isWritable, unplayer, held] using token
  · intro writable part among
    cases part with
    | char c => rfl
    | token name =>
      obtain ⟨earlier, later, taken⟩ := List.append_of_mem among
      have there : Occurs text.toList (source earlier) name.toList (source later) :=
        occurs_iff.mpr ⟨earlier, later, by simpa using taken, rfl, rfl⟩
      by_cases unplayer : name = playerToken
      · simp [Piece.isWritable, unplayer]
      · cases held : vars.get? name with
        | none => simp [Piece.isWritable, held]
        | some value =>
          have fine := writable _ _ _ value there (by simpa using unplayer) (by simpa using held)
          simp [Piece.isWritable, held, fine]

/-- How a text reads once its tokens have been replaced by what they stand for. -/
structure Replaced (vars : Variables) (player : Option String) (text : String) : Prop where
  /-- No two tokens of a text overlap. -/
  apart : ∀ before name after before' name' after', Occurs text.toList before name after →
    Occurs text.toList before' name' after' → before.length < before'.length →
      before.length + name.length + 2 ≤ before'.length
  /-- The text consists of its tokens and of single characters, each of which stands for itself, and
  the result of what they stand for, in the same order. -/
  inOrder : ∃ (parts : List Piece) (brought : List String), source parts = text.toList ∧
    (∀ before name after, Occurs text.toList before name after ↔ ∃ earlier later,
      parts = earlier ++ .token (String.ofList name) :: later ∧
        source earlier = before ∧ source later = after) ∧
    List.Forall₂ (Piece.StandsFor vars player) parts brought ∧
    interpolate text vars player = String.join brought
  /-- A token is replaced in its place; what it brings in is not read again. -/
  once : ∀ before name after, Occurs text.toList before name after → ∃ brought,
    Piece.StandsFor vars player (.token (String.ofList name)) brought ∧
      interpolate text vars player = interpolate (String.ofList before) vars player ++ brought ++
        interpolate (String.ofList after) vars player
  /-- A text without tokens stays as it is. -/
  plain : (∀ before name after, ¬Occurs text.toList before name after) →
    interpolate text vars player = text
  /-- Two texts can be replaced one after the other unless a token straddles them. -/
  seam : ∀ later : String, ¬Straddles text.toList later.toList →
    interpolate (text ++ later) vars player =
      interpolate text vars player ++ interpolate later vars player
  /-- The result can be written out if every variable can that replaces a token. -/
  writable : isWritable text vars = true ↔
    ∀ before name after value, Occurs text.toList before name after →
      String.ofList name ≠ playerToken → vars.get? (String.ofList name) = some value →
        value.isWritable = true

end VisualNovel.Interpolation
