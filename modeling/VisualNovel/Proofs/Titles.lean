import Mathlib.Data.List.Basic
import VisualNovel.Text.Slug

/-! The slugs that titles are given. What becomes of the spelling of a title is followed from its
end: without the hyphens there it is a slug, perhaps with one hyphen in front, or nothing
(`ragged_hyphenate`). On the other hand a slug has nothing in it that a title loses on the way, so
it is its own slug (`slugify_of_areJoined`). -/
namespace VisualNovel.Text

variable {c : Char} {text rest : List Char}

/-! ## Groups joined by hyphens -/

/-- What a slug is: letters and digits, with a hyphen between two of them or nothing. -/
inductive AreJoined : List Char → Prop
  | single {c : Char} (letter : isSlugChar c = true) : AreJoined [c]
  | cons {c : Char} {text : List Char} (letter : isSlugChar c = true) (joined : AreJoined text) :
    AreJoined (c :: text)
  | hyphen {c : Char} {text : List Char} (letter : isSlugChar c = true) (joined : AreJoined text) :
    AreJoined (c :: '-' :: text)

/-- A group of a slug. -/
structure IsGroup (group : List Char) : Prop where
  given : group ≠ []
  chars : ∀ c ∈ group, isSlugChar c = true

/-- Nothing is wrong with a slug: it is made of groups, so no hyphen is at an end of it or next to
another one, and there are no other characters. -/
structure IsWellFormed (slug : List Char) : Prop where
  grouped : ∃ groups : List (List Char), groups ≠ [] ∧ (∀ group ∈ groups, IsGroup group) ∧
    slug = ['-'].intercalate groups
  begins : slug.head? ≠ some '-'
  ends : slug.getLast? ≠ some '-'
  undoubled : ¬['-', '-'] <:+: slug
  plain : ∀ c ∈ ['/', '\\', '.'], c ∉ slug

theorem ne_hyphen (letter : isSlugChar c = true) : c ≠ '-' := by
  rintro rfl
  exact absurd letter (by decide)

theorem IsGroup.single (letter : isSlugChar c = true) : IsGroup [c] :=
  ⟨List.cons_ne_nil _ _, by simpa using letter⟩

theorem IsGroup.areJoined {group : List Char} (isGroup : IsGroup group) : AreJoined group := by
  obtain ⟨given, chars⟩ := isGroup
  induction group with
  | nil => exact absurd rfl given
  | cons c rest ih =>
    obtain ⟨letter, others⟩ := List.forall_mem_cons.mp chars
    cases rest with
    | nil => exact .single letter
    | cons next rest => exact .cons letter (ih (List.cons_ne_nil _ _) others)

theorem intercalate_next (group next : List Char) (groups : List (List Char)) :
    ['-'].intercalate (group :: next :: groups) =
      group ++ '-' :: ['-'].intercalate (next :: groups) := by
  simp [List.intercalate_cons_cons]

namespace AreJoined

theorem groups (joined : AreJoined text) :
    ∃ groups : List (List Char), groups ≠ [] ∧ (∀ group ∈ groups, IsGroup group) ∧
      text = ['-'].intercalate groups := by
  induction joined with
  | @single c letter =>
    refine ⟨[[c]], List.cons_ne_nil _ _, ?_, by simp⟩
    intro group among
    rw [List.mem_singleton.mp among]
    exact .single letter
  | @cons c text letter joined ih =>
    -- The letter is put into the first group of the rest.
    obtain ⟨_ | ⟨group, groups⟩, some, each, rfl⟩ := ih
    · exact absurd rfl some
    · obtain ⟨first, others⟩ := List.forall_mem_cons.mp each
      have first : IsGroup (c :: group) :=
        ⟨List.cons_ne_nil _ _, List.forall_mem_cons.mpr ⟨letter, first.chars⟩⟩
      refine ⟨(c :: group) :: groups, List.cons_ne_nil _ _,
        List.forall_mem_cons.mpr ⟨first, others⟩, ?_⟩
      cases groups with
      | nil => simp
      | cons next groups => rw [intercalate_next, intercalate_next, List.cons_append]
  | @hyphen c text letter joined ih =>
    -- The letter is a group of its own.
    obtain ⟨_ | ⟨group, groups⟩, some, each, rfl⟩ := ih
    · exact absurd rfl some
    · refine ⟨[c] :: group :: groups, List.cons_ne_nil _ _,
        List.forall_mem_cons.mpr ⟨.single letter, each⟩, ?_⟩
      rw [intercalate_next, List.singleton_append]

theorem exists_cons (joined : AreJoined text) :
    ∃ c rest, text = c :: rest ∧ isSlugChar c = true := by
  cases joined with
  | single letter | cons letter | hyphen letter => exact ⟨_, _, rfl, letter⟩

theorem chars (joined : AreJoined text) : ∀ c ∈ text, isSlugChar c = true ∨ c = '-' := by
  induction joined with
  | single letter => simpa using .inl letter
  | cons letter joined ih => exact List.forall_mem_cons.mpr ⟨.inl letter, ih⟩
  | hyphen letter joined ih =>
    exact List.forall_mem_cons.mpr ⟨.inl letter, List.forall_mem_cons.mpr ⟨.inr rfl, ih⟩⟩

theorem last (joined : AreJoined text) : text.getLast? ≠ some '-' := by
  induction joined with
  | single letter => simpa using ne_hyphen letter
  | cons letter joined ih | hyphen letter joined ih =>
    obtain ⟨_, _, rfl, -⟩ := joined.exists_cons
    simpa [List.getLast?_cons_cons] using ih

theorem undoubled (joined : AreJoined text) : ¬['-', '-'] <:+: text := by
  induction joined with
  | single letter =>
    intro twice
    have short := twice.length_le
    simp at short
  | cons letter joined ih =>
    rw [List.infix_cons_iff, List.cons_prefix_cons]
    rintro (⟨same, -⟩ | twice)
    · exact ne_hyphen letter same.symm
    · exact ih twice
  | hyphen letter joined ih =>
    obtain ⟨next, others, rfl, after⟩ := joined.exists_cons
    intro twice
    rcases List.infix_cons_iff.mp twice with first | twice
    · exact ne_hyphen letter (List.cons_prefix_cons.mp first).1.symm
    rcases List.infix_cons_iff.mp twice with second | twice
    · have third := (List.cons_prefix_cons.mp second).2
      exact ne_hyphen after (List.cons_prefix_cons.mp third).1.symm
    · exact ih twice

theorem isWellFormed (joined : AreJoined text) : IsWellFormed text where
  grouped := joined.groups
  begins := by
    obtain ⟨c, rest, rfl, letter⟩ := joined.exists_cons
    simpa using ne_hyphen letter
  ends := joined.last
  undoubled := joined.undoubled
  plain := by
    intro c wrong among
    have no : ¬(isSlugChar c = true ∨ c = '-') := by
      simp only [List.mem_cons, List.not_mem_nil, or_false] at wrong
      rcases wrong with rfl | rfl | rfl <;> decide
    exact no (joined.chars c among)

end AreJoined

/-! ## Passes over a spelling -/

theorem hyphenate_letter (letter : isSlugChar c = true) :
    hyphenate (c :: rest) = c :: hyphenate rest := by
  rw [hyphenate, if_pos letter]

theorem dropLastHyphens_cons (c : Char) (rest : List Char) :
    dropLastHyphens (c :: rest) =
      if dropLastHyphens rest = [] ∧ c = '-' then [] else c :: dropLastHyphens rest := by
  rw [dropLastHyphens, List.reverse_cons, List.dropWhile_append]
  by_cases all : rest.reverse.dropWhile (· == '-') = []
  · by_cases same : c = '-' <;> simp [dropLastHyphens, all, same]
  · simp [dropLastHyphens, all]

theorem dropLastHyphens_letter (letter : isSlugChar c = true) :
    dropLastHyphens (c :: rest) = c :: dropLastHyphens rest := by
  rw [dropLastHyphens_cons, if_neg fun both => ne_hyphen letter both.2]

/-- A slug with a hyphen that has been left in front of it, or nothing. -/
inductive IsRagged : List Char → Prop
  | nothing : IsRagged []
  | clean {text : List Char} (joined : AreJoined text) : IsRagged text
  | behind {text : List Char} (joined : AreJoined text) : IsRagged ('-' :: text)

theorem IsRagged.letter (letter : isSlugChar c = true) (ragged : IsRagged text) :
    AreJoined (c :: text) := by
  cases ragged with
  | nothing => exact .single letter
  | clean joined => exact .cons letter joined
  | behind joined => exact .hyphen letter joined

theorem ragged_hyphenate (text : List Char) : IsRagged (dropLastHyphens (hyphenate text)) := by
  induction text with
  | nil => exact .nothing
  | cons c rest ih =>
    by_cases letter : isSlugChar c = true
    · rw [hyphenate_letter letter, dropLastHyphens_letter letter]
      exact .clean (ih.letter letter)
    · rw [hyphenate, if_neg letter]
      split
      · exact ih
      · rename_i last
        -- The run ends here, so a letter comes next if anything does.
        cases rest with
        | nil => exact .nothing
        | cons next others =>
          have letter : isSlugChar next = true := by simpa using last
          rw [hyphenate_letter letter, dropLastHyphens_letter letter] at ih
          rw [hyphenate_letter letter, dropLastHyphens_cons, dropLastHyphens_letter letter,
            if_neg (by simp)]
          cases ih with
          | clean joined => exact .behind joined
          | behind joined => exact absurd rfl (ne_hyphen letter)

theorem dropWhile_joined (joined : AreJoined text) : text.dropWhile (· == '-') = text := by
  obtain ⟨c, rest, rfl, letter⟩ := joined.exists_cons
  exact List.dropWhile_cons_of_neg (by simpa using ne_hyphen letter)

theorem trimHyphens_hyphenate (text : List Char) :
    trimHyphens (hyphenate text) = [] ∨ AreJoined (trimHyphens (hyphenate text)) := by
  have ragged := ragged_hyphenate text
  rw [trimHyphens]
  generalize dropLastHyphens (hyphenate text) = left at ragged
  cases ragged with
  | nothing => exact .inl rfl
  | clean joined => exact .inr (by rwa [dropWhile_joined joined])
  | behind joined =>
    right
    rwa [List.dropWhile_cons_of_pos (by decide), dropWhile_joined joined]

/-! ## Slugs of slugs -/

theorem hyphenate_joined (joined : AreJoined text) : hyphenate text = text := by
  induction joined with
  | single letter => rw [hyphenate_letter letter, hyphenate]
  | cons letter joined ih => rw [hyphenate_letter letter, ih]
  | hyphen letter joined ih =>
    obtain ⟨next, others, rfl, after⟩ := joined.exists_cons
    rw [hyphenate_letter letter, hyphenate, if_neg (by decide), if_neg (by simp [after]), ih]

theorem dropLastHyphens_joined (joined : AreJoined text) : dropLastHyphens text = text := by
  induction joined with
  | single letter =>
    rw [dropLastHyphens_letter letter]
    rfl
  | cons letter joined ih => rw [dropLastHyphens_letter letter, ih]
  | hyphen letter joined ih =>
    obtain ⟨_, _, rfl, -⟩ := joined.exists_cons
    rw [dropLastHyphens_letter letter, dropLastHyphens_cons, ih, if_neg (by simp)]

/-- A character of a slug is spelled as itself. -/
theorem spell_char (fits : isSlugChar c = true ∨ c = '-') :
    asciiSpelling c = [c] ∧ c.toLower = c ∧ (c != '\'' && c != '"') = true := by
  have all : ∀ n < 128, isSlugChar (Char.ofNat n) = true ∨ Char.ofNat n = '-' →
      (Char.ofNat n).toLower = Char.ofNat n ∧
        (Char.ofNat n != '\'' && Char.ofNat n != '"') = true := by
    decide
  have small : c.toNat < 128 := by
    rcases fits with letter | rfl
    · have within : ((97 ≤ c.val && c.val ≤ 122) || (48 ≤ c.val && c.val ≤ 57)) = true := letter
      simp only [Bool.or_eq_true, Bool.and_eq_true, decide_eq_true_eq] at within
      rcases within with ⟨-, high⟩ | ⟨-, high⟩
      · exact Nat.lt_of_le_of_lt high (by decide)
      · exact Nat.lt_of_le_of_lt high (by decide)
    · decide
  have same := all c.toNat small
  rw [Char.ofNat_toNat] at same
  exact ⟨if_pos small, same fits⟩

theorem spell_chars (chars : ∀ c ∈ text, isSlugChar c = true ∨ c = '-') : spell text = text := by
  induction text with
  | nil => rfl
  | cons c rest ih =>
    obtain ⟨first, others⟩ := List.forall_mem_cons.mp chars
    obtain ⟨spelled, small, kept⟩ := spell_char first
    rw [spell, List.flatMap_cons, spelled, List.singleton_append, List.map_cons, small,
      List.filter_cons, if_pos kept]
    exact congrArg (c :: ·) (ih others)

theorem slugify_of_areJoined {slug : String} (joined : AreJoined slug.toList) :
    slugify slug = slug := by
  obtain ⟨c, rest, starts, -⟩ := joined.exists_cons
  have trimmed : trimHyphens (hyphenate (spell slug.toList)) = c :: rest := by
    rw [spell_chars joined.chars, hyphenate_joined joined, trimHyphens, dropLastHyphens_joined joined,
      dropWhile_joined joined, starts]
  rw [slugify, trimmed]
  dsimp only
  rw [← starts, String.ofList_toList]

/-! ## Slugs of titles -/

theorem filter_hyphenate (text : List Char) :
    (hyphenate text).filter isSlugChar = text.filter isSlugChar := by
  induction text with
  | nil => rfl
  | cons c rest ih =>
    by_cases letter : isSlugChar c = true
    · rw [hyphenate_letter letter, List.filter_cons_of_pos letter, List.filter_cons_of_pos letter,
        ih]
    · rw [hyphenate, if_neg letter, List.filter_cons_of_neg letter]
      split
      · exact ih
      · rw [List.filter_cons_of_neg (by decide), ih]

theorem filter_dropWhile (text : List Char) :
    (text.dropWhile (· == '-')).filter isSlugChar = text.filter isSlugChar := by
  induction text with
  | nil => rfl
  | cons c rest ih =>
    by_cases same : c = '-'
    · subst same
      rw [List.dropWhile_cons_of_pos (by decide), ih, List.filter_cons_of_neg (by decide)]
    · rw [List.dropWhile_cons_of_neg (by simpa using same)]

/-- No letter is lost by trimming. -/
theorem filter_trimHyphens (text : List Char) :
    (trimHyphens text).filter isSlugChar = text.filter isSlugChar := by
  rw [trimHyphens, filter_dropWhile, dropLastHyphens, List.filter_reverse, filter_dropWhile,
    List.filter_reverse, List.reverse_reverse]

/-- The letters and digits that are left of a title. -/
def letters (title : String) : List Char := (spell title.toList).filter isSlugChar

theorem isGroup_untitled : IsGroup untitled.toList :=
  ⟨by decide, List.all_eq_true.mp (by decide)⟩

/-- A title without letters and digits has the standard slug, and any other title a slug of
them. -/
theorem slugify_cases (title : String) :
    letters title = [] ∧ slugify title = untitled ∨
      AreJoined (slugify title).toList ∧ (slugify title).toList.filter isSlugChar = letters title ∧
        letters title ≠ [] := by
  have kept : (trimHyphens (hyphenate (spell title.toList))).filter isSlugChar = letters title := by
    rw [filter_trimHyphens, filter_hyphenate, letters]
  rw [← kept, slugify]
  rcases trimHyphens_hyphenate (spell title.toList) with nothing | joined
  · rw [nothing]
    exact .inl ⟨rfl, rfl⟩
  · obtain ⟨c, rest, starts, letter⟩ := joined.exists_cons
    rw [starts] at joined ⊢
    dsimp only
    rw [String.toList_ofList, List.filter_cons_of_pos letter]
    exact .inr ⟨joined, rfl, List.cons_ne_nil _ _⟩

theorem areJoined_slugify (title : String) : AreJoined (slugify title).toList := by
  rcases slugify_cases title with ⟨-, untitled⟩ | ⟨joined, -⟩
  · rw [untitled]
    exact isGroup_untitled.areJoined
  · exact joined

/-- Every title has a well-formed slug, which is its own slug. All letters and digits of the title
are in it, in their order. -/
theorem slugs_are_well_formed_and_stable (title : String) :
    IsWellFormed (slugify title).toList ∧ slugify (slugify title) = slugify title ∧
      (slugify title).toList.filter isSlugChar =
        if letters title = [] then untitled.toList else letters title := by
  refine ⟨(areJoined_slugify title).isWellFormed, slugify_of_areJoined (areJoined_slugify title),
    ?_⟩
  rcases slugify_cases title with ⟨none, slug⟩ | ⟨-, kept, some⟩
  · rw [if_pos none, slug]
    decide
  · rw [if_neg some, kept]

example : slugify "Ana's Rainy Day -- at the Café" = "anas-rainy-day-at-the-cafe" := by
  decide +kernel

end VisualNovel.Text
