import Mathlib.Data.List.Nodup
import VisualNovel.Story.Variables

/-! What becomes of variables when some are set and then some are added to. Both go through their
lists one entry after the other, on a map that grows on the way; but what a list gives to one name
leaves every other name as it was. So each variable goes by what is given for its own name: it takes
the value that is set for it, if there is one, and what is to be added is added to that. The order in
which the names are listed therefore makes no difference, neither to the values nor to whether all
the sums are within the range. -/
namespace VisualNovel

/-! ## Lists of entries -/

namespace Named

universe u

variable {α : Type u} {name given : String} {value increment : α} {entries others : List (String × α)}

/-- A list of entries gives a name what its first entry gives it, or else what the others do. -/
theorem find?_cons_eq_some : find? name ((given, increment) :: entries) = some value ↔
    (given = name ∧ increment = value) ∨ (given ≠ name ∧ find? name entries = some value) := by
  by_cases same : given = name <;> simp [find?, same]

/-- A name that is listed once has the value of its one entry. -/
theorem find?_eq_some (distinct : (entries.map Prod.fst).Nodup) :
    find? name entries = some value ↔ (name, value) ∈ entries := by
  induction entries with
  | nil => simp [find?]
  | cons entry rest ih =>
    obtain ⟨given, held⟩ := entry
    rw [List.map_cons, List.nodup_cons] at distinct
    rw [find?_cons_eq_some, ih distinct.2, List.mem_cons, Prod.mk.injEq]
    by_cases same : given = name
    · subst same
      have unlisted : (given, value) ∉ rest := fun among =>
        distinct.1 (List.mem_map.mpr ⟨_, among, rfl⟩)
      simp [unlisted, eq_comm]
    · simp [same, Ne.symm same]

/-- What a name is given does not depend on the order of the entries. -/
theorem find?_perm (relisted : entries.Perm others) (distinct : (others.map Prod.fst).Nodup) :
    find? name entries = find? name others := by
  have distinct' : (entries.map Prod.fst).Nodup := (relisted.map Prod.fst).nodup_iff.mpr distinct
  ext value
  rw [find?_eq_some distinct', find?_eq_some distinct, relisted.mem_iff]

/-- Names take the values that they are given, and all others keep theirs. -/
theorem get?_insertAll (named : Named α) (distinct : (entries.map Prod.fst).Nodup) :
    (named.insertAll entries).get? name = (find? name entries).or (named.get? name) := by
  induction entries generalizing named with
  | nil => rfl
  | cons entry rest ih =>
    obtain ⟨given, value⟩ := entry
    rw [List.map_cons, List.nodup_cons] at distinct
    have rested := ih (named.insert given value) distinct.2
    rw [get?_insert] at rested
    by_cases same : given = name
    · subst same
      rw [find?_eq_none.mpr distinct.1] at rested
      simpa [find?, insertAll] using rested
    · simpa [find?, insertAll, same] using rested

end Named

/-- The value that is given for a name, if values are given at all. -/
def given? {α : Type} (values : Option (Named α)) (name : String) : Option α :=
  Named.find? name ((values.map (·.entries)).getD [])

/-- The same values are given, listed in any order. -/
def Relisted {α : Type} (values others : Option (Named α)) : Prop :=
  ((values.map (·.entries)).getD []).Perm ((others.map (·.entries)).getD [])

theorem distinct_given {α : Type} (values : Option (Named α)) :
    (((values.map (·.entries)).getD []).map Prod.fst).Nodup := by
  cases values with
  | none => exact List.nodup_nil
  | some values => exact values.distinct

theorem Relisted.given? {α : Type} {values others : Option (Named α)}
    (relisted : Relisted values others) (name : String) :
    given? values name = VisualNovel.given? others name :=
  Named.find?_perm relisted (distinct_given others)

/-! ## Sums -/

/-- The number to which something is added: what is absent, a truth value or a text counts as
zero. -/
def Value.addend : Option Value → Number
  | some (.number value) => value
  | some (.bool _) | some (.text _) | none => .int 0

namespace Variables

variable {vars changed : Variables} {name : String} {increment : Number}
  {increments : List (String × Number)} {set set' : Option Variables} {add add' : Option Increments}

theorem number?_addend (vars : Variables) (name : String) :
    (vars.number? name).getD (.int 0) = Value.addend (vars.get? name) := by
  unfold number?
  cases vars.get? name with
  | none => rfl
  | some value => cases value <;> rfl

/-- What comes of adding to the variable of a name. -/
def sum? (vars : Variables) (name : String) (increment : Number) : Option Number :=
  (Value.addend (vars.get? name)).add? increment

/-- Adding to a variable puts the sum in its place, if there is one. -/
theorem addTo_eq (vars : Variables) (name : String) (increment : Number) :
    vars.addTo name increment =
      (vars.sum? name increment).map fun total => vars.insert name (.number total) := by
  rw [addTo, number?_addend, sum?]
  exact (Option.map_eq_bind ..).symm

theorem addAll_cons (vars : Variables) (name : String) (increment : Number)
    (rest : List (String × Number)) : vars.addAll ((name, increment) :: rest) =
      (vars.sum? name increment).bind fun total =>
        Variables.addAll (vars.insert name (.number total)) rest := by
  have first : vars.addAll ((name, increment) :: rest) =
      (vars.addTo name increment).bind fun vars => vars.addAll rest := rfl
  rw [first, addTo_eq, Option.bind_map]
  rfl

/-- A sum is left as it was by what another name is given. -/
theorem sum?_insert_other {given : String} (other : given ≠ name) (value : Value) :
    Variables.sum? (vars.insert given value) name increment = vars.sum? name increment := by
  simp [sum?, other]

/-- Several sums come about if each of them does by itself: none is in the way of another. -/
theorem addAll_isSome (distinct : (increments.map Prod.fst).Nodup) :
    (vars.addAll increments).isSome = true ↔ ∀ name increment,
      Named.find? name increments = some increment → (vars.sum? name increment).isSome = true := by
  induction increments generalizing vars with
  | nil => simp [addAll, Named.find?]
  | cons entry rest ih =>
    obtain ⟨given, delta⟩ := entry
    rw [List.map_cons, List.nodup_cons] at distinct
    have apart : ∀ {name increment}, Named.find? name rest = some increment → given ≠ name :=
      fun found same => by simp [Named.find?_eq_none.mpr (same ▸ distinct.1)] at found
    rw [addAll_cons]
    cases sum : vars.sum? given delta with
    | none =>
      -- The sum of the first entry is missing, so neither side holds.
      simp only [Option.bind_none, Option.isSome_none, Bool.false_eq_true, false_iff]
      intro each
      have summed := each given delta (Named.find?_cons_eq_some.mpr (.inl ⟨rfl, rfl⟩))
      simp [sum] at summed
    | some total =>
      simp only [Option.bind_some, ih distinct.2]
      constructor
      · intro each name increment found
        obtain ⟨rfl, rfl⟩ | ⟨other, found⟩ := Named.find?_cons_eq_some.mp found
        · simp [sum]
        · rw [← sum?_insert_other other]
          exact each name increment found
      · intro each name increment found
        rw [sum?_insert_other (apart found)]
        exact each name increment (Named.find?_cons_eq_some.mpr (.inr ⟨apart found, found⟩))

/-- After several sums a name has the one that is its own, or else what it had. -/
theorem get?_addAll (distinct : (increments.map Prod.fst).Nodup)
    (came : vars.addAll increments = some changed) (name : String) :
    changed.get? name =
      match Named.find? name increments with
      | some increment => (vars.sum? name increment).map Value.number
      | none => vars.get? name := by
  induction increments generalizing vars with
  | nil =>
    cases came
    rfl
  | cons entry rest ih =>
    obtain ⟨given, delta⟩ := entry
    rw [List.map_cons, List.nodup_cons] at distinct
    rw [addAll_cons, Option.bind_eq_some_iff] at came
    obtain ⟨total, sum, others⟩ := came
    have rested := ih distinct.2 others
    by_cases same : given = name
    · subst same
      rw [Named.find?_eq_none.mpr distinct.1] at rested
      simpa [Named.find?, sum] using rested
    · simpa [Named.find?, same, sum?_insert_other same] using rested

/-! ## Setting, then adding -/

/-- The value of a variable once values are set: the one that is set for it, or else its own. -/
def settled? (vars : Variables) (set : Option Variables) (name : String) : Option Value :=
  (given? set name).or (vars.get? name)

/-- What comes of adding to a variable once values are set. -/
def total? (vars : Variables) (set : Option Variables) (name : String) (increment : Number) :
    Option Number :=
  (Value.addend (vars.settled? set name)).add? increment

theorem get?_set (vars : Variables) (set : Option Variables) (name : String) :
    Named.get? (vars.insertAll ((set.map (·.entries)).getD [])) name = vars.settled? set name :=
  vars.get?_insertAll (distinct_given set)

theorem mutate_isSome : (vars.mutate set add).isSome = true ↔ ∀ name increment,
    given? add name = some increment → (vars.total? set name increment).isSome = true := by
  rw [mutate, addAll_isSome (distinct_given add)]
  simp only [sum?, get?_set]
  rfl

theorem get?_mutate (came : vars.mutate set add = some changed) (name : String) :
    changed.get? name =
      match given? add name with
      | some increment => (vars.total? set name increment).map Value.number
      | none => vars.settled? set name := by
  have final := get?_addAll (distinct_given add) came name
  simp only [sum?, get?_set] at final
  exact final

/-- Only what is given for each name counts. -/
theorem mutate_congr (sets : ∀ name, given? set' name = given? set name)
    (adds : ∀ name, given? add' name = given? add name) :
    (vars.mutate set' add').map Named.get? = (vars.mutate set add).map Named.get? := by
  have both : (vars.mutate set' add').isSome = (vars.mutate set add).isSome := by
    rw [Bool.eq_iff_iff, mutate_isSome, mutate_isSome]
    simp only [total?, settled?, sets, adds]
  cases came : vars.mutate set add with
  | none => simpa [came] using both
  | some changed =>
    rw [came, Option.isSome_some, Option.isSome_iff_exists] at both
    obtain ⟨changed', came'⟩ := both
    rw [came', Option.map_some, Option.map_some, Option.some_inj]
    funext name
    rw [get?_mutate came, get?_mutate came']
    simp only [total?, settled?, sets, adds]

/-- What comes of setting variables and then adding to them, name by name. -/
structure SetThenAdded (vars : Variables) (set : Option Variables) (add : Option Increments) :
    Prop where
  /-- Something comes of it exactly if every sum by itself is within the range. -/
  comes : (vars.mutate set add).isSome = true ↔ ∀ name increment,
    given? add name = some increment → (vars.total? set name increment).isSome = true
  /-- What is added to is the sum of what is added and of what is set, or else of what was there. -/
  added : ∀ changed, vars.mutate set add = some changed → ∀ name increment,
    given? add name = some increment → ∃ total,
      (Value.addend ((given? set name).or (vars.get? name))).add? increment = some total ∧
        changed.get? name = some (.number total)
  /-- Anything else is what is set, or else what was there. -/
  others : ∀ changed, vars.mutate set add = some changed → ∀ name,
    given? add name = none → changed.get? name = (given? set name).or (vars.get? name)
  /-- The names are those that were there, those that are set and those that are added to. -/
  names : ∀ changed, vars.mutate set add = some changed → ∀ name,
    (changed.get? name).isSome = true ↔ (vars.get? name).isSome = true ∨
      (given? set name).isSome = true ∨ (given? add name).isSome = true
  /-- An integer added to an integer is an exact integer, however large. -/
  exact : ∀ changed, vars.mutate set add = some changed → ∀ name first second,
    Value.addend ((given? set name).or (vars.get? name)) = .int first →
      given? add name = some (.int second) →
        changed.get? name = some (.number (.int (first + second)))
  /-- The order in which names are listed makes no difference to any of this. -/
  unordered : ∀ set' add', Relisted set' set → Relisted add' add →
    (vars.mutate set' add').map Named.get? = (vars.mutate set add).map Named.get?

theorem mutate_total (came : vars.mutate set add = some changed)
    (given : given? add name = some increment) : ∃ total,
      vars.total? set name increment = some total ∧
        changed.get? name = some (.number total) := by
  have comes : (vars.mutate set add).isSome = true := Option.isSome_iff_exists.mpr ⟨_, came⟩
  obtain ⟨total, sum⟩ := Option.isSome_iff_exists.mp (mutate_isSome.mp comes name increment given)
  have value := get?_mutate came name
  rw [given] at value
  exact ⟨total, sum, by simpa [sum] using value⟩

theorem mutate_names (came : vars.mutate set add = some changed) (name : String) :
    (changed.get? name).isSome = true ↔ (vars.get? name).isSome = true ∨
      (given? set name).isSome = true ∨ (given? add name).isSome = true := by
  cases given : given? add name with
  | some increment =>
    obtain ⟨total, _, value⟩ := mutate_total came given
    simp [value]
  | none =>
    have value := get?_mutate came name
    rw [given] at value
    simp [value, settled?, or_comm]

/-- Variables are set first and added to then, each by its own name. -/
theorem variables_are_set_then_added_to (vars : Variables) (set : Option Variables)
    (add : Option Increments) : SetThenAdded vars set add where
  comes := mutate_isSome
  added := fun _ came _ _ given => mutate_total came given
  others := fun _ came name given => by
    have value := get?_mutate came name
    rwa [given] at value
  names := fun _ came name => mutate_names came name
  exact := fun _ came name first second before given => by
    obtain ⟨total, sum, value⟩ := mutate_total came given
    rw [total?, settled?, before] at sum
    cases sum
    exact value
  unordered := fun _ _ sets adds => mutate_congr sets.given? adds.given?

end Variables
end VisualNovel
