import Mathlib.Logic.Basic

/-! When a sequence of steps that may fail comes to an end, and when it fails: the step that decides
is found by reading the sequence from its front. -/
namespace VisualNovel.Outcome

variable {ε α β : Type}

@[simp] theorem bind_eq_ok {first : Except ε α} {rest : α → Except ε β} {value : β} :
    first >>= rest = .ok value ↔ ∃ middle, first = .ok middle ∧ rest middle = .ok value := by
  cases first <;> simp [bind, Except.bind]

@[simp] theorem bind_eq_error {first : Except ε α} {rest : α → Except ε β} {fault : ε} :
    first >>= rest = .error fault ↔
      first = .error fault ∨ ∃ middle, first = .ok middle ∧ rest middle = .error fault := by
  cases first <;> simp [bind, Except.bind]

@[simp] theorem map_eq_ok {first : Except ε α} {f : α → β} {value : β} :
    f <$> first = .ok value ↔ ∃ middle, first = .ok middle ∧ f middle = value := by
  cases first <;> simp [Functor.map, Except.map]

@[simp] theorem pure_eq_ok {value other : α} :
    (pure value : Except ε α) = .ok other ↔ value = other := by
  simp [pure, Except.pure]

@[simp] theorem pure_ne_error {value : α} {fault : ε} :
    (pure value : Except ε α) ≠ .error fault := by
  simp [pure, Except.pure]

@[simp] theorem mapError_ok {δ : Type} {f : ε → δ} {value : α} :
    (Except.ok value : Except ε α).mapError f = .ok value :=
  rfl

@[simp] theorem mapError_error {δ : Type} {f : ε → δ} {fault : ε} :
    (Except.error fault : Except ε α).mapError f = .error (f fault) :=
  rfl

/-- Failures that are renamed are failures still. -/
theorem mapError_eq_ok {δ : Type} {outcome : Except ε α} {f : ε → δ} {value : α} :
    outcome.mapError f = .ok value ↔ outcome = .ok value := by
  cases outcome with
  | error fault => exact iff_of_false nofun nofun
  | ok other =>
    constructor <;>
    · rintro ⟨⟩
      rfl

/-- Outcomes can be told apart by evaluation even where what they may fail with cannot. -/
theorem toOption_eq_some {outcome : Except ε α} {value : α} :
    outcome.toOption = some value ↔ outcome = .ok value := by
  cases outcome <;> simp [Except.toOption]

theorem isSome_toOption {outcome : Except ε α} :
    outcome.toOption.isSome = true ↔ ∃ value, outcome = .ok value := by
  simp only [Option.isSome_iff_exists, toOption_eq_some]

/-- A step that needs a value fails with the given fault where there is none. -/
@[simp] theorem needed_eq_ok {found : Option α} {fault : ε} {value : α} :
    found.elim (.error fault) Except.ok = .ok value ↔ found = some value := by
  cases found <;> simp

@[simp] theorem needed_eq_error {found : Option α} {fault other : ε} :
    found.elim (.error fault) (Except.ok : α → Except ε α) = .error other ↔
      found = none ∧ fault = other := by
  cases found <;> simp

/-- What is turned down in one case goes on in the other. -/
theorem unless_eq_ok {turnedDown : Prop} [Decidable turnedDown] {rest : Except ε α} {fault : ε}
    {value : α} : (if turnedDown then .error fault else rest) = .ok value ↔
      ¬turnedDown ∧ rest = .ok value := by
  split <;> simp [*]

end VisualNovel.Outcome
