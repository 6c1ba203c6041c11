import VisualNovel.Json.Basic
import VisualNovel.Number.Number
/-!
When two documents are equal.  They are equal as documents if nothing tells them apart; they have
the same value if their numbers have, whatever their kinds, and if the fields of their objects agree
in any order.  A text has the same value as that text alone.
-/

namespace VisualNovel.Json

mutual

/-- Whether two documents are equal. -/
def beq : Json → Json → Bool
  | null, null => true
  | bool a, bool b => a == b
  | int a, int b => a == b
  | float a, float b => a == b
  | str a, str b => a == b
  | arr items, arr others => beqItems items others
  | obj fields, obj others => beqFields fields others
  | _, _ => false

def beqItems : List Json → List Json → Bool
  | [], [] => true
  | item :: items, other :: others => item.beq other && beqItems items others
  | _, _ => false

def beqFields : List (String × Json) → List (String × Json) → Bool
  | [], [] => true
  | (name, value) :: fields, (otherName, other) :: others =>
    name == otherName && value.beq other && beqFields fields others
  | _, _ => false

end

mutual

theorem beq_iff : ∀ a b : Json, a.beq b = true ↔ a = b
  | null, b => by cases b <;> simp [beq]
  | bool _, b => by cases b <;> simp [beq]
  | int _, b => by cases b <;> simp [beq]
  | float _, b => by cases b <;> simp [beq]
  | str _, b => by cases b <;> simp [beq]
  | arr items, b => by cases b <;> simp [beq, beqItems_iff items]
  | obj fields, b => by cases b <;> simp [beq, beqFields_iff fields]

theorem beqItems_iff : ∀ a b : List Json, beqItems a b = true ↔ a = b
  | [], b => by cases b <;> simp [beqItems]
  | item :: items, b => by cases b <;> simp [beqItems, beq_iff item, beqItems_iff items]

theorem beqFields_iff : ∀ a b : List (String × Json), beqFields a b = true ↔ a = b
  | [], b => by cases b <;> simp [beqFields]
  | (name, value) :: fields, b => by
    cases b with
    | nil => simp [beqFields]
    | cons other others =>
      obtain ⟨otherName, other⟩ := other
      simp [beqFields, beq_iff value, beqFields_iff fields]

end

instance : DecidableEq Json := fun a b => decidable_of_iff (a.beq b = true) (beq_iff a b)

/-- The number that a document is, a truth value counting as one or zero. -/
def number? : Json → Option Number
  | bool value => some (.int (if value then 1 else 0))
  | int value => some (.int value)
  | float value => some (.float value)
  | _ => none

mutual

/-- Whether two documents have the same value. -/
def same : Json → Json → Bool
  | null, null => true
  | bool a, b => (number? b).any ((Number.int (if a then 1 else 0)).equal ·)
  | int a, b => (number? b).any ((Number.int a).equal ·)
  | float a, b => (number? b).any ((Number.float a).equal ·)
  | str a, str b => a == b
  | arr items, arr others => sameItems items others
  | obj fields, obj others => fields.length == others.length && sameFields fields others
  | _, _ => false

def sameItems : List Json → List Json → Bool
  | [], [] => true
  | item :: items, other :: others => item.same other && sameItems items others
  | _, _ => false

/-- Whether all fields have the same value among the fields of another object. -/
def sameFields : List (String × Json) → List (String × Json) → Bool
  | [], _ => true
  | (name, value) :: fields, others =>
    (match lookup? name others with
      | some other => value.same other
      | none => false) && sameFields fields others

end

@[simp] theorem same_str (text : String) (other : Json) :
    (str text).same other = decide (other = str text) := by
  cases other with
  | str word =>
    by_cases equal : word = text
    · simp [same, equal]
    · simp [same, equal, Ne.symm equal]
  | _ => simp [same]

end VisualNovel.Json
