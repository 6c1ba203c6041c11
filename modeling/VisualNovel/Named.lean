/-!
Values by name, in the order in which the names were first given.  No name occurs twice, so what a
name stands for is the whole of what can be observed besides that order.
-/

namespace VisualNovel

universe u

namespace Named

/-- Gives a name a value, in its old place or else at the end. -/
def put {α : Type u} (name : String) (value : α) : List (String × α) → List (String × α)
  | [] => [(name, value)]
  | (other, old) :: rest =>
    if other = name then (name, value) :: rest else (other, old) :: put name value rest

theorem names_put {α : Type u} (name : String) (value : α) (entries : List (String × α)) :
    (put name value entries).map Prod.fst =
      if name ∈ entries.map Prod.fst then entries.map Prod.fst
      else entries.map Prod.fst ++ [name] := by
  induction entries with
  | nil => simp [put]
  | cons entry rest ih =>
    obtain ⟨other, old⟩ := entry
    by_cases same : other = name
    · simp [put, same]
    · simp only [put, same, if_false, List.map_cons, ih, List.mem_cons, Ne.symm same, false_or]
      split <;> simp

theorem distinct_put {α : Type u} (name : String) (value : α) {entries : List (String × α)}
    (distinct : (entries.map Prod.fst).Nodup) :
    ((put name value entries).map Prod.fst).Nodup := by
  rw [names_put]
  split
  · exact distinct
  · rename_i fresh
    rw [List.nodup_append]
    refine ⟨distinct, by simp, ?_⟩
    intro a member b single
    rw [List.mem_singleton.mp single]
    exact fun same => fresh (same ▸ member)

/-- A new name goes to the end. -/
theorem put_new {α : Type u} {name : String} {value : α} {entries : List (String × α)}
    (new : name ∉ entries.map Prod.fst) : put name value entries = entries ++ [(name, value)] := by
  induction entries with
  | nil => rfl
  | cons entry rest ih =>
    obtain ⟨other, old⟩ := entry
    simp only [List.map_cons, List.mem_cons, not_or] at new
    simp only [put, Ne.symm new.1, ↓reduceIte, ih new.2, List.cons_append]

end Named

structure Named (α : Type u) where
  entries : List (String × α)
  distinct : (entries.map Prod.fst).Nodup
  deriving DecidableEq

namespace Named

variable {α : Type u}

/-- No names at all. -/
def empty : Named α := ⟨[], List.nodup_nil⟩

instance : Inhabited (Named α) := ⟨empty⟩

/-- The value of the first entry of a name. -/
def find? (name : String) : List (String × α) → Option α
  | [] => none
  | (other, value) :: rest => if other = name then some value else find? name rest

/-- What a name stands for. -/
def get? (named : Named α) (name : String) : Option α := find? name named.entries

/-- Gives a name a value in place of any it had. -/
def insert (named : Named α) (name : String) (value : α) : Named α :=
  ⟨put name value named.entries, distinct_put name value named.distinct⟩

/-- Gives names their values one after the other. -/
def insertAll (named : Named α) (entries : List (String × α)) : Named α :=
  entries.foldl (fun named (name, value) => named.insert name value) named

/-- The values of a list of entries, of which the last one of a name counts. -/
def ofList (entries : List (String × α)) : Named α := empty.insertAll entries

def isEmpty (named : Named α) : Bool := named.entries.isEmpty

/-- Takes a name and its value away. -/
def erase (named : Named α) (name : String) : Named α :=
  ⟨named.entries.filter fun entry => entry.1 != name,
    named.distinct.sublist (List.filter_sublist.map Prod.fst)⟩

theorem find?_put (name other : String) (value : α) (entries : List (String × α)) :
    find? other (put name value entries) =
      if name = other then some value else find? other entries := by
  induction entries with
  | nil => simp [put, find?]
  | cons entry rest ih =>
    obtain ⟨first, old⟩ := entry
    by_cases same : first = name
    · subst same
      by_cases asked : first = other <;> simp [put, find?, asked]
    · by_cases asked : first = other
      · subst asked
        simp [put, find?, same, Ne.symm same]
      · simp [put, find?, same, asked, ih]

@[simp] theorem get?_insert (named : Named α) (name other : String) (value : α) :
    (named.insert name value).get? other = if name = other then some value else named.get? other :=
  find?_put name other value named.entries

theorem find?_filter (name other : String) (entries : List (String × α)) :
    find? other (entries.filter fun entry => entry.1 != name) =
      if name = other then none else find? other entries := by
  induction entries with
  | nil => simp [find?]
  | cons entry rest ih =>
    obtain ⟨first, value⟩ := entry
    by_cases erased : first = name
    · subst erased
      by_cases asked : first = other <;> simp_all [find?]
    · by_cases asked : first = other
      · subst asked
        simp [find?, erased, Ne.symm erased]
      · simp [find?, erased, asked, ih]

@[simp] theorem get?_erase (named : Named α) (name other : String) :
    (named.erase name).get? other = if name = other then none else named.get? other :=
  find?_filter name other named.entries

@[simp] theorem get?_empty (name : String) : (empty : Named α).get? name = none := rfl

/-- A name has no value exactly if it is not given. -/
theorem find?_eq_none {name : String} {entries : List (String × α)} :
    find? name entries = none ↔ name ∉ entries.map Prod.fst := by
  induction entries with
  | nil => simp [find?]
  | cons entry rest ih =>
    obtain ⟨other, value⟩ := entry
    by_cases same : other = name
    · simp [find?, same]
    · simp [find?, same, ih, Ne.symm same]

/-- What is given to other names leaves a name as it was. -/
theorem get?_insertAll_other {name : String} {entries : List (String × α)} :
    ∀ named : Named α, name ∉ entries.map Prod.fst →
      (named.insertAll entries).get? name = named.get? name := by
  induction entries with
  | nil => exact fun _ _ => rfl
  | cons entry rest ih =>
    intro named other
    obtain ⟨given, value⟩ := entry
    simp only [List.map_cons, List.mem_cons, not_or] at other
    have rested := ih (named.insert given value) other.2
    simpa [insertAll, Ne.symm other.1] using rested

theorem insertAll_new (entries : List (String × α)) :
    ∀ named : Named α, (named.entries.map Prod.fst ++ entries.map Prod.fst).Nodup →
      (named.insertAll entries).entries = named.entries ++ entries := by
  induction entries with
  | nil => exact fun named _ => (List.append_nil _).symm
  | cons entry rest ih =>
    intro named distinct
    obtain ⟨name, value⟩ := entry
    have new : name ∉ named.entries.map Prod.fst := fun old =>
      (List.nodup_append.mp distinct).2.2 name old name List.mem_cons_self rfl
    have inserted : (named.insert name value).entries = named.entries ++ [(name, value)] :=
      put_new new
    have rested := ih (named.insert name value) (by simpa [inserted] using distinct)
    simpa [insertAll, inserted] using rested

/-- Values by name are told by their entries. -/
theorem ofList_entries (named : Named α) : ofList named.entries = named := by
  have entries : (ofList named.entries).entries = named.entries :=
    insertAll_new named.entries empty (by simpa [empty] using named.distinct)
  obtain ⟨_, _⟩ := named
  cases read : ofList _
  simpa [read] using entries

end Named

end VisualNovel
