import VisualNovel.Story.Value
/-!
Reading variables by kind, and changing them: what is set is set first, and what is added is added
to the result, a variable that is absent or no number counting as zero.
-/

namespace VisualNovel.Variables

/-- The number that a variable holds, if it holds one. -/
def number? (vars : Variables) (name : String) : Option Number :=
  match vars.get? name with
  | some (.number value) => some value
  | _ => none

/-- The text of a variable, whatever its kind. -/
def text? (vars : Variables) (name : String) : Option String :=
  (vars.get? name).map Value.display

/-- The truth value that a variable holds, if it holds one. -/
def bool? (vars : Variables) (name : String) : Option Bool :=
  match vars.get? name with
  | some (.bool value) => some value
  | _ => none

/-- Adds to one variable. -/
def addTo (vars : Variables) (name : String) (increment : Number) : Option Variables := do
  let sum ← ((vars.number? name).getD (.int 0)).add? increment
  return vars.insert name (.number sum)

/-- Adds to variables one after the other. -/
def addAll (vars : Variables) (increments : List (String × Number)) : Option Variables :=
  increments.foldlM (fun vars (name, increment) => vars.addTo name increment) vars

/-- Sets variables, then adds to the result; nothing comes of a sum beyond the range. -/
def mutate (vars : Variables) (set : Option Variables) (add : Option Increments) :
    Option Variables :=
  let changed : Variables := vars.insertAll ((set.map (·.entries)).getD [])
  changed.addAll ((add.map (·.entries)).getD [])

end VisualNovel.Variables
