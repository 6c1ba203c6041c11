import VisualNovel.Calls.Prompt
import VisualNovel.Json.Equality
import VisualNovel.Story.Interpolation
import VisualNovel.Story.Variables
/-!
Variables in documents.  A variable may hold anything there; what is neither a truth value nor a
number nor a text is as good as absent where a number or a truth value is asked for, and stands for
its text where a text is.
-/

namespace VisualNovel.Variables

/-- The variables of an object that hold what variables can hold. -/
def proper (fields : List (String × Json)) : Variables :=
  Named.ofList (fields.filterMap fun (name, value) => (Value.ofJson? value).map (name, ·))

/-- The variables of an object, what they cannot hold being replaced by its text. -/
def shown (fields : List (String × Json)) : Variables :=
  Named.ofList (fields.map fun (name, value) =>
    (name, (Value.ofJson? value).getD (.text value.display)))

/-- The number of a name, or else a standard value. -/
def numberOr (vars : Json) (name : String) (standard : Json) : Except Mishap Json := do
  return (((proper (← vars.demandFields)).number? name).map Number.toJson).getD standard

/-- The text of a name, or else a standard value. -/
def textOr (vars : Json) (name : String) (standard : Json) : Except Mishap Json := do
  let vars := shown (← vars.demandFields)
  if (vars.get? name).all Value.isWritable then return ((vars.text? name).map Json.str).getD standard
  else .error (.fault .unwritable)

/-- The truth value of a name, or else a standard value. -/
def boolOr (vars : Json) (name : String) (standard : Json) : Except Mishap Json := do
  return (((proper (← vars.demandFields)).bool? name).map Json.bool).getD standard

/-- A text with its tokens replaced.  What does not count as given stays as it is. -/
def interpolated (text vars player : Json) : Except Mishap Json :=
  if !text.truthy then .ok text
  else
    match text with
    | .str text =>
      let named := Interpolation.pieces text.toList |>.any fun piece =>
        piece == .token Interpolation.playerToken
      let vars : Variables :=
        match vars with
        | .obj fields => shown fields
        | _ => .empty
      if !Interpolation.isWritable text vars then .error (.fault .unwritable)
      else
        match player with
        | .str player => .ok (.str (Interpolation.interpolate text vars (some player)))
        | player =>
          if named && player.truthy then .error .wrongKind
          else .ok (.str (Interpolation.interpolate text vars none))
    | _ => .error .wrongKind

/-- The sum of what a name holds, if it is a number, and an increment. -/
def added (vars : List (String × Json)) (name : String) (increment : Json) :
    Except Mishap (List (String × Json)) :=
  match increment.number? with
  | none => .error .wrongKind
  | some increment =>
    match (((proper vars).number? name).getD (.int 0)).add? increment with
    | some sum => .ok (Json.assign name sum.toJson vars)
    | none => .error .outOfRange

/-- The field that a document stands for: a name and a value, one behind the other. -/
def pairOf : Json → Except Mishap (String × Json)
  | .arr [.str name, value] => .ok (name, value)
  | .arr [_, _] => .error .wrongKind
  | .obj [(name, _), (value, _)] => .ok (name, .str value)
  | .str text =>
    match text.toList with
    | [name, value] => .ok (name.toString, .str value.toString)
    | _ => .error .wrongValue
  | .arr _ | .obj _ => .error .wrongValue
  | _ => .error .wrongKind

/-- Fields with those of a document, which may be pairs of a name and a value. -/
def overlaid (fields : List (String × Json)) (document : Json) :
    Except Mishap (List (String × Json)) := do
  let given ← match document with
    | .obj given => pure given
    | .arr items => items.mapM pairOf
    | .str text => text.toList.mapM fun c => pairOf (.str c.toString)
    | _ => throw .wrongKind
  return given.foldl (fun fields (name, value) => Json.assign name value fields) fields

/-- Sets variables, then adds to the result. -/
def mutated (vars set add : Json) : Except Mishap Json := do
  let fields ← overlaid [] vars
  let changed ← if set.truthy then overlaid fields set else pure fields
  match add with
  | .obj given =>
    let sums ← given.foldlM (fun fields (name, increment) => added fields name increment) changed
    return .obj sums
  | add => if add.truthy then throw .wrongShape else return .obj changed

end VisualNovel.Variables
