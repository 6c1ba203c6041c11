import VisualNovel.Proofs.Serving
import VisualNovel.Server.Play

/-! How work on a request ends. It ends with a value, or early with a refusal or a mishap, and in
either case it leaves a backend behind. Each rule says what has to hold before a piece of work so
that it ends as described; work in several parts is taken apart from its front. -/
namespace VisualNovel.Backend

variable {α β : Type} {before : Backend} {done : α → Backend → Prop}
  {stopped : Stop → Backend → Prop}

/-- Work on a backend ends as described, with a value or early. -/
def Ends (work : Serving α) (before : Backend) (done : α → Backend → Prop)
    (stopped : Stop → Backend → Prop) : Prop :=
  match work.run.run before with
  | (.ok value, after) => done value after
  | (.error why, after) => stopped why after

/-- What is described of an end holds of the end that comes. -/
theorem Ends.came {work : Serving α} {outcome : Except Stop α} {after : Backend}
    (ends : Ends work before done stopped) (came : work.run.run before = (outcome, after)) :
    match outcome with
    | .ok value => done value after
    | .error why => stopped why after := by
  rw [Ends, came] at ends
  cases outcome <;> exact ends

theorem Ends.mono {work : Serving α} {done' : α → Backend → Prop} {stopped' : Stop → Backend → Prop}
    (ends : Ends work before done stopped)
    (finish : ∀ value after, done value after → done' value after)
    (stop : ∀ why after, stopped why after → stopped' why after) :
    Ends work before done' stopped' := by
  unfold Ends at ends ⊢
  split at ends
  · exact finish _ _ ends
  · exact stop _ _ ends

/-! ## Parts of work -/

theorem ends_pure {value : α} : Ends (pure value) before done stopped ↔ done value before := Iff.rfl

theorem ends_throw {why : Stop} :
    Ends (throw why : Serving α) before done stopped ↔ stopped why before := Iff.rfl

theorem ends_bind {first : Serving α} {next : α → Serving β} {done : β → Backend → Prop} :
    Ends (first >>= next) before done stopped ↔
      Ends first before (fun value between => Ends (next value) between done stopped) stopped := by
  unfold Ends
  rw [ExceptT.run_bind, StateT.run_bind]
  generalize first.run.run before = came
  obtain ⟨outcome, between⟩ := came
  cases outcome <;> exact Iff.rfl

theorem ends_map {work : Serving α} {f : α → β} {done : β → Backend → Prop} :
    Ends (f <$> work) before done stopped ↔
      Ends work before (fun value after => done (f value) after) stopped := by
  rw [map_eq_pure_bind, ends_bind]
  exact Iff.rfl

theorem ends_get {done : Backend → Backend → Prop} :
    Ends get before done stopped ↔ done before before := Iff.rfl

theorem ends_modify {change : Backend → Backend} {done : Unit → Backend → Prop} :
    Ends (modify change) before done stopped ↔ done () (change before) := Iff.rfl

theorem ends_demand {outcome : Except Mishap α} :
    Ends (demand outcome) before done stopped ↔
      (∀ value, outcome = .ok value → done value before) ∧
        ∀ why, outcome = .error why → stopped (.mishap why) before := by
  cases outcome with
  | ok value => simp [demand, ends_pure]
  | error why => simp [demand, fail, ends_throw]

theorem ends_look {read : Storage → Except Mishap α} :
    Ends (look read) before done stopped ↔
      (∀ value, read before.storage = .ok value → done value before) ∧
        ∀ why, read before.storage = .error why → stopped (.mishap why) before := by
  simp only [look, ends_bind, ends_get, ends_demand]

theorem ends_keep {change : Storage → Except Mishap (α × Storage)} :
    Ends (keep change) before done stopped ↔
      (∀ value storage, change before.storage = .ok (value, storage) →
          done value { before with storage }) ∧
        ∀ why, change before.storage = .error why → stopped (.mishap why) before := by
  simp only [keep, ends_bind, ends_get, ends_demand, ends_modify, ends_pure, Prod.forall]

theorem ends_put {change : Storage → Except Mishap Storage} {done : Unit → Backend → Prop} :
    Ends (keep fun storage => do return ((), ← change storage)) before done stopped ↔
      (∀ storage, change before.storage = .ok storage → done () { before with storage }) ∧
        ∀ why, change before.storage = .error why → stopped (.mishap why) before := by
  rw [ends_keep]
  cases change before.storage with
  | ok storage => exact ⟨fun holds => ⟨fun _ came => holds.1 () _ (by cases came; rfl), nofun⟩,
      fun holds => ⟨fun _ _ came => by cases came; exact holds.1 _ rfl, nofun⟩⟩
  | error why => exact ⟨fun holds => ⟨nofun, fun _ came => holds.2 _ (by cases came; rfl)⟩,
      fun holds => ⟨nofun, fun _ came => by cases came; exact holds.2 _ rfl⟩⟩

theorem ends_engineOf {number : Nat} {done : Engine → Backend → Prop} :
    Ends (engineOf number) before done stopped ↔
      (∀ engine, before.live[number]? = some ⟨engine, true⟩ → done engine before) ∧
        ((∀ engine, before.live[number]? ≠ some ⟨engine, true⟩) →
          stopped (.mishap .wrongShape) before) := by
  simp only [engineOf, ends_bind, ends_get]
  split
  · rename_i engine there
    simp [there, ends_pure]
  · rename_i other
    exact ⟨fun holds => ⟨fun engine there => absurd there (other engine), fun _ => holds⟩,
      fun holds => holds.2 other⟩

theorem ends_expect {expects : Schema.Expects α} {document : Json} :
    Ends (expect expects document) before done stopped ↔
      (∀ value, expects document = .valid value → done value before) ∧
        ∀ first more, expects document = .invalid first more →
          stopped (.mishap (.invalid first more)) before := by
  unfold expect
  cases expects document with
  | valid value => simp [ends_pure]
  | invalid first more => simp [fail, ends_throw]

end VisualNovel.Backend
