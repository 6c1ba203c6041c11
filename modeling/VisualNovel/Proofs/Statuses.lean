import VisualNovel.Proofs.Endings
import VisualNovel.Proofs.Visits

/-! With which statuses work on a request may be refused. Each rule says of one piece of work that
if it ends in a refusal at all, then in one with a status from a list; a mishap may end any work. -/
namespace VisualNovel

/-- An early end that is a mishap, or a refusal with one of some statuses. -/
def Stop.Among (statuses : List Nat) : Stop → Prop
  | .refused status _ => status ∈ statuses
  | .unacceptable _ _ => 422 ∈ statuses
  | .mishap _ => True

theorem Stop.among_nil {why : Stop} : why.Among [] ↔ why.IsMishap := by
  cases why <;> simp [Among, IsMishap]

theorem Stop.IsMishap.among {statuses : List Nat} {why : Stop} (mishap : why.IsMishap) :
    why.Among statuses := by
  cases why with
  | mishap => trivial
  | refused | unacceptable => exact mishap.elim

namespace Backend

variable {α β : Type} {statuses : List Nat} {slug : String} {number : Nat}

/-- Work that is refused with these statuses alone. -/
def RefusedWith (statuses : List Nat) (work : Serving α) : Prop :=
  ∀ before, Ends work before (fun _ _ => True) (fun why _ => why.Among statuses)

/-- Two descriptions of the same end hold together. -/
theorem Ends.and {work : Serving α} {before : Backend} {done done' : α → Backend → Prop}
    {stopped stopped' : Stop → Backend → Prop} (first : Ends work before done stopped)
    (second : Ends work before done' stopped') :
    Ends work before (fun value after => done value after ∧ done' value after)
      (fun why after => stopped why after ∧ stopped' why after) := by
  unfold Ends at first second ⊢
  generalize work.run.run before = came at first second ⊢
  obtain ⟨outcome, after⟩ := came
  cases outcome <;> exact ⟨first, second⟩

/-! ## Parts of work -/

theorem refusedWith_pure {value : α} : RefusedWith statuses (pure value : Serving α) :=
  fun _ => trivial

theorem refusedWith_throw {why : Stop} (among : why.Among statuses) :
    RefusedWith statuses (throw why : Serving α) :=
  fun _ => among

theorem refusedWith_bind {first : Serving α} {next : α → Serving β}
    (refused : RefusedWith statuses first) (rest : ∀ value, RefusedWith statuses (next value)) :
    RefusedWith statuses (first >>= next) :=
  fun before => ends_bind.mpr <|
    (refused before).mono (fun value between _ => rest value between) fun _ _ among => among

theorem refusedWith_map {work : Serving α} {f : α → β} (refused : RefusedWith statuses work) :
    RefusedWith statuses (f <$> work) :=
  fun before => ends_map.mpr (refused before)

theorem refusedWith_get : RefusedWith statuses get := fun _ => trivial

theorem refusedWith_modify {change : Backend → Backend} :
    RefusedWith statuses (modify change) := fun _ => trivial

theorem refusedWith_demand {outcome : Except Mishap α} : RefusedWith statuses (demand outcome) := by
  cases outcome with
  | ok value => exact refusedWith_pure
  | error why => exact refusedWith_throw trivial

theorem refusedWith_look {read : Storage → Except Mishap α} : RefusedWith statuses (look read) :=
  refusedWith_bind refusedWith_get fun _ => refusedWith_demand

theorem refusedWith_keep {change : Storage → Except Mishap (α × Storage)} :
    RefusedWith statuses (keep change) :=
  fun _ => ends_keep.mpr ⟨fun _ _ _ => trivial, fun _ _ => trivial⟩

theorem refusedWith_engineOf : RefusedWith statuses (engineOf number) :=
  fun _ => ends_engineOf.mpr ⟨fun _ _ => trivial, fun _ => trivial⟩

theorem refusedWith_anyEngine : RefusedWith statuses (anyEngine number) := by
  refine refusedWith_bind refusedWith_get fun backend => ?_
  split
  · exact refusedWith_pure
  · exact refusedWith_throw trivial

theorem refusedWith_spoil : RefusedWith statuses (spoil number) :=
  refusedWith_bind refusedWith_anyEngine fun _ => refusedWith_modify

theorem refusedWith_expect {expects : Schema.Expects α} {document : Json} :
    RefusedWith statuses (expect expects document) :=
  fun _ => ends_expect.mpr ⟨fun _ _ => trivial, fun _ _ _ => trivial⟩

/-! ## Playthroughs -/

theorem refusedWith_persist : RefusedWith statuses (persist slug number) :=
  refusedWith_bind refusedWith_engineOf fun _ => refusedWith_keep

theorem refusedWith_loadStory : RefusedWith statuses (loadStory slug) := by
  refine refusedWith_bind refusedWith_look fun document => ?_
  split
  · exact refusedWith_pure
  · exact refusedWith_bind refusedWith_expect fun story => refusedWith_pure

theorem refusedWith_getEngine : RefusedWith statuses (getEngine slug) := by
  refine refusedWith_bind refusedWith_get fun backend => ?_
  split
  · exact refusedWith_pure
  · refine refusedWith_bind refusedWith_look fun record => ?_
    split
    · exact refusedWith_pure
    · refine refusedWith_bind refusedWith_loadStory fun found => ?_
      split
      · exact refusedWith_pure
      · split
        · split
          · exact refusedWith_pure
          · refine refusedWith_bind refusedWith_demand fun playback => ?_
            refine refusedWith_bind refusedWith_demand fun background => ?_
            refine refusedWith_bind ?_ fun number => refusedWith_pure
            exact refusedWith_bind refusedWith_get fun _ =>
              refusedWith_bind refusedWith_modify fun _ => refusedWith_pure
        · exact refusedWith_throw trivial

theorem refusedWith_newEngine : RefusedWith statuses (newEngine slug) := by
  refine refusedWith_bind refusedWith_loadStory fun found => ?_
  split
  · exact refusedWith_pure
  · refine refusedWith_bind refusedWith_look fun config => ?_
    refine refusedWith_bind refusedWith_demand fun playback => ?_
    dsimp only
    split
    · exact refusedWith_throw trivial
    · refine refusedWith_bind ?_ fun number => ?_
      · exact refusedWith_bind refusedWith_get fun _ =>
          refusedWith_bind refusedWith_modify fun _ => refusedWith_pure
      · exact refusedWith_bind refusedWith_persist fun _ => refusedWith_pure

/-- Without a story or without a playthrough of it there is nothing to go on with. -/
theorem refusedWith_current (missing : 404 ∈ statuses) : RefusedWith statuses (current slug) := by
  refine refusedWith_bind refusedWith_look fun document => ?_
  split
  · exact refusedWith_throw missing
  · refine refusedWith_bind refusedWith_getEngine fun found => ?_
    split
    · exact refusedWith_pure
    · exact refusedWith_throw missing

/-- A view is refused only where the node is not there. -/
theorem ends_view {engine : Engine} {before : Backend} :
    Ends (settle engine.view) before (fun view after => after = before ∧ engine.view = .ok view)
      (fun why after => after = before ∧ (why.IsMishap ∨ ∃ sceneId nodeId,
        engine.view = .error (.nodeNotFound sceneId nodeId) ∧ why =
          .refused 409 ("Cannot continue: " ++ (Fault.nodeNotFound sceneId nodeId).message))) := by
  cases viewed : engine.view with
  | ok view => exact ⟨rfl, rfl⟩
  | error fault =>
    cases refusal : fault.isRefusal with
    | true =>
      obtain ⟨sceneId, nodeId, rfl⟩ := Engine.view_refused viewed refusal
      exact ⟨rfl, .inr ⟨sceneId, nodeId, rfl, rfl⟩⟩
    | false =>
      cases fault with
      | unusablePattern | overflow | unwritable => exact ⟨rfl, .inl trivial⟩
      | nodeNotFound | rejected | inapplicable | gradingInProgress => cases refusal

theorem refusedWith_view {engine : Engine} (stuck : 409 ∈ statuses) :
    RefusedWith statuses (settle engine.view) := by
  refine fun before => ends_view.mono (fun _ _ _ => trivial) ?_
  rintro why _ ⟨_, mishap | ⟨_, _, _, rfl⟩⟩
  · exact mishap.among
  · exact stuck

theorem refusedWith_present (stuck : 409 ∈ statuses) :
    RefusedWith statuses (present slug number) := by
  refine refusedWith_bind refusedWith_persist fun _ => ?_
  refine refusedWith_bind refusedWith_engineOf fun engine => ?_
  exact refusedWith_bind (refusedWith_view stuck) fun view => refusedWith_pure

theorem refusedWith_presented (stuck : 409 ∈ statuses) :
    RefusedWith statuses (presented slug number) :=
  refusedWith_map (refusedWith_present stuck)

/-! ## Requests -/

theorem refusedWith_play : RefusedWith [404, 409] (play slug) := by
  refine refusedWith_bind refusedWith_newEngine fun found => ?_
  split
  · exact refusedWith_throw (by decide : 404 ∈ [404, 409])
  · exact refusedWith_presented (by decide)

theorem refusedWith_watch : RefusedWith [404, 409] (watch slug) :=
  refusedWith_bind (refusedWith_current (by decide)) fun _ => refusedWith_presented (by decide)

theorem refusedWith_feedback : RefusedWith [404] (feedback slug) := by
  refine refusedWith_bind (refusedWith_current (by decide)) fun number => ?_
  exact refusedWith_bind refusedWith_engineOf fun engine => refusedWith_pure

theorem refusedWith_save : RefusedWith [404] (save slug) := by
  refine refusedWith_bind (refusedWith_current (by decide)) fun number => ?_
  refine refusedWith_bind refusedWith_engineOf fun engine => ?_
  exact refusedWith_bind refusedWith_keep fun _ => refusedWith_pure

/-- What keeps a game from beginning again is no refusal. -/
theorem refusedWith_beginAgain {engine : Engine} :
    RefusedWith statuses (settle engine.restart.outcome) := by
  cases came : engine.restart.outcome with
  | ok value => exact refusedWith_pure
  | error fault =>
    cases Engine.restart_outcome came
    exact refusedWith_throw trivial

theorem refusedWith_restart : RefusedWith [404, 409] (restart slug) := by
  refine refusedWith_bind (refusedWith_current (by decide)) fun number => ?_
  refine refusedWith_bind refusedWith_anyEngine fun engine => ?_
  refine refusedWith_bind refusedWith_modify fun _ => ?_
  refine refusedWith_bind refusedWith_beginAgain fun _ => ?_
  exact refusedWith_bind refusedWith_keep fun _ => refusedWith_presented (by decide)

theorem refusedWith_finishedGame : RefusedWith [404] (finishedGame slug) := by
  refine refusedWith_bind (refusedWith_current (by decide)) fun number => ?_
  refine refusedWith_bind refusedWith_look fun config => ?_
  refine refusedWith_bind refusedWith_get fun backend => ?_
  refine refusedWith_bind refusedWith_demand fun connection => ?_
  exact refusedWith_bind refusedWith_engineOf fun engine => refusedWith_pure

theorem refusedWith_concludeGame {outcome : Except RecommendationsFailure Recommendations} :
    RefusedWith [503] (concludeGame outcome) := by
  unfold concludeGame
  split
  · exact refusedWith_pure
  · exact refusedWith_throw (by decide : 503 ∈ [503])
  · exact refusedWith_throw trivial

/-! ## Answers -/

theorem unhindered {bodies : List Json} {answer given : HttpAnswer}
    (gone : (obstacle? bodies).elim (Except.ok answer) Except.error = .ok given) :
    given = answer := by
  cases obstacle : obstacle? bodies <;> rw [obstacle] at gone <;> cases gone
  rfl

/-- A refusal is answered with its status and what is said of it. -/
theorem written_refused {status : Nat} {text : String} {given : HttpAnswer}
    (answered : written (.error (.refused status text)) = .ok given) : given = detail status text :=
  unhindered answered

/-- An answer is that to a value, or to a refusal, whose status it has. -/
theorem written_cases {outcome : Except Stop Json} {given : HttpAnswer}
    (answered : written outcome = .ok given) :
    (∃ body, outcome = .ok body ∧ given = ⟨200, body⟩) ∨
      ∃ why, outcome = .error why ∧ ¬why.IsMishap ∧
        ∀ statuses, why.Among statuses → given.status ∈ statuses := by
  cases outcome with
  | ok body => exact .inl ⟨body, rfl, unhindered answered⟩
  | error why =>
    refine .inr ⟨why, rfl, ?_⟩
    cases why with
    | refused status text =>
      cases written_refused answered
      exact ⟨id, fun _ among => among⟩
    | unacceptable first more =>
      cases answered
      exact ⟨id, fun _ among => among⟩
    | mishap why => cases answered

/-- A request for something that can be asked for is answered with what comes of it. -/
theorem request_answered {before after : Backend} {call : Call} {given : HttpAnswer}
    {endpoint : LocalEndpoint} (visited : Visited before (.request call (.ok given)) after)
    (found : Endpoint.find call.method call.path = .ok (.here endpoint)) :
    ∃ outcome, (answerLocally call.payload endpoint).run.run before = (outcome, after) ∧
      written outcome = .ok given := by
  generalize asked : (Except.ok given : Except Mishap HttpAnswer) = answer at visited
  cases visited with | served came =>
  rcases serve_cases came with ⟨_, _, unanswered⟩ | ⟨_, outcome, found', answered, told⟩
  · exact absurd asked.symm (unanswered _ found given)
  · cases found.symm.trans found'
    cases answered
    exact ⟨((answerLocally call.payload endpoint).run.run before).1, rfl, told.symm⟩

end Backend

end VisualNovel
