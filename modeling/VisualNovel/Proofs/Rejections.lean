import VisualNovel.Proofs.Footprints
import VisualNovel.Proofs.Watching

/-! What is left of a request that has been rejected for what was entered. Whatever is rejected has
at most taken a playthrough up from its record and given a ticket back, neither of which can be
noticed. But a playthrough that has to be begun first is begun and written before anything can be
rejected: for loading into a story that nobody plays, and for starting a story by a tool. -/
namespace VisualNovel

/-- Whether an early end is a rejection of what was entered. -/
def Stop.Rejects : Stop → Prop
  | .refused status _ => status = 422
  | .unacceptable _ _ => True
  | .mishap _ => False

theorem Stop.Among.not_rejects {statuses : List Nat} {why : Stop} (among : why.Among statuses)
    (other : 422 ∉ statuses) : ¬why.Rejects := by
  cases why with
  | refused status text => exact fun rejects => other (rejects ▸ among)
  | unacceptable => exact absurd among other
  | mishap => exact id

theorem Stop.Rejects.not_isMishap {why : Stop} (rejects : why.Rejects) : ¬why.IsMishap := by
  cases why with
  | mishap => exact rejects.elim
  | refused | unacceptable => exact id

namespace Backend

variable {α β : Type} {before between after first : Backend} {slug : String} {number : Nat}

/-! ## Work on a request -/

/-- Work that leaves nothing to be noticed if it is rejected. -/
def Spares (work : Serving α) : Prop :=
  ∀ before, Ordered before → Ends work before (fun _ _ => True)
    (fun why after => why.Rejects → Unnoticed before after)

/-- Work that is refused with other statuses is not rejected, whatever it leaves. -/
theorem RefusedWith.mild {work : Serving α} {statuses : List Nat} {left : Stop → Backend → Prop}
    (refused : RefusedWith statuses work) (other : 422 ∉ statuses) (before : Backend) :
    Ends work before (fun _ _ => True) (fun why after => why.Rejects → left why after) :=
  (refused before).mono (fun _ _ _ => trivial) fun _ _ among rejects =>
    absurd rejects (among.not_rejects other)

theorem spares_of_refusedWith {work : Serving α} {statuses : List Nat}
    (refused : RefusedWith statuses work) (other : 422 ∉ statuses) : Spares work :=
  fun before _ => refused.mild other before

/-- So a playthrough that is shown at the end has not been rejected. -/
theorem presented_mild {left : Stop → Backend → Prop} (again : Backend) :
    Ends (presented slug number) again (fun _ _ => True)
      (fun why after => why.Rejects → left why after) :=
  (refusedWith_presented (by decide : 409 ∈ [409])).mild (by decide) again

/-- The playthrough of a story is found, or taken up without being noticed. -/
theorem getEngine_unnoticed (ordered : Ordered before) :
    Ends (getEngine slug) before
      (fun found between => Unnoticed before between ∧ (found = none → between = before))
      (fun why _ => why.IsMishap) := by
  cases held : before.sessions.get? slug with
  | some number =>
    refine ends_bind.mpr (ends_get.mpr ?_)
    simp only [held]
    exact ⟨.refl before, nofun⟩
  | none =>
    refine ((getEngine_revives held).and (refusedWith_getEngine before)).mono ?_ fun _ _ stop =>
      Stop.among_nil.mp stop.2
    rintro _ _ ⟨⟨taken, revives, rfl, rfl⟩, _⟩
    cases taken with
    | none => exact ⟨.refl before, fun _ => rfl⟩
    | some engine => exact ⟨unnoticed_enrolled ordered held revives, nofun⟩

theorem current_unnoticed {left : Stop → Backend → Prop} (ordered : Ordered before) :
    Ends (current slug) before (fun _ between => Unnoticed before between)
      (fun why after => why.Rejects → left why after) := by
  have missing {detail : String} {after : Backend} (rejects : (Stop.refused 404 detail).Rejects) :
      left (.refused 404 detail) after := absurd rejects (by decide : 404 ≠ 422)
  refine ends_bind.mpr (ends_look.mpr ⟨fun document _ => ?_, fun _ _ rejects => rejects.elim⟩)
  split
  · exact missing
  · refine ends_bind.mpr ((getEngine_unnoticed ordered).mono ?_ fun _ _ mishap rejects =>
      absurd mishap rejects.not_isMishap)
    rintro found between ⟨unnoticed, _⟩
    split
    · exact unnoticed
    · exact missing

/-- An action that is turned down leaves the playthrough as it was. -/
theorem perform_unnoticed {action : Engine → Turn α} (regular : Engine.Regular action) :
    Ends (perform number action) before (fun _ _ => True)
      (fun why after => why.Rejects → Unnoticed before after) := by
  refine ends_bind.mpr (ends_engineOf.mpr ⟨fun engine there => ?_, fun _ rejects => rejects.elim⟩)
  refine ends_bind.mpr (ends_replace.mpr ?_)
  cases came : (action engine).outcome with
  | ok value => exact trivial
  | error fault =>
    refine ends_giveUp fun why refusal rejects => ?_
    rw [regular.refuses engine fault came (refusal rejects.not_isMishap), placed_self there]
    exact .refl before

theorem spares_act {action : Engine → Turn Unit} (regular : Engine.Regular action) :
    Spares (act slug action) := by
  intro before ordered
  refine ends_bind.mpr ((current_unnoticed ordered).mono ?_ fun _ _ mild => mild)
  intro number between unnoticed
  refine ends_bind.mpr ((perform_unnoticed regular).mono ?_ fun _ _ spared rejects =>
    unnoticed.trans (spared rejects))
  intro _ again _
  exact presented_mild again

/-- A body that is turned down is turned down before anything is done. -/
theorem spares_payloadAs {payload : Payload} {expects : Schema.Expects α} {rest : α → Serving β}
    (spares : ∀ value, Spares (rest value)) :
    Spares (do rest (← payloadAs payload expects)) := by
  intro before ordered
  refine ends_bind.mpr (ends_payloadAs (fun value => spares value before ordered) ?_)
  exact fun _ _ _ => .refl before

/-! ## Loading -/

/-- What is left of work on a story that may have had to begin a playthrough. -/
def Begun (slug : String) (before after : Backend) : Prop :=
  Leads (getEngine slug) before none before ∧
    ∃ number, Leads (newEngine slug) before (some number) after

theorem ends_leads (work : Serving α) (before : Backend) :
    Ends work before (fun value after => Leads work before value after) (fun _ _ => True) := by
  unfold Ends Leads
  generalize work.run.run before = came
  obtain ⟨outcome, after⟩ := came
  cases outcome <;> trivial

theorem currentOrNew_begins {left : Stop → Backend → Prop} (ordered : Ordered before) :
    Ends (currentOrNew slug) before
      (fun _ between => Unnoticed before between ∨ Begun slug before between)
      (fun why after => why.Rejects → left why after) := by
  refine ends_bind.mpr (((getEngine_unnoticed ordered).and (ends_leads _ _)).mono ?_
    fun _ _ stop rejects => absurd stop.1 rejects.not_isMishap)
  rintro found between ⟨⟨unnoticed, unchanged⟩, led⟩
  split
  · exact .inl unnoticed
  · obtain rfl := unchanged rfl
    have mild : RefusedWith [] (newEngine slug) := refusedWith_newEngine
    refine ends_bind.mpr (((mild.mild (by decide) between).and (ends_leads _ _)).mono ?_
      fun _ _ => And.left)
    rintro found after ⟨_, led'⟩
    split
    · exact .inr ⟨led, _, led'⟩
    · exact fun rejects => absurd rejects (by decide : 404 ≠ 422)

/-- What cannot be loaded is not put in place. -/
theorem loadState_unchanged {state : Json} :
    Ends (loadState number state) before (fun _ _ => True)
      (fun why after => why.Rejects → after = before) := by
  unfold loadState
  split
  · refine ends_bind.mpr (ends_bind.mpr (ends_get.mpr ?_))
    split
    · refine ends_pure.mpr ?_
      split
      · exact trivial
      · exact fun _ => rfl
    · exact fun rejects => rejects.elim
  · have mild : RefusedWith [] (spoil number) := refusedWith_spoil
    exact ends_bind.mpr ((mild.mild (by decide) before).mono (fun _ _ _ rejects => rejects.elim)
      fun _ _ mild => mild)

/-- What is loaded into has been begun if need be before what is loaded can be rejected. -/
theorem load_begins (ordered : Ordered before) :
    Ends (load slug) before (fun _ _ => True)
      (fun why after => why.Rejects → Unnoticed before after ∨ Begun slug before after) := by
  have loads (state : Json) : Ends
      (do
        let number ← currentOrNew slug
        loadState number state
        presented slug number) before (fun _ _ => True)
      (fun why after => why.Rejects → Unnoticed before after ∨ Begun slug before after) := by
    refine ends_bind.mpr ((currentOrNew_begins ordered).mono ?_ fun _ _ mild => mild)
    intro number between found
    refine ends_bind.mpr (loadState_unchanged.mono ?_ fun _ _ unchanged rejects =>
      unchanged rejects ▸ found)
    exact fun _ again _ => presented_mild again
  refine ends_bind.mpr (ends_look.mpr ⟨fun snapshot _ => ?_, fun _ _ rejects => rejects.elim⟩)
  split
  · exact fun rejects => absurd rejects (by decide : 404 ≠ 422)
  · refine ends_bind.mpr (ends_demand.mpr ⟨fun fields _ => ?_, fun _ _ rejects => rejects.elim⟩)
    dsimp only
    have foreign (detail : String) : (Stop.refused 409 detail).Rejects →
        Unnoticed before before ∨ Begun slug before before :=
      fun rejects => absurd rejects (by decide : 409 ≠ 422)
    split
    · split
      · exact loads _
      · exact ends_bind.mpr (foreign _)
    · exact ends_bind.mpr (foreign _)

/-! ## Responses -/

/-- A response has been opened, in a playthrough that nothing was being graded in. -/
inductive Opened (before : Backend) (inFlight : InFlight) : Backend → Prop
  | opened {between : Backend} {engine : Engine} {value userInput : String} {node : Node}
      {config : GradedConfig} (unnoticed : Unnoticed before between)
      (there : between.live[inFlight.number]? = some ⟨engine, true⟩) (idle : engine.pending = none)
      (valid : engine.story.validateResponse engine.state value = .ok (node, config, userInput))
      (ticket : inFlight.ticket = engine.nextTicket userInput) :
      Opened before inFlight (between.placed inFlight.number ⟨engine.asking userInput, true⟩)

theorem openResponse_opens {value : String} (ordered : Ordered before) :
    Ends (openResponse slug value) before (Opened before)
      (fun why after => why.Rejects → Unnoticed before after) := by
  refine ends_bind.mpr ((current_unnoticed ordered).mono ?_ fun _ _ mild => mild)
  intro number between unnoticed
  refine ends_bind.mpr (ends_look.mpr ⟨fun config _ => ?_, fun _ _ rejects => rejects.elim⟩)
  refine ends_bind.mpr (ends_get.mpr (ends_bind.mpr (ends_demand.mpr
    ⟨fun setup _ => ?_, fun _ _ rejects => rejects.elim⟩)))
  refine ends_bind.mpr (ends_bind.mpr (ends_engineOf.mpr
    ⟨fun engine there => ?_, fun _ rejects => rejects.elim⟩))
  refine ends_bind.mpr (ends_replace.mpr ?_)
  dsimp only
  have opens := engine.openResponse_opens setup.grader value
  generalize engine.openResponse setup.grader value = opened at opens
  cases opens with
  | refused =>
    simp only [Engine.refuse, placed_self there]
    exact ends_settle.mpr fun _ => unnoticed
  | unwritable => exact ends_settle.mpr fun rejects => rejects.elim
  | asked idle valid => exact .opened unnoticed there idle valid rfl

/-- A response that is rejected when it is closed gives its ticket back. -/
theorem closeResponse_unnoticed {inFlight : InFlight}
    {outcome : Except GradingFailure GradingResult} (opened : Opened before inFlight between) :
    Ends (closeResponse slug inFlight outcome) between (fun _ _ => True)
      (fun why after => why.Rejects → Unnoticed before after) := by
  cases opened with | @opened found engine value userInput _ _ unnoticed there idle valid ticket
  have bound := (List.getElem?_eq_some_iff.mp there).1
  have opened : (found.placed inFlight.number ⟨engine.asking userInput, true⟩).live[
      inFlight.number]? = some ⟨engine.asking userInput, true⟩ := by simp [placed, bound]
  refine ends_bind.mpr (ends_get.mpr ?_)
  simp only [opened, Option.map_some, Option.getD_some, ↓reduceIte]
  refine ends_bind.mpr (ends_engineOf.mpr ⟨fun engine' there' => ?_, fun _ rejects => rejects.elim⟩)
  cases opened.symm.trans there'
  cases closing : (engine.asking userInput).closeResponse inFlight.ticket outcome with | mk told now
  dsimp only
  refine ends_bind.mpr (ends_replace.mpr ?_)
  cases told with
  | ok result =>
    have mild : RefusedWith [409] (present slug inFlight.number) := refusedWith_present (by decide)
    exact ends_bind.mpr (mild.mild (by decide) _)
  | error fault =>
    refine ends_giveUpResponse fun why refusal rejects => ?_
    rw [ticket] at closing
    cases Engine.closeResponse_gives_back rfl (Engine.handed_out_awaits valid) closing
      (refusal rejects.not_isMishap)
    have back : (engine.asking userInput).cancelGrading =
        { engine with issued := engine.issued + 1 } := by
      simp [Engine.asking, Engine.cancelGrading, idle]
    have again : (found.placed inFlight.number ⟨engine.asking userInput, true⟩).placed
        inFlight.number ⟨(engine.asking userInput).cancelGrading, true⟩ =
        found.placed inFlight.number ⟨{ engine with issued := engine.issued + 1 }, true⟩ := by
      simp [placed, back]
    rw [again]
    exact unnoticed.trans (unnoticed_placed there)

/-! ## Requests -/

/-- What is asked for with a playthrough is rejected unnoticed, unless it is to be loaded. -/
theorem playLocally_begins {payload : Payload} (ordered : Ordered before) (action : PlayAction) :
    Ends (playLocally slug payload action) before (fun _ _ => True)
      (fun why after => why.Rejects →
        Unnoticed before after ∨ action = .load ∧ Begun slug before after) := by
  have spared {work : Serving Json} (spares : Spares work) : Ends work before (fun _ _ => True)
      (fun why after => why.Rejects →
        Unnoticed before after ∨ action = .load ∧ Begun slug before after) :=
    (spares before ordered).mono (fun _ _ _ => trivial) fun _ _ spared rejects =>
      .inl (spared rejects)
  cases action with
  | begin => exact spared (spares_of_refusedWith refusedWith_play (by decide))
  | watch => exact spared (spares_of_refusedWith refusedWith_watch (by decide))
  | name => exact spared (spares_payloadAs fun name => spares_act (Engine.regular_start name))
  | advance => exact spared (spares_act Engine.regular_advance)
  | choice => exact spared (spares_payloadAs fun id => spares_act (Engine.regular_choose id))
  | input => exact spared (spares_payloadAs fun value => spares_act (Engine.regular_submit value))
  | showFeedback =>
    exact spared (spares_payloadAs fun visible => spares_act (Engine.regular_showFeedback visible))
  | feedback => exact spared (spares_of_refusedWith refusedWith_feedback (by decide))
  | save => exact spared (spares_of_refusedWith refusedWith_save (by decide))
  | load =>
    exact (load_begins ordered).mono (fun _ _ _ => trivial) fun _ _ spared rejects =>
      (spared rejects).imp_right fun begun => ⟨rfl, begun⟩
  | restart => exact spared (spares_of_refusedWith refusedWith_restart (by decide))

section

variable {Network : Type} {send : Request → Network → Exchange × Network} {network later : Network}
  {payload : Payload} {why : Stop}

theorem respond_unnoticed (ordered : Ordered before)
    (came : respond send slug payload before network = (.error why, after, later))
    (rejects : why.Rejects) : Unnoticed before after := by
  have opens : Ends (do openResponse slug (← payloadAs payload (oneText "value"))) before
      (Opened before) (fun why after => why.Rejects → Unnoticed before after) :=
    ends_bind.mpr (ends_payloadAs (fun _ => openResponse_opens ordered) fun _ _ _ => .refl before)
  cases respond_parts came with
  | stopped came => exact opens.came came rejects
  | finished came went => exact (closeResponse_unnoticed (opens.came came)).came went rejects

theorem recommend_unnoticed
    (came : recommend send slug before network = (.error why, after, later))
    (rejects : why.Rejects) : Unnoticed before after := by
  cases recommend_parts came with
  | stopped came =>
    have among : why.Among [404] := (refusedWith_finishedGame before).came came
    exact absurd rejects (among.not_rejects (by decide))
  | finished _ went =>
    have among : why.Among [503] := (refusedWith_concludeGame _).came went
    exact absurd rejects (among.not_rejects (by decide))

end

/-! ## Tools -/

/-- Whether a tool complains of something else than a node that is not there. -/
def Complains (answer : Json) : Prop :=
  ∃ text, answer = complaint text ∧
    ∀ sceneId nodeId, text ≠ (Fault.nodeNotFound sceneId nodeId).message

theorem shown_complains_not (view : View) : ¬Complains (view.toJson true) := by
  rintro ⟨text, same, _⟩
  simp [View.toJson, View.object, complaint, Schema.Style.isNull] at same

/-- A tool that complains of what it was given leaves the playthrough as it was. -/
theorem useTool_unnoticed {action : Engine → Turn Unit} (ordered : Ordered before)
    (regular : Engine.Regular action) :
    Ends (useTool slug action) before
      (fun answer after => Complains answer → Unnoticed before after) (fun _ _ => True) := by
  refine ends_bind.mpr ((getEngine_unnoticed ordered).mono ?_ fun _ _ _ => trivial)
  rintro found between ⟨unnoticed, _⟩
  cases found with
  | none => exact trivial
  | some number =>
    refine ends_bind.mpr (ends_engineOf.mpr ⟨fun engine there => ?_, fun _ => trivial⟩)
    refine ends_bind.mpr (ends_replace.mpr ?_)
    cases came : (action engine).outcome with
    | error fault =>
      refine ends_complainOf (fun refusal _ => ?_) fun _ => trivial
      rw [regular.refuses engine fault came refusal, placed_self there]
      exact unnoticed
    | ok value =>
      cases viewed : (action engine).engine.view with
      | error fault =>
        refine ends_complainOf (fun refusal complains => ?_) fun _ => trivial
        obtain ⟨sceneId, nodeId, rfl⟩ := Engine.view_refused viewed refusal
        obtain ⟨text, same, other⟩ := complains
        simp only [complaint, Json.obj.injEq, List.cons.injEq, Prod.mk.injEq, Json.str.injEq,
          true_and, and_true] at same
        exact absurd same.symm (other sceneId nodeId)
      | ok view =>
        have mild : RefusedWith [] (persist slug number) := refusedWith_persist
        refine ends_bind.mpr ((mild _).mono ?_ fun _ _ _ => trivial)
        exact fun _ _ _ complains => absurd complains (shown_complains_not view)

/-- A new playthrough keeps the order of those in memory. -/
theorem playing_ordered (slug : String) :
    PlayingWithSlot slug fun before after => Ordered before → Ordered after where
  refl _ := id
  trans first second ordered := second (first ordered)
  placed _ _ _ ordered := (later_placed ordered).ordered
  enrolled _ _ ordered := (later_enrolled ordered).ordered
  recorded _ ordered := ⟨ordered.there, ordered.apart⟩
  saved _ ordered := ⟨ordered.there, ordered.apart⟩
  emptied _ ordered := ⟨ordered.there, ordered.apart⟩

theorem tending_ordered (slug : String) :
    Tending slug fun before after => Ordered before → Ordered after where
  toPlaying := (playing_ordered slug).toPlaying
  uploaded _ ordered := ⟨ordered.there, ordered.apart⟩
  removed _ ordered := ⟨ordered.there, ordered.apart⟩
  dropped _ ordered := (later_dropped ordered).ordered
  cleared _ ordered := ⟨ordered.there, ordered.apart⟩
  set _ ordered := ⟨ordered.there, ordered.apart⟩

/-- Whatever a backend is visited for, its playthroughs stay in order. -/
theorem visited_ordered {visit : Visit} (visited : Visited before visit after)
    (ordered : Ordered before) : Ordered after := by
  cases visit with
  | request call answer =>
    exact request_keeps (fun slug _ => tending_ordered slug) visited
      (fun slug _ _ _ => playing_ordered slug) ordered
  | tool used answer =>
    cases visited with
    | used came => exact (keeps_use used (playing_ordered _).toPlaying).came came ordered

/-- Backends that come about by visits, while the save slot is filled with anything. -/
inductive Reached (first : Backend) : Backend → Prop
  | started : Reached first first
  | visited {before after : Backend} {visit : Visit} (earlier : Reached first before)
      (visited : Visited before visit after) : Reached first after
  | filled {before : Backend} (earlier : Reached first before) (file : File) :
      Reached first { before with
        storage := ⟨before.storage.directory.put Storage.slotPlace file⟩ }

theorem Reached.ordered (idle : ∀ slug, first.sessions.get? slug = none)
    (reached : Reached first before) : Ordered before := by
  induction reached with
  | started => exact ordered_of_idle idle
  | visited _ visited ih => exact visited_ordered visited ih
  | filled _ _ ih => exact ⟨ih.there, ih.apart⟩

/-- What is left when a visit has been rejected. -/
inductive Spared (before : Backend) : Visit → Backend → Prop
  | unnoticed {visit : Visit} {after : Backend} (unnoticed : Unnoticed before after) :
      Spared before visit after
  /-- There was no playthrough to load into. -/
  | begun {call : Call} {answer : Except Mishap HttpAnswer} {slug : String} {after : Backend}
      (asked : Endpoint.find call.method call.path = .ok (.here (.play slug .load)))
      (begun : Begun slug before after) : Spared before (.request call answer) after
  /-- Another playthrough has been begun by a tool, and its player has no name yet. -/
  | restarted {slug name : String} {answer : Except Stop Json} {number : Nat}
      {between after : Backend} (led : Leads (newEngine slug) before (some number) between)
      (unnoticed : Unnoticed between after) :
      Spared before (.tool (.startStory slug name) answer) after

theorem use_spares {used : Tool} (ordered : Ordered before) :
    Ends (use used) before
      (fun answer after => Complains answer → Spared before (.tool used (.ok answer)) after)
      (fun _ _ => True) := by
  have spared {action : Engine → Turn Unit} (regular : Engine.Regular action) :
      Ends (useTool used.slug action) before
        (fun answer after => Complains answer → Spared before (.tool used (.ok answer)) after)
        (fun _ _ => True) :=
    (useTool_unnoticed ordered regular).mono
      (fun _ _ unnoticed complains => .unnoticed (unnoticed complains)) fun _ _ _ => trivial
  cases used with
  | startStory slug playerName =>
    refine ends_bind.mpr ((newEngine_reads.and (ends_leads _ _)).mono ?_ fun _ _ _ => trivial)
    rintro found between ⟨nothing, led⟩
    cases found with
    | none =>
      obtain ⟨_, rfl⟩ := nothing rfl
      exact fun _ => .unnoticed (.refl _)
    | some number =>
      have ordered := (keeps_newEngine (playing_ordered slug).toPlaying).came led ordered
      exact (useTool_unnoticed ordered (Engine.regular_startUnlessStarted playerName)).mono
        (fun _ _ unnoticed complains => .restarted led (unnoticed complains)) fun _ _ _ => trivial
  | viewNode slug => exact spared Engine.regular_done
  | advance slug => exact spared Engine.regular_advance
  | choose slug choiceId => exact spared (Engine.regular_choose choiceId)
  | submitText slug value => exact spared (Engine.regular_submit value)

end Backend

/-- A request that is answered as unprocessable, or a tool that complains of what it was given. -/
def Visit.Rejected : Visit → Prop
  | request _ answer => ∃ given, answer = .ok given ∧ given.status = 422
  | tool _ answer => ∃ given, answer = .ok given ∧ Backend.Complains given

namespace Backend

theorem written_rejects {why : Stop} {given : HttpAnswer}
    (answered : written (.error why) = .ok given) (status : given.status = 422) : why.Rejects := by
  cases why with
  | refused status' text =>
    cases written_refused answered
    exact status
  | unacceptable => trivial
  | mishap => cases answered

/-- Whatever a backend has been visited for before, and whatever has found its way into the slot,
playing that is rejected for what was entered leaves what is kept and what would be shown as it was.
The exceptions are those where a playthrough had to be begun first, which is not undone: loading
into a story that nobody plays, and starting a story by a tool. -/
theorem rejections_go_unnoticed {visit : Visit} (idle : ∀ slug, first.sessions.get? slug = none)
    (reached : Reached first before) (visited : Visited before visit after)
    (plays : visit.Plays slug) (rejected : visit.Rejected) : Spared before visit after := by
  have ordered := reached.ordered idle
  cases visit with
  | request call answer =>
    cases visited with | served came
    obtain ⟨endpoint, found, plays⟩ := plays
    obtain ⟨given, rfl, status⟩ := rejected
    rcases serve_cases came with ⟨_, _, unanswered⟩ | ⟨_, outcome, found', answered, told⟩
    · exact absurd rfl (unanswered endpoint found given)
    · cases found.symm.trans found'
      rcases written_cases told.symm with ⟨body, rfl, rfl⟩ | ⟨why, rfl, _⟩
      · cases status
      · have rejects := written_rejects told.symm status
        rcases plays with ⟨action, rfl⟩ | rfl | rfl
        · have came : (playLocally slug call.payload action).run.run before = (.error why, after) :=
            Prod.ext (congrArg (·.1) answered) (congrArg (·.2.1) answered)
          rcases (playLocally_begins ordered action).came came rejects with unnoticed | ⟨rfl, begun⟩
          · exact .unnoticed unnoticed
          · exact .begun found begun
        · exact .unnoticed (respond_unnoticed ordered answered rejects)
        · exact .unnoticed (recommend_unnoticed answered rejects)
  | tool used answer =>
    cases visited with | used came
    obtain ⟨given, rfl, complains⟩ := rejected
    exact (use_spares ordered).came came complains

/-- A save of the song from which nothing can be loaded. -/
def garbled : File :=
  .document (.obj [("story", .str "song"), ("state", .obj [("currentSceneId", .int 5)])])

/-- The same backend with this in its slot. -/
def garble (backend : Backend) : Backend :=
  { backend with storage := ⟨backend.storage.directory.put Storage.slotPlace garbled⟩ }

/-- A request to load it. -/
def reloading : Call := ⟨"POST", "/api/stories/song/play/load", .nothing⟩

/-- What comes of it where there is no network. -/
def reloaded (backend : Backend) : Except Mishap HttpAnswer × Backend × Unit :=
  serve (fun _ network => (.foreign "", network)) reloading (garble backend) ()

theorem reloading_found :
    Endpoint.find reloading.method reloading.path = .ok (.here (.play "song" .load)) :=
  Outcome.toOption_eq_some.mp (by decide +kernel)

theorem reloading_plays {answer : Except Mishap HttpAnswer} :
    (Visit.request reloading answer).Plays "song" :=
  ⟨_, reloading_found, .inl ⟨_, rfl⟩⟩

theorem reloaded_rejected {backend : Backend}
    (status : (reloaded backend).1.toOption.map (·.status) = some 422) :
    (Visit.request reloading (reloaded backend).1).Rejected := by
  obtain ⟨given, answered, told⟩ := Option.map_eq_some_iff.mp status
  exact ⟨given, Outcome.toOption_eq_some.mp answered, told⟩

/-- As long as the song is being played, nothing comes of it. -/
theorem garbled_save_is_turned_down :
    (reloaded (started "song").2).1.toOption.map (·.status) = some 422 ∧
      Unnoticed (garble (started "song").2) (reloaded (started "song").2).2.1 := by
  have status : (reloaded (started "song").2).1.toOption.map (·.status) = some 422 := by
    decide +kernel
  refine ⟨status, ?_⟩
  have begun : Visited hymnal (.tool (.startStory "song" "Ann") (started "song").1)
      (started "song").2 := .used rfl
  have reached : Reached hymnal (garble (started "song").2) :=
    (Reached.started.visited begun).filled garbled
  have playing : ((getEngine "song").run.run (garble (started "song").2)).1.toOption =
      some (some 0) := by
    decide +kernel
  cases rejections_go_unnoticed (fun _ => rfl) reached (.served rfl) reloading_plays
    (reloaded_rejected status) with
  | unnoticed unnoticed => exact unnoticed
  | begun asked begun =>
    cases reloading_found.symm.trans asked
    rw [begun.1] at playing
    cases playing

/-- Where nobody plays it, someone does afterwards. -/
theorem rejections_may_begin_a_playthrough :
    ¬∀ (first before after : Backend) (visit : Visit) (slug : String),
      (∀ slug, first.sessions.get? slug = none) → Reached first before →
        Visited before visit after → visit.Plays slug → visit.Rejected →
          Unnoticed before after := by
  intro unnoticed
  have same := (unnoticed hymnal (garble hymnal) (reloaded hymnal).2.1
    (.request reloading (reloaded hymnal).1) "song" (fun _ => rfl) (.filled .started garbled)
    (.served rfl) reloading_plays (reloaded_rejected (by decide +kernel))).watched "song"
  have before : (watched (garble hymnal) "song").toOption.isSome = false := by decide +kernel
  have after : (watched (reloaded hymnal).2.1 "song").toOption.isSome = true := by
    decide +kernel
  rw [same, before] at after
  cases after

end Backend

end VisualNovel
