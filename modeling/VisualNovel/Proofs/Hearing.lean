import VisualNovel.Calls.Playback
import VisualNovel.Proofs.Documents
import VisualNovel.Proofs.Music
import VisualNovel.Proofs.Sounds

/-! What is heard of a playback by itself, whatever is done with it. A host that carries out each
command hears the track that the playback takes to be playing, and is told to start or to stop only
what makes a difference. Every command is as loud as was last asked for. Writing the playback down
and reading it back goes unnoticed. -/
namespace VisualNovel

/-- Everything that can be done with a playback. -/
inductive Operation where
  | play (directive : Option AudioDirective)
  | playBgm (src : String) (loop : Bool)
  | playSfx (src : String)
  | stop
  | setBgmVolume (volume : Json)
  | setSfxVolume (volume : Json)
  | toggleMute
  | restore
  deriving DecidableEq

namespace Operation

/-- The volume of music that an operation sets, if it is given one. -/
def bgmVolume? : Operation → Option Volume
  | .setBgmVolume volume => (Volume.read volume).toOption
  | _ => none

/-- The volume of sound effects that an operation sets, if it is given one. -/
def sfxVolume? : Operation → Option Volume
  | .setSfxVolume volume => (Volume.read volume).toOption
  | _ => none

end Operation

/-- The last volume that has been set, or else the first one. -/
def lastVolume (first : Volume) (volumes : List Volume) : Volume := volumes.getLast?.getD first

/-- No field has a name that none of them has. -/
theorem Json.lookup?_eq_none {key : String} {fields : List (String × Json)}
    (other : ∀ field ∈ fields, field.1 ≠ key) : lookup? key fields = none := by
  induction fields with
  | nil => rfl
  | cons field rest ih =>
    obtain ⟨name, value⟩ := field
    rw [lookup?, if_neg (other (name, value) List.mem_cons_self)]
    exact ih fun field among => other field (List.mem_cons_of_mem _ among)

/-! ## Volumes in range -/

/-- A number lies between zero and one. -/
structure Binary64.InUnit (x : Binary64) : Prop where
  least : zero.le x = true
  most : x.le unit = true

theorem Binary64.le_of_lt {x y : Binary64} (less : x.lt y = true) : x.le y = true := by
  simp only [lt] at less
  simp [le, less]

theorem Binary64.inUnit_zero : zero.InUnit := ⟨by decide +kernel, by decide +kernel⟩

/-- What has been brought into range is in range. -/
theorem Binary64.inUnit_clamped (x : Binary64) : x.clamped.InUnit := by
  have one : unit.InUnit := ⟨by decide +kernel, by decide +kernel⟩
  unfold clamped
  by_cases below : x.lt unit
  · by_cases above : zero.lt x
    · simpa [below, above] using (⟨le_of_lt above, le_of_lt below⟩ : x.InUnit)
    · simpa [below, above] using inUnit_zero
  · by_cases above : zero.lt unit
    · simpa [below, above] using one
    · simpa [below, above] using inUnit_zero

theorem Volume.inUnit_level (volume : Volume) : volume.level.InUnit :=
  volume.inRange ▸ volume.level.inUnit_clamped

/-! ## Using a playback -/

namespace Playback

/-- What an operation brings about, and the playback after it. What is no volume is not set. -/
def perform (p : Playback) : Operation → Playback × Option AudioCommand
  | .play directive => p.play directive
  | .playBgm src loop => p.playBgm (.str src) (.bool loop)
  | .playSfx src => (p, some (p.sfxCommand (.str src)))
  | .stop => p.stop
  | .setBgmVolume volume => ((p.setVolume volume setBgmVolume).2, none)
  | .setSfxVolume volume => ((p.setVolume volume setSfxVolume).2, none)
  | .toggleMute => (p.toggleMute, none)
  | .restore => ((ofJson p.toJson).toOption.getD p, none)

/-- The playback after some operations, and the commands that they have brought about. -/
def performed (p : Playback) (operations : List Operation) : Playback × List AudioCommand :=
  operations.foldl (fun done operation =>
    ((done.1.perform operation).1, done.2 ++ (done.1.perform operation).2.toList)) (p, [])

/-- Whether a playback is muted after some operations: each toggle turns it round. -/
def mutedAfter (p : Playback) (operations : List Operation) : Bool :=
  p.muted.truthy ^^ (operations.count .toggleMute % 2 == 1)

/-- How loudly music is heard after some operations. -/
def bgmAfter (p : Playback) (operations : List Operation) : Binary64 :=
  if p.mutedAfter operations then .zero
  else (lastVolume p.bgmVolume (operations.filterMap Operation.bgmVolume?)).level

/-- How loudly sound effects are heard after some operations. -/
def sfxAfter (p : Playback) (operations : List Operation) : Binary64 :=
  if p.mutedAfter operations then .zero
  else (lastVolume p.sfxVolume (operations.filterMap Operation.sfxVolume?)).level

/-- A command makes a difference to a host that hears a track, and is as loud as it should be. -/
inductive Fitting (bgm sfx : Binary64) (heard : Json) : AudioCommand → Prop
  | music {src loop : Json} (other : heard ≠ src) : Fitting bgm sfx heard (.playBgm src loop bgm)
  | silence (sounding : heard ≠ .null) : Fitting bgm sfx heard .stopBgm
  | effect {src : Json} : Fitting bgm sfx heard (.playSfx src sfx)

variable {p fresh : Playback} {operation : Operation} {operations : List Operation}
  {command : AudioCommand}

theorem performed_snoc (p : Playback) (operations : List Operation) (operation : Operation) :
    p.performed (operations ++ [operation]) =
      (((p.performed operations).1.perform operation).1,
        (p.performed operations).2 ++ ((p.performed operations).1.perform operation).2.toList) := by
  rw [performed, List.foldl_append]
  rfl

/-- A playback that is written down and read back is the same. -/
theorem ofJson_toJson (p : Playback) : ofJson p.toJson = .ok p := by
  obtain ⟨fields, written, read⟩ := p.ofFields_toJson
  rw [written, ofJson, read]
  rfl

@[simp] theorem perform_restore (p : Playback) : p.perform .restore = (p, none) := by
  simp only [perform, ofJson_toJson, Except.toOption, Option.getD_some]

theorem setVolume_eq (p : Playback) (document : Json) (set : Playback → Binary64 → Playback) :
    (p.setVolume document set).2 =
      match Volume.ofJson document with
      | .ok volume => set p volume
      | .error _ => p := by
  unfold setVolume
  cases Volume.ofJson document <;> rfl

/-! ## A single operation -/

/-- Whoever hears what is playing and carries out what comes of an operation hears what is
playing. -/
theorem perform_track (p : Playback) (operation : Operation) :
    trackAfter p.current (p.perform operation).2.toList = (p.perform operation).1.current := by
  cases operation with
  | play directive => exact p.tell_track (.directive directive)
  | playBgm src loop => exact playBgm_track p _ _
  | playSfx src => rfl
  | stop => exact p.tell_track .stop
  | setBgmVolume volume | setSfxVolume volume =>
    simp only [perform, setVolume_eq]
    split <;> rfl
  | toggleMute => rfl
  | restore => rw [perform_restore]; rfl

theorem playBgm_fitting {src : String} {loop : Json}
    (issued : (p.playBgm (.str src) loop).2 = some command) :
    Fitting p.bgmLevel p.sfxLevel p.current command := by
  simp only [playBgm, Json.same_str, decide_eq_true_eq] at issued
  split at issued
  · cases issued
  · rename_i other
    cases issued
    exact .music other

/-- What comes of an operation makes a difference to whoever hears what is playing. -/
theorem perform_fitting (issued : (p.perform operation).2 = some command) :
    Fitting p.bgmLevel p.sfxLevel p.current command := by
  cases operation with
  | setBgmVolume | setSfxVolume | toggleMute | restore => cases issued
  | playBgm src loop => exact playBgm_fitting issued
  | playSfx src =>
    cases issued
    exact .effect
  | stop =>
    simp only [perform, stop] at issued
    split at issued
    · cases issued
    · rename_i sounding
      cases issued
      exact .silence sounding
  | play directive =>
    cases directive with
    | none => cases issued
    | some directive =>
      cases kind : directive.kind with
      | sfx =>
        simp only [perform, play, kind, Option.some.injEq] at issued
        subst issued
        exact .effect
      | bgm =>
        simp only [perform, play, kind] at issued
        split at issued
        · cases issued
        · -- What was last asked for has changed by now, but not what is heard.
          exact playBgm_fitting (p := { p with lastDirective := .str directive.src }) issued

/-- Volumes are changed by setting them and by nothing else, and being muted by the toggle. -/
theorem perform_loudness (p : Playback) (operation : Operation) :
    (p.perform operation).1.bgmVolume = operation.bgmVolume?.getD p.bgmVolume ∧
      (p.perform operation).1.sfxVolume = operation.sfxVolume?.getD p.sfxVolume ∧
      (p.perform operation).1.muted.truthy =
        (p.muted.truthy ^^ decide (operation = .toggleMute)) := by
  have unheard (q : Playback) (kept : q.sfxVolume = p.sfxVolume ∧ q.bgmVolume = p.bgmVolume ∧
      q.muted = p.muted) (silent : operation.bgmVolume? = none ∧ operation.sfxVolume? = none ∧
        operation ≠ .toggleMute) :
      q.bgmVolume = operation.bgmVolume?.getD p.bgmVolume ∧
        q.sfxVolume = operation.sfxVolume?.getD p.sfxVolume ∧
        q.muted.truthy = (p.muted.truthy ^^ decide (operation = .toggleMute)) := by
    simp [silent, kept]
  cases operation with
  | play directive => exact unheard _ (Engine.play_keeps_loudness p directive) ⟨rfl, rfl, by simp⟩
  | playBgm src loop =>
    rw [perform, playBgm_own]
    exact unheard _ ⟨rfl, rfl, rfl⟩ ⟨rfl, rfl, by simp⟩
  | playSfx src => exact unheard p ⟨rfl, rfl, rfl⟩ ⟨rfl, rfl, by simp⟩
  | stop =>
    refine unheard _ ?_ ⟨rfl, rfl, by simp⟩
    simp only [perform, stop]
    split <;> exact ⟨rfl, rfl, rfl⟩
  | restore =>
    rw [perform_restore]
    exact unheard p ⟨rfl, rfl, rfl⟩ ⟨rfl, rfl, by simp⟩
  | setBgmVolume volume | setSfxVolume volume =>
    simp only [perform, setVolume_eq, Operation.bgmVolume?, Operation.sfxVolume?, Volume.read]
    cases Volume.ofJson volume <;> simp [setBgmVolume, setSfxVolume, Except.map, Except.toOption]
  | toggleMute => simp [perform, toggleMute, Json.truthy, Operation.bgmVolume?, Operation.sfxVolume?]

/-! ## Many operations -/

theorem lastVolume_snoc (first : Volume) (volumes : List Volume) (volume : Option Volume) :
    lastVolume first (volumes ++ volume.toList) =
      volume.getD (lastVolume first volumes) := by
  cases volume <;> simp [lastVolume]

theorem mutedAfter_snoc (p : Playback) (operations : List Operation) (operation : Operation) :
    p.mutedAfter (operations ++ [operation]) =
      (p.mutedAfter operations ^^ decide (operation = .toggleMute)) := by
  by_cases toggle : operation = .toggleMute
  · subst toggle
    simp only [mutedAfter, List.count_append, List.count_singleton_self, decide_true, Bool.xor_true]
    rcases Nat.mod_two_eq_zero_or_one (operations.count .toggleMute) with even | odd
    · simp [Nat.add_mod, even]
    · simp [Nat.add_mod, odd]
  · simp [mutedAfter, List.count_append, toggle]

/-- After any operations, the volumes and being muted are as they were last asked for. -/
theorem performed_loudness (p : Playback) (operations : List Operation) :
    (p.performed operations).1.bgmVolume =
        lastVolume p.bgmVolume (operations.filterMap Operation.bgmVolume?) ∧
      (p.performed operations).1.sfxVolume =
        lastVolume p.sfxVolume (operations.filterMap Operation.sfxVolume?) ∧
      (p.performed operations).1.muted.truthy = p.mutedAfter operations := by
  induction operations using List.reverseRecOn with
  | nil => simp [performed, lastVolume, mutedAfter]
  | append_singleton operations operation ih =>
    obtain ⟨bgm, sfx, muted⟩ := ih
    obtain ⟨bgm', sfx', muted'⟩ := perform_loudness (p.performed operations).1 operation
    have single {α : Type} (f : Operation → Option α) :
        [operation].filterMap f = (f operation).toList := by
      cases h : f operation <;> simp [h]
    simp only [performed_snoc, List.filterMap_append, single, lastVolume_snoc, mutedAfter_snoc]
    exact ⟨bgm'.trans (by rw [bgm]), sfx'.trans (by rw [sfx]), muted'.trans (by rw [muted])⟩

/-- Whoever hears what is playing and carries out all commands hears what is playing. -/
theorem performed_track (p : Playback) (operations : List Operation) :
    trackAfter p.current (p.performed operations).2 = (p.performed operations).1.current := by
  induction operations using List.reverseRecOn with
  | nil => rfl
  | append_singleton operations operation ih =>
    rw [performed_snoc, trackAfter_append, ih, perform_track]

theorem stop_current (p : Playback) : p.stop.1.current = .null := by
  unfold stop
  split
  · assumption
  · rfl

/-- A playback that has just been set up plays nothing. -/
theorem withSettings_silent {settings : List (String × Json)}
    (new : withSettings settings = .ok fresh) : fresh.current = .null := by
  unfold withSettings at new
  split at new
  · rename_i named
    -- A new playback is given its volumes and whether it is muted, but no track.
    have untracked : Json.lookup? "current" settings = none := by
      refine Json.lookup?_eq_none fun field among same => ?_
      obtain ⟨name, value⟩ := field
      have known : settingNames.contains name = true := List.all_eq_true.mp named (name, value) among
      rw [show name = "current" from same] at known
      revert known
      decide
    have made := Outcome.mapError_eq_ok.mp new
    simp only [ofFields, Outcome.bind_eq_ok, Outcome.pure_eq_ok] at made
    obtain ⟨_, _, _, _, rfl⟩ := made
    simp [untracked]
  · cases new

theorem bgmLevel_performed (p : Playback) (operations : List Operation) :
    (p.performed operations).1.bgmLevel = p.bgmAfter operations := by
  obtain ⟨bgm, _, muted⟩ := performed_loudness p operations
  rw [bgmLevel, bgm, muted, bgmAfter]

theorem sfxLevel_performed (p : Playback) (operations : List Operation) :
    (p.performed operations).1.sfxLevel = p.sfxAfter operations := by
  obtain ⟨_, sfx, muted⟩ := performed_loudness p operations
  rw [sfxLevel, sfx, muted, sfxAfter]

/-- What a host hears of a playback that has been set up and then used in some way. -/
structure HeardRight (fresh : Playback) (operations : List Operation) : Prop where
  /-- The host that carries out all commands hears the track that is said to be playing. -/
  track : trackAfter .null (fresh.performed operations).2 = (fresh.performed operations).1.current
  /-- Whatever command comes next makes a difference to the host and is as loud as it should be. -/
  fitting : ∀ next command, ((fresh.performed operations).1.perform next).2 = some command →
    Fitting (fresh.bgmAfter operations) (fresh.sfxAfter operations)
      (trackAfter .null (fresh.performed operations).2) command
  /-- No command is louder than the loudest. -/
  bounded : (fresh.bgmAfter operations).InUnit ∧ (fresh.sfxAfter operations).InUnit
  /-- A track that is asked for is the one that plays next, and after a stop nothing plays. -/
  obeyed : (∀ src loop,
      ((fresh.performed operations).1.perform (.playBgm src loop)).1.current = .str src) ∧
    ((fresh.performed operations).1.perform .stop).1.current = .null
  /-- The playback can be written down and read back at any time. -/
  saved : ofJson (fresh.performed operations).1.toJson = .ok (fresh.performed operations).1
  /-- Doing so changes nothing about what is to come. -/
  unnoticed : ∀ later,
    fresh.performed (operations ++ .restore :: later) = fresh.performed (operations ++ later)

/-- In whatever way a new playback is used, it is heard right. -/
theorem use_is_heard_right {settings : List (String × Json)}
    (new : withSettings settings = .ok fresh) (operations : List Operation) :
    HeardRight fresh operations := by
  have track := fresh.performed_track operations
  rw [withSettings_silent new] at track
  refine ⟨track, fun next command issued => ?_, ?_, ⟨fun src loop => ?_, stop_current _⟩,
    ofJson_toJson _, fun later => ?_⟩
  · rw [track, ← bgmLevel_performed, ← sfxLevel_performed]
    exact perform_fitting issued
  · rw [bgmAfter, sfxAfter]
    split
    · exact ⟨Binary64.inUnit_zero, Binary64.inUnit_zero⟩
    · exact ⟨Volume.inUnit_level _, Volume.inUnit_level _⟩
  · rw [perform, playBgm_own]
  · simp only [performed, List.foldl_append, List.foldl_cons, perform_restore, Option.toList_none,
      List.append_nil]

/-- A new playback that should be louder than it can be. -/
def loud : Playback := withVolumes .unit standardSfxVolume

/-- The waltz is played at full volume, and once more after a stop, but is not heard any longer. -/
def dance : List Operation :=
  [.playBgm "waltz" true, .playBgm "waltz" true, .restore, .stop, .toggleMute, .playBgm "waltz" true]

theorem dance_is_heard_right :
    withSettings [("bgm_volume", .int 2)] = .ok loud ∧ HeardRight loud dance ∧
      (loud.performed dance).2 = [.playBgm (.str "waltz") (.bool true) .unit, .stopBgm,
        .playBgm (.str "waltz") (.bool true) .zero] := by
  have new : withSettings [("bgm_volume", .int 2)] = .ok loud :=
    Outcome.toOption_eq_some.mp (by decide +kernel)
  exact ⟨new, use_is_heard_right new dance, by decide +kernel⟩

end Playback

end VisualNovel
