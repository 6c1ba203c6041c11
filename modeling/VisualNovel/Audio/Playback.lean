import VisualNovel.Json.Equality
import VisualNovel.Number.Decimal
import VisualNovel.Story.Document
import VisualNovel.Text.Numeral
/-!
What should be heard.  One track of background music plays at a time, and sound effects come and go.
Nothing is played here: commands are issued for whoever plays, and what is already playing is
remembered so that it is not started again.  Stories name tracks by texts, but a record of an
earlier playthrough may hold anything in their place, and so a track is a document here.
-/

namespace VisualNovel

/-- What the player of sounds is told to do. -/
inductive AudioCommand where
  | playBgm (src loop : Json) (volume : Binary64)
  | stopBgm
  | playSfx (src : Json) (volume : Binary64)
  deriving DecidableEq

def AudioCommand.toJson : AudioCommand → Json
  | playBgm src loop volume =>
    .obj [("action", .str "play_bgm"), ("src", src), ("loop", loop), ("volume", .float volume)]
  | stopBgm => .obj [("action", .str "stop_bgm")]
  | playSfx src volume =>
    .obj [("action", .str "play_sfx"), ("src", src), ("volume", .float volume)]

/-- Why something is no volume. -/
inductive VolumeFault where
  | notNumber
  | notNumberText
  | overflow
  deriving DecidableEq

/-- The number nearest to a number that is at least zero and at most one.  What is no number is
taken for the largest. -/
def Binary64.clamped (x : Binary64) : Binary64 :=
  let most := if x.lt .unit then x else .unit
  if Binary64.zero.lt most then most else .zero

theorem Binary64.clamped_clamped (x : Binary64) : x.clamped.clamped = x.clamped := by
  have bounds : Binary64.zero.lt .unit = true ∧ Binary64.unit.lt .unit = false ∧
      Binary64.zero.lt .zero = false := by decide +kernel
  obtain ⟨positive, unitSelf, zeroSelf⟩ := bounds
  unfold clamped
  by_cases below : x.lt .unit
  · by_cases above : Binary64.zero.lt x <;> simp [below, above, positive, zeroSelf]
  · simp [below, positive, unitSelf]

/-- A volume is a number that is in range. -/
structure Volume where
  level : Binary64
  inRange : level.clamped = level
  deriving DecidableEq

namespace Volume

/-- The volume nearest to a number. -/
def nearest (x : Binary64) : Volume := ⟨x.clamped, x.clamped_clamped⟩

/-- A number, a truth value or the text of a number, before it is brought into range. -/
def ofJson : Json → Except VolumeFault Binary64
  | .float x => .ok x
  | .int n => (Binary64.ofInt? n).elim (.error .overflow) .ok
  | .bool value => .ok (if value then .unit else .zero)
  | .str text =>
    (Decimal.readTrimmed (Text.trimNumeral text.toList)).elim (.error .notNumberText) .ok
  | _ => .error .notNumber

/-- The volume that a document stands for. -/
def read (document : Json) : Except VolumeFault Volume := (ofJson document).map nearest

/-- A volume that has been written down reads back as itself. -/
@[simp] theorem read_level (volume : Volume) : read (.float volume.level) = .ok volume := by
  obtain ⟨level, inRange⟩ := volume
  simp only [read, ofJson, Except.map, nearest, inRange]

end Volume

structure Playback where
  bgmVolume : Volume
  sfxVolume : Volume
  /-- Whether nothing is heard: what counts as given mutes. -/
  muted : Json
  /-- The track that is playing, or null. -/
  current : Json
  /-- The track that a node asked for last, or null. -/
  lastDirective : Json
  deriving DecidableEq

namespace Playback

/-- The volumes of background music and of sound effects when nothing else is said. -/
def standardBgmVolume : Binary64 := .ofDecimal false 3 (-1)

def standardSfxVolume : Binary64 := .ofDecimal false 5 (-1)

/-- A silent playback with the given volumes. -/
def withVolumes (bgm sfx : Binary64) : Playback :=
  ⟨.nearest bgm, .nearest sfx, .bool false, .null, .null⟩

def standard : Playback := withVolumes standardBgmVolume standardSfxVolume

/-- The volume of background music as it is heard. -/
def bgmLevel (p : Playback) : Binary64 := if p.muted.truthy then .zero else p.bgmVolume.level

def sfxLevel (p : Playback) : Binary64 := if p.muted.truthy then .zero else p.sfxVolume.level

/-- Starts a track unless it is playing already. -/
def playBgm (p : Playback) (src loop : Json) : Playback × Option AudioCommand :=
  if src.same p.current then (p, none)
  else ({ p with current := src }, some (.playBgm src loop p.bgmLevel))

/-- The command for a sound effect. -/
def sfxCommand (p : Playback) (src : Json) : AudioCommand := .playSfx src p.sfxLevel

/-- Carries out the directive of a node.  Music that the last directive asked for already is not
asked for again. -/
def play (p : Playback) : Option AudioDirective → Playback × Option AudioCommand
  | none => (p, none)
  | some directive =>
    match directive.kind with
    | .sfx => (p, some (p.sfxCommand (.str directive.src)))
    | .bgm =>
      let src := Json.str directive.src
      if p.lastDirective = src then (p, none)
      else { p with lastDirective := src }.playBgm src (.bool (directive.loop.getD true))

/-- Stops the track that is playing. -/
def stop (p : Playback) : Playback × Option AudioCommand :=
  if p.current = .null then (p, none)
  else ({ p with current := .null, lastDirective := .null }, some .stopBgm)

def toggleMute (p : Playback) : Playback := { p with muted := .bool !p.muted.truthy }

def setBgmVolume (p : Playback) (volume : Binary64) : Playback :=
  { p with bgmVolume := .nearest volume }

def setSfxVolume (p : Playback) (volume : Binary64) : Playback :=
  { p with sfxVolume := .nearest volume }

def toJson (p : Playback) : Json :=
  .obj [("current", p.current), ("last_directive", p.lastDirective),
    ("bgm_volume", .float p.bgmVolume.level), ("sfx_volume", .float p.sfxVolume.level), ("muted", p.muted)]

/-- A playback from the fields of its document, each of which may be left out. -/
def ofFields (fields : List (String × Json)) : Except VolumeFault Playback := do
  let volume (key : String) (standard : Binary64) : Except VolumeFault Volume :=
    match Json.lookup? key fields with
    | some document => Volume.read document
    | none => .ok (.nearest standard)
  let bgmVolume ← volume "bgm_volume" standardBgmVolume
  let sfxVolume ← volume "sfx_volume" standardSfxVolume
  return {
    bgmVolume, sfxVolume
    muted := (Json.lookup? "muted" fields).getD (.bool false)
    current := (Json.lookup? "current" fields).getD .null
    lastDirective := (Json.lookup? "last_directive" fields).getD .null }

end Playback

end VisualNovel
