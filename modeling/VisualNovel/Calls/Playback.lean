import VisualNovel.Mishap
/-!
Playback by calls: what is to be done is given by its name, and with which values by documents in a
row.  Nothing about those has been checked, and a call that makes no sense changes nothing.
-/

namespace VisualNovel.Playback

open Schema

/-- The settings that a new playback can be given. -/
def settingNames : List String := ["bgm_volume", "sfx_volume", "muted"]

/-- A new playback with settings by name. -/
def withSettings (settings : List (String × Json)) : Except Mishap Playback :=
  if settings.all fun (name, _) => settingNames.contains name then
    (ofFields settings).mapError .volume
  else .error .wrongKind

/-- A playback from its document. -/
def ofJson : Json → Except Mishap Playback
  | .obj fields => (ofFields fields).mapError .volume
  | _ => .error .wrongShape

/-- What a call answers, and the playback after it. -/
abbrev Called := Except Mishap Json × Playback

/-- A command, or null where there is none, as an answer. -/
def answering : Playback × Option AudioCommand → Called
  | (p, command) => (.ok (ofOption AudioCommand.toJson command), p)

/-- Sets a volume to what a document stands for. -/
def setVolume (p : Playback) (document : Json) (set : Playback → Binary64 → Playback) : Called :=
  match Volume.ofJson document with
  | .ok volume => (.ok .null, set p volume)
  | .error fault => (.error (.volume fault), p)

/-- Carries out a directive that has not been checked. -/
def playDocument (p : Playback) (directive : Json) : Called :=
  match nullable AudioDirective.ofJson directive with
  | .valid directive => answering (p.play directive)
  | .invalid first more => (.error (.invalid first more), p)

/-- Calls something by its name. -/
def call (p : Playback) (name : String) (values : List Json) : Called :=
  match name, values with
  | "play_bgm", [src] => answering (p.playBgm src (.bool true))
  | "play_bgm", [src, loop] => answering (p.playBgm src loop)
  | "play_sfx", [src] => (.ok (p.sfxCommand src).toJson, p)
  | "stop", [] => answering p.stop
  | "toggle_mute", [] => (.ok p.toggleMute.muted, p.toggleMute)
  | "set_bgm_volume", [volume] => p.setVolume volume setBgmVolume
  | "set_sfx_volume", [volume] => p.setVolume volume setSfxVolume
  | "current_track", [] => (.ok p.current, p)
  | "to_dict", [] => (.ok p.toJson, p)
  | name, _ =>
    (.error (if ["play_bgm", "play_sfx", "stop", "toggle_mute", "set_bgm_volume", "set_sfx_volume",
        "current_track", "to_dict"].contains name then .wrongKind else .wrongShape), p)

end VisualNovel.Playback
