import VisualNovel.Proofs.Files
import VisualNovel.Proofs.Rereading

/-! Settings over any series of changes. The file holds the standard settings and the changes in one,
and it is laid over the standard settings whenever it is read. This gives back what was written,
because the standard keys come first in it, in their order, and no key is there twice
(`assignAll_covering`). So what is kept is the settings themselves (`Holds`), and a change goes over
them key by key. -/
namespace VisualNovel

/-! ## Keys over keys -/

namespace Json

variable {key : String} {value : Json} {fields others done base : List (String × Json)}

theorem assign_eq_put : assign key value fields = Named.put key value fields := by
  induction fields with
  | nil => rfl
  | cons field rest ih =>
    obtain ⟨name, old⟩ := field
    by_cases same : name = key
    · subst same
      rw [assign, Named.put, if_pos rfl, if_pos rfl]
    · rw [assign, Named.put, if_neg same, if_neg same, ih]

theorem assign_append (absent : key ∉ done.map Prod.fst) :
    assign key value (done ++ fields) = done ++ assign key value fields := by
  induction done with
  | nil => rfl
  | cons field rest ih =>
    obtain ⟨name, old⟩ := field
    rw [List.map_cons, List.mem_cons, not_or] at absent
    rw [List.cons_append, assign, if_neg (Ne.symm absent.1), ih absent.2, List.cons_append]

theorem lookup?_append :
    lookup? key (fields ++ others) = (lookup? key fields).or (lookup? key others) := by
  induction fields with
  | nil => rfl
  | cons field rest ih =>
    obtain ⟨name, value⟩ := field
    by_cases same : name = key
    · simp [lookup?, same]
    · simpa [lookup?, same] using ih

/-- The last value that a key is given counts, and without any the key keeps the one it had. -/
theorem lookup?_assignAll (fields done : List (String × Json)) :
    lookup? key (assignAll fields done) = (lookup? key fields.reverse).or (lookup? key done) := by
  induction fields generalizing done with
  | nil => rfl
  | cons field rest ih =>
    have assigned : assignAll (field :: rest) done =
        assignAll rest (assign field.1 field.2 done) := rfl
    have single : lookup? key (assign field.1 field.2 done) =
        (lookup? key [field]).or (lookup? key done) := by
      rw [lookup?_assign, lookup?]
      by_cases same : field.1 = key
      · simp [same]
      · simp [same, lookup?]
    rw [assigned, ih, single, List.reverse_cons, lookup?_append, Option.or_assoc]

/-- Fields that have all keys of others in front, in their order. -/
structure Covers (fields base : List (String × Json)) : Prop where
  kept : base.map Prod.fst <+: fields.map Prod.fst
  distinct : (fields.map Prod.fst).Nodup

theorem Covers.assign (covers : Covers fields base) (key : String) (value : Json) :
    Covers (assign key value fields) base := by
  rw [assign_eq_put]
  refine ⟨?_, Named.distinct_put key value covers.distinct⟩
  rw [Named.names_put]
  split
  · exact covers.kept
  · exact covers.kept.trans (List.prefix_append _ _)

theorem Covers.assignAll (covers : Covers fields base) (others : List (String × Json)) :
    Covers (assignAll others fields) base := by
  induction others generalizing fields with
  | nil => exact covers
  | cons field rest ih => exact ih (covers.assign field.1 field.2)

/-- Behind what is done, fields replace those of the same keys, and more follow. -/
theorem assignAll_behind (distinct : ((done ++ fields).map Prod.fst).Nodup)
    (kept : base.map Prod.fst <+: fields.map Prod.fst) :
    assignAll fields (done ++ base) = done ++ fields := by
  induction fields generalizing done base with
  | nil =>
    have none : base = [] := by simpa using kept
    rw [none]
    rfl
  | cons field rest ih =>
    obtain ⟨name, value⟩ := field
    have absent : name ∉ done.map Prod.fst := by
      rw [List.map_append, List.nodup_append] at distinct
      intro among
      exact distinct.2.2 name among name (.head _) rfl
    have moved : done ++ (name, value) :: rest = done ++ [(name, value)] ++ rest := by simp
    have assigned (base : List (String × Json)) : assignAll ((name, value) :: rest) (done ++ base) =
        assignAll rest (done ++ Json.assign name value base) := by
      rw [← assign_append absent]
      rfl
    rw [moved] at distinct ⊢
    rw [assigned]
    cases base with
    | nil =>
      have rested := @ih (done ++ [(name, value)]) [] distinct List.nil_prefix
      rwa [List.append_nil] at rested
    | cons first base =>
      obtain ⟨other, old⟩ := first
      obtain ⟨same, others⟩ := List.cons_prefix_cons.mp kept
      obtain rfl : other = name := same
      rw [Json.assign, if_pos rfl, ← List.singleton_append, ← List.append_assoc]
      exact ih distinct others

/-- Fields that cover others are what comes of laying them over those. -/
theorem assignAll_covering (covers : Covers fields base) : assignAll fields base = fields :=
  @assignAll_behind fields [] base covers.distinct covers.kept

end Json

namespace Config

/-! ## Sections -/

/-- The sections that settings have. -/
inductive Part where
  | connection
  | grading
  | audio
  deriving DecidableEq

namespace Part

def all : List Part := [connection, grading, audio]

def name : Part → String
  | connection => "llm_connection"
  | grading => "grading"
  | audio => "audio"

/-- The section of some settings. -/
def of : Part → Config → Section
  | connection, config => config.connection
  | grading, config => config.grading
  | audio, config => config.audio

/-- What changes give a section, unless they pass it over or give no object. -/
def layer? (part : Part) (changes : List (String × Json)) : Option Section :=
  match Json.lookup? part.name changes with
  | some (.obj given) => some given
  | _ => none

/-- The value that changes give a key of a section. Should an object have a key twice, the last value
counts. -/
def given? (part : Part) (key : String) (changes : List (String × Json)) : Option Json :=
  (part.layer? changes).bind fun given => Json.lookup? key given.reverse

end Part

variable {config : Config} {changes : List (String × Json)} {key : String}

theorem ext_parts {config other : Config} (same : ∀ part : Part, part.of config = part.of other) :
    config = other := by
  obtain ⟨connection, grading, audio⟩ := config
  obtain ⟨connection', grading', audio'⟩ := other
  obtain rfl : connection = connection' := same .connection
  obtain rfl : grading = grading' := same .grading
  obtain rfl : audio = audio' := same .audio
  rfl

theorem of_merge (part : Part) : part.of (config.merge changes) =
    Json.assignAll ((part.layer? changes).getD []) (part.of config) := by
  have laid (values : Section) : layOver (Json.lookup? part.name changes) values =
      Json.assignAll ((part.layer? changes).getD []) values := by
    unfold layOver Part.layer?
    cases Json.lookup? part.name changes with
    | none => rfl
    | some layer => cases layer <;> rfl
  rw [← laid]
  cases part <;> rfl

/-- A change gives its keys their values, and leaves the others alone. -/
theorem lookup?_merge (part : Part) : Json.lookup? key (part.of (config.merge changes)) =
    (part.given? key changes).or (Json.lookup? key (part.of config)) := by
  rw [of_merge, Json.lookup?_assignAll, Part.given?]
  cases part.layer? changes <;> rfl

/-- Settings that have all standard keys, and these first. -/
def CoversStandard (config : Config) : Prop :=
  ∀ part : Part, Json.Covers (part.of config) (part.of standard)

theorem coversStandard_standard : CoversStandard standard := by
  intro part
  refine ⟨List.prefix_refl _, ?_⟩
  cases part <;> decide

theorem CoversStandard.merge (covers : CoversStandard config) (changes : List (String × Json)) :
    CoversStandard (config.merge changes) := by
  intro part
  rw [of_merge]
  exact (covers part).assignAll _

/-- Settings come back when what was written is laid over the standard ones. -/
theorem CoversStandard.reread (covers : CoversStandard config) :
    standard.merge [("llm_connection", .obj config.connection), ("grading", .obj config.grading),
      ("audio", .obj config.audio)] = config := by
  apply ext_parts
  intro part
  rw [of_merge]
  have layer : part.layer? [("llm_connection", .obj config.connection),
      ("grading", .obj config.grading), ("audio", .obj config.audio)] = some (part.of config) := by
    cases part <;> rfl
  rw [layer]
  exact Json.assignAll_covering (covers part)

end Config

/-! ## Settings that are kept -/

namespace Storage

open Config

variable {storage : Storage} {config : Config}

/-- The settings that a storage holds: the standard ones while there is no file. -/
structure Holds (storage : Storage) (config : Config) : Prop where
  covers : CoversStandard config
  kept : storage.directory.files.get? configPath = none ∧ config = .standard ∨
    storage.directory.files.get? configPath = some (.document config.toJson)

theorem holds_standard (unset : storage.directory.files.get? configPath = none) :
    storage.Holds .standard :=
  ⟨coversStandard_standard, .inl ⟨unset, rfl⟩⟩

theorem Holds.found (holds : storage.Holds config) : storage.config = .ok config := by
  obtain ⟨covers, ⟨unset, rfl⟩ | kept⟩ := holds
  · simp only [Storage.config, unset]
  · simp only [Storage.config, kept]
    exact congrArg Except.ok covers.reread

/-- A change is laid over the settings that are held, and the whole is held then. -/
theorem Holds.update (holds : storage.Holds config) (changes : List (String × Json)) :
    ∃ after, storage.updateConfig changes = .ok (config.merge changes, after) ∧
      after.Holds (config.merge changes) := by
  have updated : storage.updateConfig changes = .ok (config.merge changes,
      ⟨storage.directory.put configPath (.document (config.merge changes).toJson)⟩) := by
    rw [updateConfig, holds.found]
    rfl
  refine ⟨_, updated, holds.covers.merge changes, .inr ?_⟩
  rw [Directory.put, Named.get?_insert, if_pos rfl]

end Storage

/-! ## Series of changes -/

namespace Config

/-- What is done with settings: they are changed, they are read, or somebody edits what he has been
handed out. -/
inductive Use where
  | update (changes : List (String × Json))
  | read
  | edit (place : Nat) (how : Json → Json)

/-- A storage, and what has been handed out of the settings in it so far. -/
structure Desk where
  storage : Storage
  handedOut : List Json

def Desk.serve (desk : Desk) : Use → Except Mishap Desk
  | .update changes => do
    let (config, storage) ← desk.storage.updateConfig changes
    return ⟨storage, desk.handedOut ++ [config.toJson]⟩
  | .read => do
    let config ← desk.storage.config
    return { desk with handedOut := desk.handedOut ++ [config.toJson] }
  | .edit place how => .ok { desk with handedOut := desk.handedOut.modify place how }

/-- The value that a use gives a key of a section. -/
def Use.given? (part : Part) (key : String) : Use → Option Json
  | update changes => part.given? key changes
  | _ => none

/-- The value that the last use to give a key of a section one has given it. -/
def lastGiven? (part : Part) (key : String) (uses : List Use) : Option Json :=
  uses.reverse.findSome? (Use.given? part key)

/-- Nothing is changed. -/
def Use.isQuiet : Use → Bool
  | update _ => false
  | _ => true

variable {desk : Desk} {config : Config}

theorem lastGiven?_cons (part : Part) (key : String) (use : Use) (uses : List Use) :
    lastGiven? part key (use :: uses) = (lastGiven? part key uses).or (use.given? part key) := by
  have single : [use].findSome? (Use.given? part key) = use.given? part key := by
    rw [List.findSome?_cons]
    cases use.given? part key <;> rfl
  rw [lastGiven?, List.reverse_cons, List.findSome?_append, single, lastGiven?]

/-- One use. -/
theorem serve_holds (holds : desk.storage.Holds config) (use : Use) :
    ∃ after later, desk.serve use = .ok after ∧ after.storage.Holds later ∧
      (use.isQuiet = true → later = config) ∧ ∀ part key,
        Json.lookup? key (part.of later) =
          (use.given? part key).or (Json.lookup? key (part.of config)) := by
  cases use with
  | update changes =>
    obtain ⟨after, updated, holds⟩ := holds.update changes
    have served : desk.serve (.update changes) =
        .ok ⟨after, desk.handedOut ++ [(config.merge changes).toJson]⟩ := by
      rw [Desk.serve, updated]
      rfl
    exact ⟨_, _, served, holds, nofun, fun part key => lookup?_merge part⟩
  | read =>
    have served : desk.serve .read =
        .ok { desk with handedOut := desk.handedOut ++ [config.toJson] } := by
      rw [Desk.serve, holds.found]
      rfl
    exact ⟨_, config, served, holds, fun _ => rfl, fun _ _ => rfl⟩
  | edit place how => exact ⟨_, config, rfl, holds, fun _ => rfl, fun _ _ => rfl⟩

/-- Any number of them. -/
theorem served_holds (uses : List Use) (holds : desk.storage.Holds config) :
    ∃ after later, uses.foldlM Desk.serve desk = .ok after ∧ after.storage.Holds later ∧
      ((∀ use ∈ uses, use.isQuiet = true) → later = config) ∧ ∀ part key,
        Json.lookup? key (part.of later) =
          (lastGiven? part key uses).or (Json.lookup? key (part.of config)) := by
  induction uses generalizing desk config with
  | nil => exact ⟨desk, config, rfl, holds, fun _ => rfl, fun _ _ => rfl⟩
  | cons use uses ih =>
    obtain ⟨between, middle, served, holds, quiet, values⟩ := serve_holds holds use
    obtain ⟨after, later, ran, holds, quiets, latest⟩ := ih holds
    refine ⟨after, later, ?_, holds, fun all => ?_, fun part key => ?_⟩
    · rw [List.foldlM_cons, served]
      exact ran
    · obtain ⟨first, others⟩ := List.forall_mem_cons.mp all
      rw [quiets others, quiet first]
    · rw [latest, values, lastGiven?_cons, Option.or_assoc]

end Config

end VisualNovel
