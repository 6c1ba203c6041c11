import Mathlib.Data.List.Induction
import Mathlib.Data.List.Nodup
import Mathlib.Data.Option.Basic
import VisualNovel.Proofs.Slugs

/-! Uploaded stories over built-in ones. A story is looked up in two folders, one after the other,
and the list of all stories is put together from what is in these folders. Both are compared with
what has been done: for each name, the last document that was saved under it and has not been
deleted, and the built-in one behind it (`shown?`). What a series of deeds keeps is which file is at
which place (`Holds`); that there are no other files is what makes the list complete. -/
namespace VisualNovel

/-! ## Names and deeds -/

namespace Outcome

/-- A list of steps of which each comes to an end. -/
theorem mapM_eq_ok {ε α β : Type} {step : α → Except ε β} {result : α → β} {items : List α}
    (each : ∀ item ∈ items, step item = .ok (result item)) :
    items.mapM step = .ok (items.map result) := by
  induction items with
  | nil => rfl
  | cons item rest ih =>
    obtain ⟨first, others⟩ := List.forall_mem_cons.mp each
    rw [List.mapM_cons, first, ih others]
    rfl

end Outcome

namespace Named

variable {α β : Type} {name : String}

/-- Renaming all names keeps what they stand for, if none becomes the name that is asked for. -/
theorem find?_map {f : String → String} {g : α → β} {entries : List (String × α)}
    (apart : ∀ entry ∈ entries, f entry.1 = f name → entry.1 = name) :
    find? (f name) (entries.map fun entry => (f entry.1, g entry.2)) =
      (find? name entries).map g := by
  induction entries with
  | nil => rfl
  | cons entry rest ih =>
    obtain ⟨other, value⟩ := entry
    obtain ⟨first, others⟩ := List.forall_mem_cons.mp apart
    by_cases same : other = name
    · simp [find?, same]
    · have differ : f other ≠ f name := fun equal => same (first equal)
      simp [find?, same, differ, ih others]

/-- A name that is given one value only has that value, however often it is given. -/
theorem get?_insertAll_of_mem {value : α} {entries : List (String × α)}
    (among : name ∈ entries.map Prod.fst)
    (alike : ∀ entry ∈ entries, entry.1 = name → entry.2 = value) (named : Named α) :
    (named.insertAll entries).get? name = some value := by
  induction entries generalizing named with
  | nil => cases among
  | cons entry rest ih =>
    obtain ⟨first, others⟩ := List.forall_mem_cons.mp alike
    by_cases again : name ∈ rest.map Prod.fst
    · exact ih again others _
    · have here : entry.1 = name := by simpa [again, eq_comm] using among
      refine (get?_insertAll_other (named.insert entry.1 entry.2) again).trans ?_
      rw [get?_insert, if_pos here, first here]

/-- Names get the values that they are given, and keep those that they have otherwise. -/
theorem get?_insertAll_of_told {values : String → Option α} {entries : List (String × α)}
    (told : ∀ name value, (name, value) ∈ entries ↔ values name = some value) (named : Named α) :
    (named.insertAll entries).get? name = (values name).or (named.get? name) := by
  cases given : values name with
  | none =>
    refine get?_insertAll_other named fun among => ?_
    obtain ⟨⟨_, value⟩, member, rfl⟩ := List.mem_map.mp among
    cases given.symm.trans ((told _ _).mp member)
  | some value =>
    have member : (name, value) ∈ entries := (told name value).mpr given
    refine get?_insertAll_of_mem (List.mem_map_of_mem member) (fun entry among same => ?_) named
    have given' : values entry.1 = some entry.2 := (told entry.1 entry.2).mp among
    rw [same, given] at given'
    exact (Option.some.inj given').symm

end Named

/-- A name for stories: not empty, and no way through folders. -/
structure StoryName where
  text : String
  given : text ≠ ""
  plain : IsPlain text

/-- Built-in stories. They are in files, so their names are names of files. -/
structure Presets where
  documents : Named (List (String × Json))
  names : ∀ slug ∈ documents.entries.map Prod.fst, slug ≠ "" ∧ IsPlain slug ∧ Directory.Suits slug

instance (name : String) : Decidable (Directory.Suits name) :=
  inferInstanceAs (Decidable (_ ∧ _))

namespace Overlay

/-- What is done with stories. -/
inductive Deed where
  | save (slug : StoryName) (document : List (String × Json))
  | delete (slug : StoryName)

/-- The name that a deed is about. -/
def Deed.slug : Deed → StoryName
  | save slug _ => slug
  | delete slug => slug

/-- What a deed leaves under a name, if it is about that name. Nothing is saved under a name that no
file can have. -/
def Deed.leaves? (slug : String) : Deed → Option (Option (List (String × Json)))
  | save other document =>
    if other.text = slug ∧ Directory.Suits slug then some (some document) else none
  | delete other => if other.text = slug then some none else none

/-- The document that has been saved last under a name and not been deleted since. -/
def uploaded? (deeds : List Deed) (slug : String) : Option (List (String × Json)) :=
  (deeds.reverse.findSome? (Deed.leaves? slug)).join

/-- The built-in document of a name. -/
def builtIn? (presets : Option Presets) (slug : String) : Option (List (String × Json)) :=
  presets.bind fun presets => presets.documents.get? slug

/-- Where a story comes from. -/
inductive Source where
  | builtIn
  | uploaded
  deriving DecidableEq

namespace Source

def folder : Source → List String
  | builtIn => Storage.presetStoriesFolder
  | uploaded => Storage.storiesFolder

def word : Source → String
  | builtIn => "preset"
  | uploaded => "user"

/-- The place of a story. -/
def place (source : Source) (slug : String) : String :=
  Directory.joinPath (source.folder ++ [slug ++ ".json"])

end Source

/-- The document that is shown for a name, and where it comes from. -/
def shown? (presets : Option Presets) (deeds : List Deed) (slug : String) :
    Option (Source × List (String × Json)) :=
  ((uploaded? deeds slug).map (Source.uploaded, ·)).or
    ((builtIn? presets slug).map (Source.builtIn, ·))

variable {presets : Option Presets} {deeds : List Deed} {slug : String} {source : Source}
  {document : List (String × Json)}

theorem uploaded?_snoc (deeds : List Deed) (deed : Deed) (slug : String) :
    uploaded? (deeds ++ [deed]) slug = (deed.leaves? slug).getD (uploaded? deeds slug) := by
  rw [uploaded?, List.reverse_append, List.reverse_singleton, List.singleton_append,
    List.findSome?_cons, uploaded?]
  cases deed.leaves? slug <;> rfl

theorem uploaded?_save (slug : StoryName) (document : List (String × Json))
    (suits : Directory.Suits slug.text) :
    uploaded? (deeds ++ [.save slug document]) slug.text = some document := by
  rw [uploaded?_snoc, Deed.leaves?, if_pos ⟨rfl, suits⟩]
  rfl

theorem uploaded?_save_unsuited (slug : StoryName) (document : List (String × Json))
    (unsuited : ¬Directory.Suits slug.text) :
    uploaded? (deeds ++ [.save slug document]) slug.text = uploaded? deeds slug.text := by
  rw [uploaded?_snoc, Deed.leaves?, if_neg fun both => unsuited both.2]
  rfl

theorem uploaded?_delete (slug : StoryName) :
    uploaded? (deeds ++ [.delete slug]) slug.text = none := by
  rw [uploaded?_snoc, Deed.leaves?, if_pos rfl]
  rfl

/-- A deed is of no consequence to other names. -/
theorem uploaded?_other {deed : Deed} (apart : deed.slug.text ≠ slug) :
    uploaded? (deeds ++ [deed]) slug = uploaded? deeds slug := by
  have nothing : deed.leaves? slug = none := by
    cases deed with
    | save other document => exact if_neg fun both => apart both.1
    | delete other => exact if_neg apart
  rw [uploaded?_snoc, nothing, Option.getD_none]

/-- Names of uploaded stories are names for stories that a file can have. -/
theorem uploaded?_name (held : uploaded? deeds slug = some document) :
    slug ≠ "" ∧ IsPlain slug ∧ Directory.Suits slug := by
  induction deeds using List.reverseRecOn with
  | nil => cases held
  | append_singleton deeds deed ih =>
    rw [uploaded?_snoc] at held
    cases deed with
    | save other document =>
      rw [Deed.leaves?] at held
      split at held
      · rename_i here
        obtain ⟨rfl, suits⟩ := here
        exact ⟨other.given, other.plain, suits⟩
      · exact ih held
    | delete other =>
      rw [Deed.leaves?] at held
      split at held
      · cases held
      · exact ih held

theorem builtIn?_name (held : builtIn? presets slug = some document) :
    slug ≠ "" ∧ IsPlain slug ∧ Directory.Suits slug := by
  obtain ⟨stories, rfl, held⟩ := Option.bind_eq_some_iff.mp held
  refine stories.names slug (Classical.byContradiction fun absent => ?_)
  have none : stories.documents.get? slug = none := Named.find?_eq_none.mpr absent
  cases held.symm.trans none

/-! ## Places -/

theorem folder_plain (source : Source) : ∀ part ∈ source.folder, IsPlain part := by
  cases source <;> decide

theorem place_inj {other : Source} {slug' : String} (plain : IsPlain slug) (plain' : IsPlain slug')
    (same : source.place slug = other.place slug') : source = other ∧ slug = slug' := by
  obtain ⟨folders, names⟩ :=
    Directory.place_inj (folder_plain source) plain (folder_plain other) plain' same
  refine ⟨?_, names⟩
  cases source <;> cases other <;> first | rfl | exact absurd folders (by decide)

theorem place_toList (source : Source) (slug : String) :
    (source.place slug).toList =
      (Directory.joinPath source.folder ++ "/").toList ++ (slug.toList ++ ".json".toList) := by
  cases source <;>
    simp [Source.place, Directory.joinPath, Source.folder, Storage.storiesFolder,
      Storage.presetStoriesFolder]

/-- In its own folder a story goes by its name. -/
theorem nameIn?_own (given : slug ≠ "") (plain : IsPlain slug) :
    Directory.nameIn? (Directory.joinPath source.folder) (source.place slug) = some slug := by
  have inside : '/' ∉ slug.toList ++ ".json".toList := by
    simpa only [IsPlain, String.toList_append] using plain.withEnding
  have named : slug.toList ++ ".json".toList ≠ ".json".toList := by
    simpa using given
  have begins : (Directory.joinPath source.folder ++ "/").toList.isPrefixOf
      (source.place slug).toList = true := by
    rw [place_toList, List.isPrefixOf_iff_prefix]
    exact List.prefix_append _ _
  have ends : ".json".toList.isSuffixOf (source.place slug).toList = true := by
    rw [place_toList, List.isSuffixOf_iff_suffix, ← List.append_assoc]
    exact List.suffix_append _ _
  have file : (source.place slug).toList.drop
      (Directory.joinPath source.folder ++ "/").toList.length = slug.toList ++ ".json".toList := by
    rw [place_toList, List.drop_left]
  have outside : (slug.toList ++ ".json".toList).contains '/' = false := by
    simpa using inside
  simp only [Directory.nameIn?, begins, ends, file, outside, if_neg named, List.length_append,
    Nat.add_sub_cancel, List.take_left', String.ofList_toList]
  rfl

/-- In the other folder it is not found. -/
theorem nameIn?_other {other : Source} (apart : source ≠ other) :
    Directory.nameIn? (Directory.joinPath source.folder) (other.place slug) = none := by
  have begins : (Directory.joinPath source.folder ++ "/").toList.isPrefixOf
      (other.place slug).toList = false := by
    rw [place_toList]
    cases source <;> cases other <;> first | exact absurd rfl apart | rfl
  simp only [Directory.nameIn?, begins]
  rfl

/-! ## Files -/

/-- The document that there is for a name in the folder of a source. -/
def Source.document? (presets : Option Presets) (deeds : List Deed) :
    Source → String → Option (List (String × Json))
  | builtIn => builtIn? presets
  | uploaded => uploaded? deeds

theorem document?_name (held : source.document? presets deeds slug = some document) :
    slug ≠ "" ∧ IsPlain slug ∧ Directory.Suits slug := by
  cases source with
  | builtIn => exact builtIn?_name held
  | uploaded => exact uploaded?_name held

/-- There is no document for a name that no file can have. -/
theorem document?_of_not_suits (source : Source) (unsuited : ¬Directory.Suits slug) :
    source.document? presets deeds slug = none :=
  Option.eq_none_iff_forall_ne_some.mpr fun _ held => unsuited (document?_name held).2.2

/-- What is kept after a series of deeds: every story has its place, and there is nothing else. -/
structure Holds (presets : Option Presets) (deeds : List Deed) (storage : Storage) : Prop where
  files : ∀ (source : Source) (slug : StoryName),
    storage.directory.files.get? (source.place slug.text) =
      (source.document? presets deeds slug.text).map fun document => .document (.obj document)
  others : ∀ path file, storage.directory.files.get? path = some file →
    ∃ (source : Source) (slug : StoryName), path = source.place slug.text

/-- A storage with built-in stories and nothing else. -/
def withPresets (presets : Option Presets) : Storage :=
  Storage.fresh (presets.map fun presets =>
    presets.documents.entries.map fun (slug, document) => (slug, .obj document))

theorem presetPath_eq (slug : String) :
    "presets/stories/" ++ slug ++ ".json" = Source.builtIn.place slug := by
  apply String.toList_inj.mp
  rw [place_toList, String.toList_append, String.toList_append, List.append_assoc]
  rfl

theorem files_withPresets (presets : Presets) :
    (withPresets (some presets)).directory.files.entries =
      presets.documents.entries.map fun story =>
        (Source.builtIn.place story.1, File.document (.obj story.2)) := by
  have paths : (withPresets (some presets)).directory.files =
      Named.ofList (presets.documents.entries.map fun story =>
        (Source.builtIn.place story.1, File.document (.obj story.2))) := by
    simp only [withPresets, Storage.fresh, Option.map_some, Option.getD_some, List.map_map,
      Function.comp_def, presetPath_eq]
  have distinct : ((presets.documents.entries.map Prod.fst).map Source.builtIn.place).Nodup := by
    refine List.Nodup.map_on (fun slug among other among' same => ?_) presets.documents.distinct
    exact (place_inj (presets.names slug among).2.1 (presets.names other among').2.1 same).2
  rw [paths, Named.ofList, Named.insertAll_new]
  · rfl
  · simpa [Named.empty, Function.comp_def] using distinct

theorem holds_withPresets (presets : Option Presets) : Holds presets [] (withPresets presets) := by
  cases presets with
  | none => exact ⟨fun source slug => by cases source <;> rfl, nofun⟩
  | some presets =>
    have plain : ∀ story ∈ presets.documents.entries, IsPlain story.1 := fun story among =>
      (presets.names story.1 (List.mem_map_of_mem among)).2.1
    constructor
    · intro source slug
      rw [Named.get?, files_withPresets]
      cases source with
      | builtIn =>
        exact @Named.find?_map _ _ slug.text Source.builtIn.place
          (fun document => File.document (.obj document)) presets.documents.entries
          fun story among same => (place_inj (plain story among) slug.plain same).2
      | uploaded =>
        refine Named.find?_eq_none.mpr fun among => ?_
        rw [List.map_map, List.mem_map] at among
        obtain ⟨story, among, same⟩ := among
        have same : Source.builtIn.place story.1 = Source.uploaded.place slug.text := same
        cases (place_inj (plain story among) slug.plain same).1
    · intro path file found
      have among : path ∈ (withPresets (some presets)).directory.files.entries.map Prod.fst := by
        refine Classical.byContradiction fun absent => ?_
        cases found.symm.trans (Named.find?_eq_none.mpr absent)
      rw [files_withPresets, List.map_map, List.mem_map] at among
      obtain ⟨story, among, rfl⟩ := among
      obtain ⟨given, plain, -⟩ := presets.names story.1 (List.mem_map_of_mem among)
      exact ⟨.builtIn, ⟨story.1, given, plain⟩, rfl⟩

variable {storage after : Storage}

/-- What happens under one name is what is done to the file of that name. -/
theorem Holds.snoc (holds : Holds presets deeds storage) {deed : Deed}
    (done : ∀ path, after.directory.files.get? path =
      if Source.uploaded.place deed.slug.text = path then
        (uploaded? (deeds ++ [deed]) deed.slug.text).map fun document => .document (.obj document)
      else storage.directory.files.get? path) :
    Holds presets (deeds ++ [deed]) after where
  files source slug := by
    rw [done]
    by_cases here : Source.uploaded.place deed.slug.text = source.place slug.text
    · obtain ⟨rfl, same⟩ := place_inj deed.slug.plain slug.plain here
      rw [if_pos here, Source.document?, same]
    · rw [if_neg here, holds.files]
      cases source with
      | builtIn => rfl
      | uploaded =>
        have apart : deed.slug.text ≠ slug.text := fun same => here (by rw [same])
        rw [Source.document?, Source.document?, uploaded?_other apart]
  others path file found := by
    rw [done] at found
    split at found
    · rename_i here
      exact ⟨.uploaded, deed.slug, here.symm⟩
    · exact holds.others path file found

/-- A deed that changes nothing, where there is nothing to be changed. -/
theorem Holds.snoc_same (holds : Holds presets deeds storage) {deed : Deed}
    (same : uploaded? (deeds ++ [deed]) deed.slug.text = uploaded? deeds deed.slug.text) :
    Holds presets (deeds ++ [deed]) storage := by
  refine holds.snoc fun path => ?_
  by_cases here : Source.uploaded.place deed.slug.text = path
  · rw [if_pos here, same, ← here, holds.files]
    rfl
  · rw [if_neg here]

/-! ## Deeds -/

/-- A storage after a deed. A deed that fails leaves it as it was. -/
def afterwards (storage : Storage) : Deed → Storage
  | .save slug document =>
    match storage.saveStory (.obj document) (some slug.text) with
    | .ok (_, after) => after
    | .error _ => storage
  | .delete slug =>
    match storage.deleteStory slug.text with
    | .ok (_, after) => after
    | .error _ => storage

theorem saveStory_eq (slug : StoryName) (document : Json) :
    storage.saveStory document (some slug.text) =
      (storage.write Storage.storiesFolder slug.text document).map fun after =>
        (slug.text, after) := by
  rw [Storage.saveStory, nonempty?, if_neg slug.given]
  rfl

theorem saveStory_of_suits (slug : StoryName) (suits : Directory.Suits slug.text)
    (document : Json) :
    storage.saveStory document (some slug.text) =
      .ok (slug.text, ⟨storage.directory.put (Source.uploaded.place slug.text)
        (.document document)⟩) := by
  have written : storage.write Storage.storiesFolder slug.text document =
      .ok ⟨storage.directory.put (Source.uploaded.place slug.text) (.document document)⟩ :=
    Storage.write_eq_ok.mpr ⟨_, Storage.leads_of_suits slug.plain suits, rfl⟩
  rw [saveStory_eq, written]
  rfl

theorem saveStory_of_unsuited (slug : StoryName) (unsuited : ¬Directory.Suits slug.text)
    (document : Json) : ∃ why, storage.saveStory document (some slug.text) = .error why := by
  rw [saveStory_eq]
  cases written : storage.write Storage.storiesFolder slug.text document with
  | error why => exact ⟨why, rfl⟩
  | ok after => exact absurd (Storage.suits_of_write slug.plain written) unsuited

/-- A name that is right, but has more bytes than names can have. -/
def IsTooLong (slug : String) : Prop :=
  Directory.wrongName? (slug ++ ".json") = none ∧
    Directory.nameLimit < Directory.byteCount (slug ++ ".json")

theorem not_suits_of_isTooLong (long : IsTooLong slug) : ¬Directory.Suits slug :=
  fun suits => Nat.not_le.mpr long.2 suits.2

theorem path?_of_isTooLong (folder : List String) (slug : StoryName) (long : IsTooLong slug.text) :
    storage.directory.path? folder slug.text = .error .longName := by
  simp only [Directory.path?_plain slug.plain, Directory.plainPath?, long.1, long.2, ↓reduceIte]

theorem wrongName?_ne_long (name : String) : Directory.wrongName? name ≠ some .longName := by
  unfold Directory.wrongName?
  split
  · nofun
  · split <;> nofun

/-- Any other name can be looked for, though there may be no file that has it. -/
theorem file?_of_not_suits (folder : List String) (slug : StoryName)
    (unsuited : ¬Directory.Suits slug.text) (short : ¬IsTooLong slug.text) :
    storage.file? folder slug.text = .ok none := by
  cases wrong : Directory.wrongName? (slug.text ++ ".json") with
  | none =>
    have long : Directory.nameLimit < Directory.byteCount (slug.text ++ ".json") :=
      Nat.lt_of_not_le fun few => unsuited ⟨wrong, few⟩
    exact absurd ⟨wrong, long⟩ short
  | some why =>
    have leads : storage.directory.path? folder slug.text = .error why := by
      simp only [Directory.path?_plain slug.plain, Directory.plainPath?, wrong]
    simp only [Storage.file?, Directory.file?, leads]
    cases why with
    | longName => exact absurd wrong (wrongName?_ne_long _)
    | _ => rfl


theorem Holds.file? (holds : Holds presets deeds storage) (source : Source) (slug : StoryName)
    (short : ¬IsTooLong slug.text) : storage.file? source.folder slug.text =
      .ok ((source.document? presets deeds slug.text).map fun document =>
        .document (.obj document)) := by
  by_cases suits : Directory.Suits slug.text
  · have leads : storage.directory.path? source.folder slug.text =
        .ok (source.place slug.text) := Storage.leads_of_suits slug.plain suits
    simp only [Storage.file?, Directory.file?, leads, holds.files]
    rfl
  · rw [file?_of_not_suits _ _ suits short, document?_of_not_suits source suits]
    rfl

theorem deleteStory_of_isTooLong (slug : StoryName) (long : IsTooLong slug.text) :
    storage.deleteStory slug.text = .error (.noPlace .longName) := by
  have leads : storage.directory.path? Storage.storiesFolder slug.text = .error .longName :=
    path?_of_isTooLong _ slug long
  simp only [Storage.deleteStory, Storage.remove, Directory.remove?, Directory.file?, leads]
  rfl

theorem deleteStory_of_nothing (slug : StoryName)
    (nothing : storage.file? Storage.storiesFolder slug.text = .ok none) :
    storage.deleteStory slug.text = .ok (false, storage) := by
  have nothing : storage.directory.file? Storage.storiesFolder slug.text = .ok none :=
    Outcome.mapError_eq_ok.mp nothing
  simp only [Storage.deleteStory, Storage.remove, Directory.remove?, nothing]
  rfl

theorem deleteStory_of_file (slug : StoryName) {file : File}
    (suits : Directory.Suits slug.text)
    (held : storage.directory.files.get? (Source.uploaded.place slug.text) = some file) :
    storage.deleteStory slug.text = .ok (true, ⟨{ storage.directory with
      files := storage.directory.files.erase (Source.uploaded.place slug.text) }⟩) := by
  have leads : storage.directory.path? Storage.storiesFolder slug.text =
      .ok (Source.uploaded.place slug.text) := Storage.leads_of_suits slug.plain suits
  simp only [Storage.deleteStory, Storage.remove, Directory.remove?, Directory.file?, leads, held]
  rfl

/-- Deleting tells whether there was an upload, and takes away no file but that one. -/
theorem Holds.deleteStory (holds : Holds presets deeds storage) (slug : StoryName)
    (short : ¬IsTooLong slug.text) :
    ∃ after, storage.deleteStory slug.text = .ok ((uploaded? deeds slug.text).isSome, after) ∧
      ∀ path, after.directory.files.get? path =
        if Source.uploaded.place slug.text = path then none
        else storage.directory.files.get? path := by
  have looked := holds.file? .uploaded slug short
  have file := holds.files .uploaded slug
  rw [Source.document?] at looked file
  cases held : uploaded? deeds slug.text with
  | none =>
    rw [held] at looked file
    refine ⟨storage, deleteStory_of_nothing slug looked, fun path => ?_⟩
    by_cases here : Source.uploaded.place slug.text = path
    · rw [if_pos here, ← here, file, Option.map_none]
    · rw [if_neg here]
  | some document =>
    rw [held] at file
    refine ⟨_, deleteStory_of_file slug (uploaded?_name held).2.2 file, fun path => ?_⟩
    exact Named.get?_erase ..

/-- One more deed. -/
theorem Holds.afterwards (holds : Holds presets deeds storage) (deed : Deed) :
    Holds presets (deeds ++ [deed]) (afterwards storage deed) := by
  cases deed with
  | save slug document =>
    by_cases suits : Directory.Suits slug.text
    · rw [Overlay.afterwards, saveStory_of_suits slug suits]
      refine holds.snoc fun path => ?_
      rw [Deed.slug, uploaded?_save slug document suits]
      exact Named.get?_insert ..
    · obtain ⟨why, failed⟩ := @saveStory_of_unsuited storage slug suits (.obj document)
      rw [Overlay.afterwards, failed]
      exact holds.snoc_same (uploaded?_save_unsuited slug document suits)
  | delete slug =>
    by_cases long : IsTooLong slug.text
    · rw [Overlay.afterwards, deleteStory_of_isTooLong slug long]
      have nothing : uploaded? deeds slug.text = none :=
        @document?_of_not_suits presets _ _ .uploaded (not_suits_of_isTooLong long)
      exact holds.snoc_same ((uploaded?_delete slug).trans nothing.symm)
    · obtain ⟨after, deleted, done⟩ := holds.deleteStory slug long
      rw [Overlay.afterwards, deleted]
      refine holds.snoc fun path => ?_
      rw [Deed.slug, uploaded?_delete]
      exact done path

theorem holds_foldl (holds : Holds presets deeds storage) (more : List Deed) :
    Holds presets (deeds ++ more) (more.foldl afterwards storage) := by
  induction more generalizing deeds storage with
  | nil => simpa using holds
  | cons deed more ih =>
    have rested := ih (holds.afterwards deed)
    rwa [List.append_assoc, List.singleton_append] at rested

/-! ## Finding -/

/-- A story that is found, or null. -/
def shownOrNull (shown : Option (Source × List (String × Json))) : Json :=
  shown.elim .null fun shown => .obj shown.2

theorem Holds.story (holds : Holds presets deeds storage) (slug : StoryName)
    (short : ¬IsTooLong slug.text) :
    storage.story slug.text = .ok (shownOrNull (shown? presets deeds slug.text)) := by
  have uploaded := holds.file? .uploaded slug short
  have builtIn := holds.file? .builtIn slug short
  simp only [Source.folder, Source.document?] at uploaded builtIn
  simp only [Storage.story, uploaded, shown?]
  cases uploaded? deeds slug.text with
  | some document => rfl
  | none =>
    simp only [Option.map_none, Option.none_or, Storage.read, builtIn]
    cases builtIn? presets slug.text <;> rfl

/-! ## Listing -/

/-- What is told of a story that is shown. -/
def told (slug : String) (shown : Source × List (String × Json)) : Json :=
  .obj [("slug", .str slug), ("title", (Json.lookup? "title" shown.2).getD (.str slug)),
    ("author", (Json.lookup? "author" shown.2).getD .null),
    ("version", (Json.lookup? "version" shown.2).getD .null), ("source", .str shown.1.word)]

/-- In the folder of a source there are the documents of that source, each under its name. -/
theorem Holds.mem_filesIn (holds : Holds presets deeds storage) (source : Source) {file : File} :
    (slug, file) ∈ storage.directory.filesIn (Directory.joinPath source.folder) ↔
      ∃ document, source.document? presets deeds slug = some document ∧
        file = .document (.obj document) := by
  rw [Directory.filesIn, List.mem_filterMap]
  constructor
  · rintro ⟨path, -, seen⟩
    obtain ⟨name, named, seen⟩ := Option.bind_eq_some_iff.mp seen
    obtain ⟨held, found, same⟩ := Option.bind_eq_some_iff.mp seen
    cases same
    obtain ⟨other, story, rfl⟩ := holds.others path file found
    by_cases same : source = other
    · subst same
      rw [nameIn?_own story.given story.plain] at named
      cases named
      rw [holds.files] at found
      obtain ⟨document, held, rfl⟩ := Option.map_eq_some_iff.mp found
      exact ⟨document, held, rfl⟩
    · rw [nameIn?_other same] at named
      cases named
  · rintro ⟨document, held, rfl⟩
    obtain ⟨given, plain, -⟩ := document?_name held
    have found := holds.files source ⟨slug, given, plain⟩
    simp only [held, Option.map_some] at found
    refine ⟨source.place slug, ?_, ?_⟩
    · rw [Directory.paths, List.mem_mergeSort]
      refine Classical.byContradiction fun absent => ?_
      cases found.symm.trans (Named.find?_eq_none.mpr absent)
    · rw [nameIn?_own given plain, found]
      rfl

/-- What the list of one source tells. -/
theorem Holds.summaries (holds : Holds presets deeds storage) (source : Source) :
    ∃ entries, storage.summaries source.folder source.word = .ok entries ∧
      ∀ slug summary, (slug, summary) ∈ entries ↔
        (source.document? presets deeds slug).map (fun document => told slug (source, document)) =
          some summary := by
  let tell (slug : String) : Option Json :=
    (source.document? presets deeds slug).map fun document => told slug (source, document)
  let files := storage.directory.filesIn (Directory.joinPath source.folder)
  have each : ∀ entry ∈ files,
      (do return (entry.1, ← Storage.summary entry.1 source.word (← Storage.reading entry.2.read)) :
        Except Mishap (String × Json)) = .ok (entry.1, (tell entry.1).getD .null) := by
    rintro ⟨slug, file⟩ among
    obtain ⟨document, held, rfl⟩ := (holds.mem_filesIn source).mp among
    simp only [tell, held]
    rfl
  refine ⟨_, Outcome.mapM_eq_ok each, fun slug summary => ?_⟩
  rw [List.mem_map]
  constructor
  · rintro ⟨⟨_, file⟩, among, same⟩
    cases same
    obtain ⟨document, held, -⟩ := (holds.mem_filesIn source).mp among
    simp only [tell, held]
    rfl
  · intro said
    obtain ⟨document, held, rfl⟩ := Option.map_eq_some_iff.mp said
    have among := (holds.mem_filesIn source).mpr ⟨document, held, rfl⟩
    refine ⟨(slug, .document (.obj document)), among, ?_⟩
    simp only [tell, held]
    rfl

/-- The list of all stories tells of each name what is shown for it. -/
theorem Holds.stories (holds : Holds presets deeds storage) :
    ∃ listing : Named Json, storage.stories = .ok (listing.entries.map Prod.snd) ∧
      ∀ slug, listing.get? slug = (shown? presets deeds slug).map (told slug) := by
  obtain ⟨builtIn, listed, told⟩ := holds.summaries .builtIn
  obtain ⟨uploaded, listed', told'⟩ := holds.summaries .uploaded
  simp only [Source.folder, Source.word] at listed listed'
  refine ⟨(Named.ofList builtIn).insertAll uploaded, ?_, fun slug => ?_⟩
  · simp only [Storage.stories, listed, listed']
    rfl
  · rw [Named.get?_insertAll_of_told told', Named.ofList, Named.get?_insertAll_of_told told,
      Named.get?_empty, Option.or_none, shown?, Source.document?, Source.document?]
    cases uploaded? deeds slug <;> cases builtIn? presets slug <;> rfl

/-! ## Overlays -/

/-- What can be seen of a storage after a series of deeds. -/
structure Presents (presets : Option Presets) (deeds : List Deed) (storage : Storage) : Prop where
  /-- A name is answered by what was saved last, or else by what is built in. -/
  finds : ∀ slug : StoryName, ¬IsTooLong slug.text →
    storage.story slug.text = .ok (shownOrNull (shown? presets deeds slug.text))
  /-- Whatever is shown for any name is told once, and nothing else is told. -/
  lists : ∃ listing : Named Json, storage.stories = .ok (listing.entries.map Prod.snd) ∧
    ∀ slug, listing.get? slug = (shown? presets deeds slug).map (told slug)
  /-- Saving gives the name back. -/
  saves : ∀ (slug : StoryName) document, Directory.Suits slug.text →
    storage.saveStory (.obj document) (some slug.text) =
      .ok (slug.text, afterwards storage (.save slug document))
  /-- Deleting tells whether something had been saved that was not deleted yet. -/
  deletes : ∀ slug : StoryName, ¬IsTooLong slug.text →
    storage.deleteStory slug.text =
      .ok ((uploaded? deeds slug.text).isSome, afterwards storage (.delete slug))
  /-- No file can have any other name: nothing is saved then, -/
  savesNothing : ∀ (slug : StoryName) document, ¬Directory.Suits slug.text →
    ∃ why, storage.saveStory (.obj document) (some slug.text) = .error why
  /-- and a name that is too long cannot even be looked for. -/
  tooLong : ∀ slug : StoryName, IsTooLong slug.text →
    storage.story slug.text = .error (.noPlace .longName) ∧
      storage.deleteStory slug.text = .error (.noPlace .longName)
  /-- What is built in stays. -/
  keeps : ∀ slug document, builtIn? presets slug = some document →
    storage.read Storage.presetStoriesFolder slug = .ok (.obj document)

theorem Holds.presents (holds : Holds presets deeds storage) : Presents presets deeds storage where
  finds slug short := holds.story slug short
  lists := holds.stories
  saves slug document suits := by
    rw [Overlay.afterwards, saveStory_of_suits slug suits]
  deletes slug short := by
    obtain ⟨after, deleted, -⟩ := holds.deleteStory slug short
    rw [Overlay.afterwards, deleted]
  savesNothing slug document unsuited := saveStory_of_unsuited slug unsuited _
  tooLong slug long := by
    have leads : storage.directory.path? Storage.storiesFolder slug.text = .error .longName :=
      path?_of_isTooLong _ slug long
    refine ⟨?_, deleteStory_of_isTooLong slug long⟩
    simp only [Storage.story, Storage.file?, Directory.file?, leads]
    rfl
  keeps slug document held := by
    obtain ⟨given, plain, suits⟩ := builtIn?_name held
    have short : ¬IsTooLong slug := fun long => not_suits_of_isTooLong long suits
    have file := holds.file? .builtIn ⟨slug, given, plain⟩ short
    simp only [Source.folder, Source.document?, held] at file
    simp only [Storage.read, file]
    rfl

/-- A name for which there is no story, but for which none can be looked for. -/
def lengthy : StoryName where
  text := String.ofList (List.replicate 251 'a')
  given same := by
    have empty := congrArg String.toList same
    rw [String.toList_ofList] at empty
    cases empty
  plain := by
    rw [IsPlain, String.toList_ofList]
    decide

theorem lengthy_isTooLong : IsTooLong lengthy.text := by
  have letters : lengthy.text.toList = List.replicate 251 'a' := String.toList_ofList
  simp only [IsTooLong, Directory.wrongName?, Directory.byteCount, String.toList_append, letters]
  decide +kernel

end Overlay

end VisualNovel
