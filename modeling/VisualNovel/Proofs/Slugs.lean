import VisualNovel.Proofs.Files

/-! Names that hold no slash. Such a name leads to one place inside a folder, wherever other files
are, and to a place of its own: different names, or the same name in different folders, share
nothing. So whatever is done to the file of one plain name is of no consequence to any other. -/
namespace VisualNovel

/-- A name that leads out of no folder and into none. -/
def IsPlain (name : String) : Prop := '/' ∉ name.toList

instance (name : String) : Decidable (IsPlain name) :=
  inferInstanceAs (Decidable ('/' ∉ name.toList))

theorem IsPlain.withEnding {name : String} (plain : IsPlain name) : IsPlain (name ++ ".json") := by
  simp only [IsPlain, String.toList_append, List.mem_append, not_or]
  exact ⟨plain, by decide⟩

namespace Directory

variable {directory after : Directory} {folder folder' names others : List String}
  {name other path : String}

/-- Plain names are read off the path that they make up. -/
theorem joinPath_inj (plain : ∀ name ∈ names, IsPlain name) (given : names ≠ [])
    (plain' : ∀ name ∈ others, IsPlain name) (given' : others ≠ [])
    (same : joinPath names = joinPath others) : names = others := by
  have splits {names : List String} (plain : ∀ name ∈ names, IsPlain name) (given : names ≠ []) :
      (joinPath names).toList.splitOn '/' = names.map String.toList := by
    rw [joinPath, String.toList_intercalate]
    refine List.splitOn_intercalate '/' (fun text among => ?_) (by simpa using given)
    obtain ⟨name, named, rfl⟩ := List.mem_map.mp among
    exact plain name named
  have texts : names.map String.toList = others.map String.toList := by
    rw [← splits plain given, ← splits plain' given', same]
  exact (List.map_inj_right fun _ _ => String.toList_inj.mp).mp texts

/-- Where a plain name leads inside a folder. -/
def plainPath? (folder : List String) (name : String) : Except NoPlace String :=
  match wrongName? (name ++ ".json") with
  | some why => .error why
  | none =>
    if nameLimit < byteCount (name ++ ".json") then .error .longName
    else .ok (joinPath (folder ++ [name ++ ".json"]))

theorem path?_plain (plain : IsPlain name) :
    directory.path? folder name = plainPath? folder name := by
  have alone : (name ++ ".json").toList.splitOn '/' = [(name ++ ".json").toList] :=
    List.splitOn_eq_singleton plain.withEnding
  cases text : (name ++ ".json").toList with
  | nil => simp at text
  | cons first rest =>
    have back : String.ofList (first :: rest) = name ++ ".json" := by
      rw [← text, String.ofList_toList]
    rw [text] at alone
    simp only [path?, plainPath?, text, alone, List.map_cons, List.map_nil, follow, back]
    cases wrongName? (name ++ ".json") with
    | some why => rfl
    | none =>
      by_cases long : nameLimit < byteCount (name ++ ".json")
      · simp only [long, ↓reduceIte]
        rfl
      · have back : ((name ++ ".json") :: folder.reverse).reverse = folder ++ [name ++ ".json"] := by
          simp
        simp only [long, ↓reduceIte, ← back]
        rfl

/-- Where a plain name leads does not depend on other files. -/
theorem path?_elsewhere (plain : IsPlain name) (other : Directory) :
    directory.path? folder name = other.path? folder name := by
  rw [path?_plain plain, path?_plain plain]

/-- A file can have this name. -/
def Suits (name : String) : Prop :=
  wrongName? (name ++ ".json") = none ∧ byteCount (name ++ ".json") ≤ nameLimit

theorem path?_plain_eq_ok (plain : IsPlain name) :
    directory.path? folder name = .ok path ↔
      Suits name ∧ path = joinPath (folder ++ [name ++ ".json"]) := by
  rw [path?_plain plain, plainPath?, Suits]
  cases wrongName? (name ++ ".json") with
  | some why => simp
  | none =>
    by_cases long : nameLimit < byteCount (name ++ ".json")
    · simp [long, Nat.not_le.mpr long]
    · simp only [long, ↓reduceIte, Except.ok.injEq, Nat.not_lt.mp long, true_and]
      exact eq_comm

/-- Plain names have places of their own. -/
theorem place_inj (inside : ∀ part ∈ folder, IsPlain part) (plain : IsPlain name)
    (inside' : ∀ part ∈ folder', IsPlain part) (plain' : IsPlain other)
    (same : joinPath (folder ++ [name ++ ".json"]) = joinPath (folder' ++ [other ++ ".json"])) :
    folder = folder' ∧ name = other := by
  have whole {folder : List String} {name : String} (inside : ∀ part ∈ folder, IsPlain part)
      (plain : IsPlain name) : ∀ part ∈ folder ++ [name ++ ".json"], IsPlain part := by
    intro part among
    rcases List.mem_append.mp among with outer | last
    · exact inside part outer
    · exact List.mem_singleton.mp last ▸ plain.withEnding
  have same := joinPath_inj (whole inside plain) (by simp) (whole inside' plain') (by simp) same
  obtain ⟨folders, files⟩ := List.append_inj' same rfl
  have texts := congrArg String.toList (List.singleton_inj.mp files)
  simp only [String.toList_append, List.append_cancel_right_eq] at texts
  exact ⟨folders, String.toList_inj.mp texts⟩

/-- No two plain names lead to the same place. -/
theorem path?_apart (inside : ∀ part ∈ folder, IsPlain part) (plain : IsPlain name)
    (inside' : ∀ part ∈ folder', IsPlain part) (plain' : IsPlain other)
    (leads : directory.path? folder name = .ok path)
    (leads' : directory.path? folder' other = .ok path) : folder = folder' ∧ name = other := by
  have made := ((path?_plain_eq_ok plain).mp leads).2
  have made' := ((path?_plain_eq_ok plain').mp leads').2
  exact place_inj inside plain inside' plain' (made.symm.trans made')

/-- The file of a plain name is the same where nothing is different at its place. -/
theorem file?_same (plain : IsPlain name)
    (same : ∀ path, directory.path? folder name = .ok path →
      after.files.get? path = directory.files.get? path) :
    after.file? folder name = directory.file? folder name := by
  have alike : after.path? folder name = directory.path? folder name := path?_elsewhere plain _
  simp only [file?, alike]
  split
  · rename_i path leads
    rw [same path leads]
  · rfl
  · rfl

/-- What is put under one plain name, or taken away there, is not seen under any other. -/
theorem file?_other (change : Named File → String → Named File)
    (local_ : ∀ files path other, path ≠ other → (change files path).get? other = files.get? other)
    (inside : ∀ part ∈ folder, IsPlain part) (plain : IsPlain name)
    (leads : directory.path? folder name = .ok path)
    (inside' : ∀ part ∈ folder', IsPlain part) (plain' : IsPlain other)
    (apart : (folder', other) ≠ (folder, name)) :
    { directory with files := change directory.files path }.file? folder' other =
      directory.file? folder' other := by
  refine file?_same plain' fun path' leads' => local_ _ _ _ fun same => apart ?_
  obtain ⟨rfl, rfl⟩ := path?_apart inside plain inside' plain' leads (same ▸ leads')
  rfl

end Directory

namespace Storage

variable {storage before after : Storage} {folder : List String} {name slug : String}

/-- Nothing but the file of one plain name is different. -/
def SameBesides (folder : List String) (name : String) (before after : Storage) : Prop :=
  ∀ folder' other, (∀ part ∈ folder', IsPlain part) → IsPlain other →
    (folder', other) ≠ (folder, name) → after.file? folder' other = before.file? folder' other

/-- Putting a file in the place of a plain name changes no other. -/
theorem put_same {path : String} {file : File} (inside : ∀ part ∈ folder, IsPlain part)
    (plain : IsPlain name) (leads : storage.directory.path? folder name = .ok path) :
    SameBesides folder name storage ⟨storage.directory.put path file⟩ := by
  intro folder' other inside' plain' apart
  have same := Directory.file?_other (fun files path => files.insert path file)
    (fun files path other differ => by simp [differ]) inside plain leads inside' plain' apart
  exact congrArg (·.mapError Mishap.noPlace) same

theorem write_same {document : Json} (inside : ∀ part ∈ folder, IsPlain part) (plain : IsPlain name)
    (written : storage.write folder name document = .ok after) :
    SameBesides folder name storage after := by
  obtain ⟨path, leads, rfl⟩ := write_eq_ok.mp written
  exact put_same inside plain leads

/-- What comes of removing the file of a name. -/
theorem remove_cases {found : Bool} (removed : storage.remove folder name = .ok (found, after)) :
    (∃ path file, storage.directory.path? folder name = .ok path ∧
        storage.directory.files.get? path = some file ∧ found = true ∧
        after.directory = { storage.directory with files := storage.directory.files.erase path }) ∨
      storage.file? folder name = .ok none ∧ found = false ∧ after = storage := by
  unfold remove Directory.remove? at removed
  cases looked : storage.directory.file? folder name with
  | error why =>
    rw [looked] at removed
    cases removed
  | ok file =>
    rw [looked] at removed
    simp only [file?, looked]
    cases leads : storage.directory.path? folder name with
    | error why =>
      rw [leads] at removed
      cases file with
      | none =>
        cases removed
        exact .inr ⟨rfl, rfl, rfl⟩
      | some file =>
        simp only [Directory.file?, leads] at looked
        cases why <;> cases looked
    | ok path =>
      rw [leads] at removed
      have held : storage.directory.files.get? path = file := by
        simpa only [Directory.file?, leads, Except.ok.injEq] using looked
      cases file with
      | none =>
        cases removed
        exact .inr ⟨rfl, rfl, rfl⟩
      | some file =>
        cases removed
        exact .inl ⟨path, file, rfl, held, rfl, rfl⟩

theorem remove_same {found : Bool} (inside : ∀ part ∈ folder, IsPlain part) (plain : IsPlain name)
    (removed : storage.remove folder name = .ok (found, after)) :
    SameBesides folder name storage after := by
  intro folder' other inside' plain' apart
  rcases remove_cases removed with ⟨path, _, leads, _, _, left⟩ | ⟨_, _, rfl⟩
  · have same := Directory.file?_other (fun files path => files.erase path)
      (fun files path other differ => by simp [differ]) inside plain leads inside' plain' apart
    simp only [file?, left]
    exact congrArg (·.mapError Mishap.noPlace) same
  · rfl

/-- A file that has been removed is not there any more. -/
theorem file?_remove {found : Bool} (plain : IsPlain name)
    (removed : storage.remove folder name = .ok (found, after)) :
    after.file? folder name = .ok none := by
  rcases remove_cases removed with ⟨path, _, leads, _, _, left⟩ | ⟨nothing, _, rfl⟩
  · rw [Directory.path?_elsewhere plain after.directory] at leads
    have gone : after.directory.files.get? path = none := by simp [left]
    simp only [file?, Directory.file?, leads, gone]
    rfl
  · exact nothing

/-! ## Stories and playthroughs -/

theorem storiesFolder_plain : ∀ part ∈ storiesFolder, IsPlain part := by decide

theorem presetStoriesFolder_plain : ∀ part ∈ presetStoriesFolder, IsPlain part := by decide

theorem playthroughsFolder_plain : ∀ part ∈ playthroughsFolder, IsPlain part := by decide

theorem savesFolder_plain : ∀ part ∈ savesFolder, IsPlain part := by decide

theorem slot_plain : IsPlain slot := by decide

/-- A story that has been written is the one of its name, whatever it covers. -/
theorem story_write {document : Json}
    (written : storage.write storiesFolder slug document = .ok after) :
    after.story slug = .ok document := by
  simp only [story, file?_write written]
  rfl

/-- A record that has been removed is not there any more. -/
theorem playthrough_delete {found : Bool} (plain : IsPlain slug)
    (removed : storage.deletePlaythrough slug = .ok (found, after)) :
    after.playthrough slug = .ok .null := by
  simp only [playthrough, read, file?_remove plain removed]
  rfl

/-- A record is the same where another file is different. -/
theorem SameBesides.playthrough (same : SameBesides folder name before after) (plain : IsPlain slug)
    (apart : (playthroughsFolder, slug) ≠ (folder, name)) :
    after.playthrough slug = before.playthrough slug := by
  simp only [Storage.playthrough, read, same _ _ playthroughsFolder_plain plain apart]

/-- So is a story. -/
theorem SameBesides.story (same : SameBesides folder name before after) (plain : IsPlain slug)
    (apart : (storiesFolder, slug) ≠ (folder, name))
    (apart' : (presetStoriesFolder, slug) ≠ (folder, name)) :
    after.story slug = before.story slug := by
  simp only [Storage.story, read, same _ _ storiesFolder_plain plain apart,
    same _ _ presetStoriesFolder_plain plain apart']

/-- A story is found only under a name that files can have. -/
theorem story_suits {document : Json} (plain : IsPlain slug)
    (stored : storage.story slug = .ok document) (given : document ≠ .null) :
    Directory.Suits slug := by
  refine Classical.byContradiction fun unsuited => ?_
  have nowhere (folder : List String) :
      ∀ path, storage.directory.path? folder slug ≠ .ok path :=
    fun path leads => unsuited ((Directory.path?_plain_eq_ok plain).mp leads).1
  have missing (folder : List String) :
      storage.file? folder slug = .ok none ∨
        storage.file? folder slug = .error (.noPlace .longName) := by
    unfold file? Directory.file?
    split
    · rename_i path leads
      exact absurd leads (nowhere folder path)
    · exact .inr rfl
    · exact .inl rfl
  simp only [Storage.story, read] at stored
  rcases missing storiesFolder with absent | long
  · rcases missing presetStoriesFolder with absent' | long'
    · rw [absent, absent'] at stored
      exact given (Except.ok.inj stored).symm
    · rw [absent, long'] at stored
      cases stored
  · rw [long] at stored
    cases stored

/-- A plain name that files can have leads to a place. -/
theorem leads_of_suits (plain : IsPlain name) (suits : Directory.Suits name) :
    storage.directory.path? folder name = .ok (Directory.joinPath (folder ++ [name ++ ".json"])) :=
  (Directory.path?_plain_eq_ok plain).mpr ⟨suits, rfl⟩

theorem write_of_suits (plain : IsPlain name) (suits : Directory.Suits name) (document : Json) :
    ∃ after, storage.write folder name document = .ok after := by
  exact ⟨_, write_eq_ok.mpr ⟨_, leads_of_suits plain suits, rfl⟩⟩

theorem suits_of_write {document : Json} (plain : IsPlain name)
    (written : storage.write folder name document = .ok after) : Directory.Suits name := by
  obtain ⟨path, leads, rfl⟩ := write_eq_ok.mp written
  exact ((Directory.path?_plain_eq_ok plain).mp leads).1

theorem remove_of_suits (plain : IsPlain name) (suits : Directory.Suits name) :
    ∃ found after, storage.remove folder name = .ok (found, after) := by
  have leads : storage.directory.path? folder name = _ := leads_of_suits plain suits
  simp only [remove, Directory.remove?, Directory.file?, leads]
  cases storage.directory.files.get? _ <;> exact ⟨_, _, rfl⟩

/-- Where nothing has been kept yet there is no record. -/
theorem playthrough_fresh (presets : Option (List (String × Json))) (plain : IsPlain slug)
    {record : Json} (kept : (Storage.fresh presets).playthrough slug = .ok record) :
    record = .null := by
  simp only [playthrough, read, file?, Directory.file?] at kept
  split at kept
  · rename_i path leads
    obtain ⟨_, rfl⟩ := (Directory.path?_plain_eq_ok plain).mp leads
    have elsewhere : (fresh presets).directory.files.get?
        (Directory.joinPath (playthroughsFolder ++ [slug ++ ".json"])) = none := by
      refine (Named.get?_insertAll_other _ fun among => ?_).trans (Named.get?_empty _)
      simp only [List.map_map, List.mem_map] at among
      obtain ⟨⟨preset, document⟩, _, same⟩ := among
      have start := congrArg (fun path => path.toList.head?) same
      simp [Directory.joinPath, playthroughsFolder] at start
    rw [elsewhere] at kept
    cases kept
    rfl
  · cases kept
  · cases kept
    rfl

/-! ## Settings -/

theorem config_leads (directory : Directory) :
    directory.path? ["data"] "config" = .ok configPath := rfl

theorem updateConfig_same {changes : List (String × Json)} {config : Config}
    (updated : storage.updateConfig changes = .ok (config, after)) :
    SameBesides ["data"] "config" storage after := by
  obtain ⟨_, _, put⟩ := Outcome.bind_eq_ok.mp updated
  cases put
  exact put_same (by decide) (by decide) (config_leads storage.directory)

end Storage

end VisualNovel
