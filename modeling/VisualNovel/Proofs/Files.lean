import VisualNovel.Proofs.Outcomes
import VisualNovel.Storage.Basic

/-! What has been stored is found again. A path that leads somewhere leads there still when a file
has been added, because a file makes folders and takes none away. -/
namespace VisualNovel

namespace Directory

variable {directory after : Directory}

/-- The directory with a file put at a path. -/
def put (directory : Directory) (path : String) (file : File) : Directory :=
  { directory with files := directory.files.insert path file }

/-- A file that is added takes no folder away. -/
theorem hasFolder_put {folder path : String} {file : File}
    (there : directory.hasFolder folder = true) :
    (directory.put path file).hasFolder folder = true := by
  have names : ∀ {other}, other ∈ directory.files.entries.map Prod.fst →
      other ∈ (directory.files.insert path file).entries.map Prod.fst := by
    intro other member
    simp only [Named.insert, Named.names_put]
    split
    · exact member
    · exact List.mem_append_left _ member
  simp only [hasFolder, Bool.or_eq_true, List.any_eq_true] at there ⊢
  refine there.imp_right fun inFile => ?_
  obtain ⟨entry, member, inside⟩ := inFile
  obtain ⟨other, added, same⟩ := List.mem_map.mp (names (List.mem_map_of_mem member))
  exact ⟨other, added, same ▸ inside⟩

/-- A way that leads through folders leads the same way where there are more folders. -/
theorem follow_with_more (more : ∀ folder, directory.hasFolder folder = true →
      after.hasFolder folder = true) {path : List String} :
    ∀ (names folder : List String), directory.follow folder names = .ok path →
      after.follow folder names = .ok path
  | [], folder, followed => followed
  | [name], folder, followed => followed
  | name :: next :: rest, folder, followed => by
    unfold follow at followed ⊢
    split at followed
    · rename_i stays
      rw [if_pos stays]
      exact follow_with_more more (next :: rest) folder followed
    · rename_i goes
      rw [if_neg goes]
      split at followed
      · rename_i back
        rw [if_pos back]
        exact follow_with_more more (next :: rest) (above folder) followed
      · rename_i down
        rw [if_neg down]
        split at followed
        · cases followed
        · rename_i short
          rw [if_neg short]
          by_cases there : directory.hasFolder (joinPath (name :: folder).reverse) = true
          · simp only [there, more _ there, ↓reduceIte] at followed ⊢
            exact follow_with_more more (next :: rest) (name :: folder) followed
          · simp only [there, Bool.false_eq_true, ↓reduceIte] at followed
            split at followed <;> cases followed

/-- A name leads to the same path when a file has been added anywhere. -/
theorem path?_put {folder : List String} {name path other : String} {file : File}
    (leads : directory.path? folder name = .ok path) :
    (directory.put other file).path? folder name = .ok path := by
  simp only [path?] at leads ⊢
  split at leads
  · cases leads
  · split at leads
    · cases leads
    · obtain ⟨way, followed, named⟩ := Outcome.bind_eq_ok.mp leads
      refine Outcome.bind_eq_ok.mpr ⟨way, ?_, named⟩
      exact follow_with_more (fun _ => hasFolder_put) _ _ followed

theorem write?_eq_ok {folder : List String} {name : String} {document : Json} :
    directory.write? folder name document = .ok after ↔
      ∃ path, directory.path? folder name = .ok path ∧
        after = directory.put path (.document document) := by
  rw [write?, Outcome.bind_eq_ok]
  simp only [Outcome.pure_eq_ok, put, @eq_comm _ after]

/-- A document that has been written under a name is in the file of that name. -/
theorem file?_write {folder : List String} {name : String} {document : Json}
    (written : directory.write? folder name document = .ok after) :
    after.file? folder name = .ok (some (.document document)) := by
  obtain ⟨path, leads, rfl⟩ := write?_eq_ok.mp written
  have again : (directory.put path (.document document)).path? folder name = .ok path :=
    path?_put leads
  have there : (directory.put path (.document document)).files.get? path =
      some (.document document) := by
    simp [Directory.put]
  simp only [file?, again, there]

end Directory

/-- A document is written by putting it where its name leads. -/
theorem Storage.write_eq_ok {storage after : Storage} {folder : List String} {name : String}
    {document : Json} : storage.write folder name document = .ok after ↔
      ∃ path, storage.directory.path? folder name = .ok path ∧
        after = ⟨storage.directory.put path (.document document)⟩ := by
  rw [write, Outcome.mapError_eq_ok]
  refine Outcome.map_eq_ok.trans ?_
  simp only [Directory.write?_eq_ok]
  constructor
  · rintro ⟨_, ⟨path, leads, rfl⟩, rfl⟩
    exact ⟨path, leads, rfl⟩
  · rintro ⟨path, leads, rfl⟩
    exact ⟨_, ⟨path, leads, rfl⟩, rfl⟩

/-- A document that has been stored under a name is in the file of that name. -/
theorem Storage.file?_write {storage after : Storage} {folder : List String} {name : String}
    {document : Json} (written : storage.write folder name document = .ok after) :
    after.file? folder name = .ok (some (.document document)) := by
  obtain ⟨path, leads, rfl⟩ := write_eq_ok.mp written
  simp only [file?, Directory.file?_write (Directory.write?_eq_ok.mpr ⟨path, leads, rfl⟩)]
  rfl

/-- It is read back from there. -/
theorem Storage.read_write {storage after : Storage} {folder : List String} {name : String}
    {document : Json} (written : storage.write folder name document = .ok after) :
    after.read folder name = .ok document := by
  simp only [read, file?_write written]
  rfl

/-- The record of a playthrough is read back as it was stored. -/
theorem Storage.playthrough_save {storage after : Storage} {slug : String} {record : Json}
    (saved : storage.savePlaythrough slug record = .ok after) :
    after.playthrough slug = .ok record :=
  read_write saved

end VisualNovel
