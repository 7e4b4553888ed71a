import RecordFile.Files.OpenFile
import RecordFile.Proofs.Files.Paths

/-! # Creating a file

The directories that a new file needs are made first. Only then is the path followed, to the one
file that is written.
-/

namespace RecordFile

namespace FileSystem

variable {files after : FileSystem} {path : String} {place location : Location}
  {node : Node} {content : Bytes}

/-! ## Systems that grow -/

/-- All that stands before also stands after, perhaps with more below it. -/
structure Extends (files after : FileSystem) : Prop where
  root : files.root.Extends after.root
  workingDirectory_eq : after.workingDirectory = files.workingDirectory

theorem Extends.refl (files : FileSystem) : files.Extends files := ⟨.refl files.root, rfl⟩

theorem Extends.trans {third : FileSystem} (first : files.Extends after)
    (second : after.Extends third) : files.Extends third where
  root := first.root.trans second.root
  workingDirectory_eq := second.workingDirectory_eq.trans first.workingDirectory_eq

theorem target_of_keepsDirectories (kept : files.root.KeepsDirectories after.root)
    (same : after.workingDirectory = files.workingDirectory)
    (leads : files.target path = .ok place) : after.target path = .ok place := by
  have origin : after.origin path = files.origin path := by rw [FileSystem.origin, same]; rfl
  rw [target, origin]
  exact kept.walk leads

theorem Extends.target (h : files.Extends after) (leads : files.target path = .ok place) :
    after.target path = .ok place :=
  target_of_keepsDirectories h.root.keepsDirectories h.workingDirectory_eq leads

theorem Extends.lookup (h : files.Extends after)
    (found : files.lookup path = .ok (place, .file content)) :
    after.lookup path = .ok (place, .file content) := by
  rw [lookup_eq_ok_iff] at *
  obtain ⟨checked, leads, here⟩ := found
  obtain ⟨grown, there, grows⟩ := h.root place _ here
  cases grows
  exact ⟨checked, h.target leads, there⟩

theorem node?_put_self (here : files.node? location = some node) (new : Node) :
    (files.put location new).node? location = some new :=
  Node.get?_put_self here new

theorem lookup_put (noDirectory : ∀ entries, files.node? location ≠ some (.directory entries))
    (found : files.lookup path = .ok (place, .file content)) (apart : place ≠ location)
    (new : Node) : (files.put location new).lookup path = .ok (place, .file content) := by
  rw [lookup_eq_ok_iff] at *
  obtain ⟨checked, leads, here⟩ := found
  have kept : files.root.KeepsDirectories (files.put location new).root :=
    Node.keepsDirectories_put noDirectory new
  obtain ⟨grown, there, grows⟩ :=
    Node.exists_get?_put (Node.not_prefix_of_get? noDirectory here apart) here new
  cases grows
  exact ⟨checked, target_of_keepsDirectories kept rfl leads, there⟩

theorem lookup_put_self (found : files.lookup path = .ok (place, .file content)) (new : Bytes) :
    (files.put place (.file new)).lookup path = .ok (place, .file new) := by
  rw [lookup_eq_ok_iff] at *
  obtain ⟨checked, leads, here⟩ := found
  have noDirectory : ∀ entries, files.root.get? place ≠ some (.directory entries) := by
    intro entries there
    cases there.symm.trans here
  exact ⟨checked, target_of_keepsDirectories (Node.keepsDirectories_put noDirectory _) rfl leads,
    node?_put_self here _⟩

theorem lookup_truncate (made : files.truncate path = .ok (place, after)) :
    after.lookup path = .ok (place, .file []) := by
  obtain ⟨checked, leads, noDirectory, rfl, here⟩ := target_of_truncate made
  rw [lookup_eq_ok_iff]
  exact ⟨checked, target_of_keepsDirectories (Node.keepsDirectories_put noDirectory _) rfl leads,
    here⟩

/-! ## Making directories -/

theorem makeDirectory_eq_ok (made : files.makeDirectory path = .ok after) :
    ∃ place, files.node? place = none ∧ after = files.put place (.directory []) := by
  unfold makeDirectory at made
  rw [bind_eq_ok_iff] at made
  obtain ⟨_, -, made⟩ := made
  split at made
  · rw [bind_eq_ok_iff, start_eq] at made
    obtain ⟨above, followed, made⟩ := made
    rw [bind_eq_ok_iff] at made
    obtain ⟨trail, entered, made⟩ := made
    obtain ⟨directory, -, rfl⟩ := Trail.follow_along_eq_ok_iff.mp followed
    rw [Trail.enter_along, map_eq_ok_iff] at entered
    obtain ⟨last, -, rfl⟩ := entered
    rw [Trail.node?_along, Trail.location_along] at made
    split at made
    · cases made
    · next vacant =>
      cases made
      exact ⟨last, by simpa [node?] using fun here => vacant (.inr here), rfl⟩
  · cases made

theorem extends_makeDirectory (made : files.makeDirectory path = .ok after) :
    files.Extends after := by
  obtain ⟨place, vacant, rfl⟩ := makeDirectory_eq_ok made
  exact ⟨Node.extends_put vacant _, rfl⟩

theorem extends_makeDirectories (files : FileSystem) (texts : List String) :
    files.Extends (files.makeDirectories texts).2 := by
  induction texts with
  | nil => exact .refl files
  | cons text above ih =>
    unfold makeDirectories
    split
    · exact ih
    · dsimp only
      split
      · next made => exact extends_makeDirectory made
      · -- The directory above is missing: it is made first.
        split
        · next failed => rw [failed] at ih; exact ih
        · next done =>
          rw [done] at ih
          split
          · next made => exact ih.trans (extends_makeDirectory made)
          · exact ih
      · exact .refl files

end FileSystem

/-! ## Creating -/

namespace OpenFile

variable {files : FileSystem} {path output : String} {place : Location} {content data : Bytes}
  {file : OpenFile}

/-- The system grows to `made`, and an empty file is put where the path leads then. -/
structure Creates (files : FileSystem) (path : String) (file : OpenFile) (made : FileSystem) :
    Prop where
  grown : files.Extends made
  leads : made.target path = .ok file.location
  noDirectory : ∀ entries, made.node? file.location ≠ some (.directory entries)
  writable : file.writable = true

theorem create_eq_error {error : StorageError} {after : FileSystem}
    (failed : create files path = (.error error, after)) : files.Extends after := by
  have grown := files.extends_makeDirectories (Path.directory path)
  unfold create FileSystem.makeDirectoriesAbove at failed
  split at failed
  · next made =>
    cases failed
    rwa [made] at grown
  · next made =>
    rw [made] at grown
    split at failed
    · cases failed
      exact grown
    · cases failed

theorem truncate_of_create {after : FileSystem} (created : create files path = (.ok file, after)) :
    ∃ made, files.Extends made ∧ made.truncate path = .ok (file.location, after) ∧
      file.writable = true := by
  have grown := files.extends_makeDirectories (Path.directory path)
  unfold create FileSystem.makeDirectoriesAbove at created
  split at created
  · cases created
  · next made directories =>
    rw [directories] at grown
    split at created
    · cases created
    · next truncated =>
      cases created
      exact ⟨made, grown, truncated, rfl⟩

theorem size_of_create {after : FileSystem} (created : create files path = (.ok file, after)) :
    file.size = 0 := by
  unfold create at created
  split at created
  · cases created
  · split at created
    · cases created
    · cases created
      rfl

theorem create_eq_ok {after : FileSystem} (created : create files path = (.ok file, after)) :
    ∃ made, Creates files path file made ∧ after = made.put file.location (.file []) := by
  obtain ⟨made, grown, truncated, writable⟩ := truncate_of_create created
  obtain ⟨-, leads, noDirectory, rfl, -⟩ := FileSystem.target_of_truncate truncated
  exact ⟨made, ⟨grown, leads, noDirectory, writable⟩, rfl⟩

/-! ## Writing -/

theorem lookup_append (found : files.lookup path = .ok (place, .file content))
    (apart : place ≠ file.location) (data : Bytes) :
    (file.append files data).2.2.lookup path = .ok (place, .file content) := by
  unfold append
  split
  · exact found
  · split
    · split
      · next before here =>
        exact FileSystem.lookup_put (by simp [here]) found apart _
      · exact found
    · exact found

theorem lookup_writeNew (found : files.lookup path = .ok (place, .file content))
    (apart : ∀ file, (create files output).1 = .ok file → file.location ≠ place) (data : Bytes) :
    (writeNew files output data).2.lookup path = .ok (place, .file content) := by
  unfold writeNew
  split
  · next failed => exact (create_eq_error failed).lookup found
  · next file after created =>
    obtain ⟨made, creates, rfl⟩ := create_eq_ok created
    have elsewhere : place ≠ file.location :=
      (apart file (congrArg Prod.fst created)).symm
    have kept := FileSystem.lookup_put creates.noDirectory (creates.grown.lookup found) elsewhere
      (.file [])
    exact lookup_append kept elsewhere data

theorem lookup_append_self (found : files.lookup path = .ok (file.location, .file content))
    (writable : file.writable = true) (data : Bytes) :
    (file.append files data).2.2.lookup path = .ok (file.location, .file (content ++ data)) := by
  cases data with
  | nil => simpa [append] using found
  | cons byte rest =>
    have here := (FileSystem.lookup_eq_ok_iff.mp found).2.2
    simpa [append, writable, here] using FileSystem.lookup_put_self found _

theorem content?_writeNew {after : FileSystem} {written : Nat × Nat}
    (done : writeNew files path data = (.ok written, after)) : after.content? path = some data := by
  unfold writeNew at done
  split at done
  · cases done
  · next file emptied created =>
    obtain ⟨made, -, truncated, writable⟩ := truncate_of_create created
    have kept := lookup_append_self (FileSystem.lookup_truncate truncated) writable data
    obtain rfl : (file.append emptied data).2.2 = after := congrArg Prod.snd done
    rw [FileSystem.content?, kept]
    rfl

theorem lookup_writeNew_there (found : files.lookup path = .ok (place, .file content))
    (created : (create files output).1 = .ok file) (there : file.location = place) (data : Bytes) :
    (writeNew files output data).2.lookup path = .ok (place, .file data) := by
  subst there
  unfold writeNew
  split
  · next failed =>
    rw [failed] at created
    cases created
  · next creation =>
    rw [creation] at created
    cases created
    obtain ⟨made, creates, rfl⟩ := create_eq_ok creation
    have emptied := FileSystem.lookup_put_self (creates.grown.lookup found) []
    exact lookup_append_self emptied creates.writable data

end OpenFile

end RecordFile
