import RecordFile.Proofs.Files.Creation
import RecordFile.Tool.Copy

/-! # Copies and their source

A copy compares both paths before it makes the directories of its output. What the output leads to
may only be known afterwards.
-/

namespace RecordFile.Tool

variable {files : FileSystem} {path output : String} {recordLength : UInt16} {place : Location}
  {content : Bytes} {store : Store}

/-- Both paths can be resolved, or they are spelled alike. -/
def Comparable (files : FileSystem) (a b : String) : Prop :=
  (∃ placeA placeB, files.canonical a = .ok placeA ∧ files.canonical b = .ok placeB) ∨ Path.same a b

def Opens (files : FileSystem) (output : String) (place : Location) : Prop :=
  ∃ file, (OpenFile.create files output).1 = .ok file ∧ file.location = place

theorem target_of_opens {target : Location} (opens : Opens files output place)
    (resolved : files.canonical output = .ok target) : target = place := by
  obtain ⟨file, created, rfl⟩ := opens
  obtain ⟨made, creates, -⟩ := OpenFile.create_eq_ok (Prod.ext created rfl)
  -- New directories do not change where a path leads that could be resolved without them.
  have before := creates.grown.target (FileSystem.target_of_canonical resolved)
  exact Except.ok.inj (before.symm.trans creates.leads)

theorem sameFile_of_opens (found : files.lookup path = .ok (place, .file content))
    (opens : Opens files output place) (comparable : Comparable files path output) :
    sameFile files path output = true := by
  have source : ∀ target, files.canonical path = .ok target → target = place := by
    intro target resolved
    have leads := (FileSystem.lookup_eq_ok_iff.mp found).2.1
    exact Except.ok.inj ((FileSystem.target_of_canonical resolved).symm.trans leads)
  unfold sameFile
  split
  · next placeA placeB resolvedA resolvedB =>
    rw [source placeA resolvedA, target_of_opens opens resolvedB]
    exact beq_self_eq_true place
  · next unresolved =>
    rcases comparable with ⟨placeA, placeB, resolvedA, resolvedB⟩ | same
    · exact absurd resolvedB (unresolved placeA placeB resolvedA)
    · exact same

theorem snd_copy (different : ¬sameFile files path output = true)
    (loaded : loadStore files path (some recordLength) = .ok store) :
    (copy files path recordLength output).2 =
      (OpenFile.writeNew files output store.image).2 := by
  rw [copy, if_neg different, loaded]
  dsimp only
  split
  all_goals
    next written => rw [written]

/-- No copy to a comparable path is written over its source. -/
theorem copy_keeps_source (found : files.lookup path = .ok (place, .file content))
    (comparable : Opens files output place → Comparable files path output) :
    (copy files path recordLength output).2.lookup path = .ok (place, .file content) ∧
      (Opens files output place →
        copy files path recordLength output = (.error .sameFile, files)) := by
  have refused (opens : Opens files output place) :
      copy files path recordLength output = (.error .sameFile, files) := by
    rw [copy, if_pos (sameFile_of_opens found opens (comparable opens))]
  refine ⟨?_, refused⟩
  by_cases opens : Opens files output place
  · rw [refused opens]
    exact found
  · -- The output is opened elsewhere, so writing it leaves the source alone.
    have kept := OpenFile.lookup_writeNew found
      (fun file created there => opens ⟨file, created, there⟩)
    by_cases same : sameFile files path output = true
    · rw [copy, if_pos same]
      exact found
    · cases loaded : loadStore files path (some recordLength) with
      | error error =>
        rw [copy, if_neg same, loaded]
        exact found
      | ok store =>
        rw [snd_copy same loaded]
        exact kept store.image

/-- With paths that cannot be compared the source is lost. -/
theorem copy_overwrites_source (found : files.lookup path = .ok (place, .file content))
    (opens : Opens files output place) (incomparable : ¬Comparable files path output)
    (loaded : loadStore files path (some recordLength) = .ok store) :
    (copy files path recordLength output).2.lookup path = .ok (place, .file store.image) := by
  have overlooked : ¬sameFile files path output = true := by
    unfold sameFile
    split
    · next resolvedA resolvedB => exact absurd (.inl ⟨_, _, resolvedA, resolvedB⟩) incomparable
    · exact fun same => incomparable (.inr same)
  obtain ⟨file, created, there⟩ := opens
  rw [snd_copy overlooked loaded]
  exact OpenFile.lookup_writeNew_there found created there store.image

/-! ## A directory that is missing -/

def sampleImage : Bytes := List.replicate 22 0 ++ [4, 0, 4, 0, 0, 0, 0, 0]

def sampleFiles : FileSystem :=
  (FileSystem.empty ["work"]).put ["work", "S.DAT"] (.file sampleImage)

theorem copy_keeps_source_sample :
    (copy sampleFiles "S.DAT" 4 "./S.DAT").2.lookup "S.DAT" =
        .ok (["work", "S.DAT"], .file sampleImage) ∧
      copy sampleFiles "S.DAT" 4 "./S.DAT" = (.error .sameFile, sampleFiles) := by
  have comparable : Comparable sampleFiles "S.DAT" "./S.DAT" := .inl ⟨_, _, rfl, rfl⟩
  have found : sampleFiles.lookup "S.DAT" = .ok (["work", "S.DAT"], .file sampleImage) := rfl
  obtain ⟨kept, refused⟩ := copy_keeps_source found fun _ => comparable
  exact ⟨kept, refused ⟨_, rfl, rfl⟩⟩

/-- The output leads to the source through a directory that the copy makes first. -/
theorem copy_overwrites_sample :
    sampleFiles.content? "S.DAT" = some sampleImage ∧
      Opens sampleFiles "nod/../S.DAT" ["work", "S.DAT"] ∧
      (copy sampleFiles "S.DAT" 4 "nod/../S.DAT").1.isOk ∧
      (copy sampleFiles "S.DAT" 4 "nod/../S.DAT").2.content? "S.DAT" =
        some (sampleImage ++ List.replicate 488 0) := by
  exact ⟨rfl, ⟨_, rfl, rfl⟩, rfl, by decide +kernel⟩

end RecordFile.Tool
