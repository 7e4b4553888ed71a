import RecordFile.Files.OpenFile
import RecordFile.Proofs.Files.Paths

/-! # Reading a file

A file that is read as it was opened gives every part of its content, and nothing past its end.
-/

namespace RecordFile.OpenFile

variable {files : FileSystem} {path : String} {place : Location} {content : Bytes}
  {file : OpenFile}

theorem openExisting_of_lookup (found : files.lookup path = .ok (place, .file content)) :
    openExisting files path = .ok ⟨path, place, false, content.length⟩ := by
  rw [openExisting, found]
  rfl

theorem readAt_eq (here : files.node? file.location = some (.file content))
    (whole : file.size = content.length) (offset n : Nat) :
    file.readAt files offset n =
      if offset + n ≤ content.length then .ok ((content.drop offset).take n)
      else .error (.readPastEnd offset n content.length) := by
  unfold readAt
  rw [whole, here]
  by_cases inside : offset + n ≤ content.length
  · rw [if_neg (Nat.not_lt_of_le inside), if_pos inside]
    have cut : Bytes.slice? content offset n = some ((content.drop offset).take n) := if_pos inside
    split
    · next nothing => rw [nothing, List.take_zero]
    · simp only [cut]
  · rw [if_pos (Nat.lt_of_not_le inside), if_neg inside]

theorem readAll_eq (here : files.node? file.location = some (.file content))
    (whole : file.size = content.length) : file.readAll files = .ok content := by
  have all := readAt_eq here whole 0 content.length
  rw [Nat.zero_add, if_pos (Nat.le_refl _), List.drop_zero, List.take_length] at all
  unfold readAll ByteSource.readAll source
  dsimp only
  rw [whole, all]

theorem readAll_directory {entries : List (String × Node)}
    (here : files.node? file.location = some (.directory entries)) (some : file.size ≠ 0) :
    file.readAll files = .error (.file .isDirectory) := by
  unfold readAll ByteSource.readAll source readAt
  dsimp only
  rw [if_neg (by omega), if_neg some, here]

end RecordFile.OpenFile
