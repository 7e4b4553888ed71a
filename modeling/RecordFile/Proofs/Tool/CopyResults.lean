import RecordFile.Proofs.Files.Reading
import RecordFile.Proofs.Store.Loading
import RecordFile.Proofs.Store.Reload
import RecordFile.Proofs.Tool.Copying

/-! # What a copy holds

A copy reads as its source does and holds nothing of what the output held before. What speaks
against it is noticed before anything is written.
-/

namespace RecordFile.Tool

variable {files after : FileSystem} {path output text : String} {recordLength : UInt16}
  {recordLength? : Option UInt16} {place : Location} {content : Bytes} {store : Store}

/-! ## Data files -/

theorem loadStore_of_lookup (found : files.lookup path = .ok (place, .file content))
    (recordLength? : Option UInt16) :
    loadStore files path recordLength? = storeOf path content recordLength? := by
  have present : files.isPresent path = true := by rw [FileSystem.isPresent, found]
  have here := (FileSystem.lookup_eq_ok_iff.mp found).2.2
  have read : (OpenFile.mk path place false content.length).readAll files = .ok content :=
    OpenFile.readAll_eq here rfl
  rw [loadStore, if_pos present, OpenFile.openExisting_of_lookup found]
  dsimp only
  rw [read]

theorem exists_content_of_loadStore (loaded : loadStore files path recordLength? = .ok store) :
    ∃ content, files.content? path = some content := by
  unfold loadStore OpenFile.openExisting at loaded
  cases found : files.lookup path with
  | error fault =>
    rw [if_neg (by simp [FileSystem.isPresent, found])] at loaded
    cases loaded
  | ok leads =>
    obtain ⟨place, node⟩ := leads
    cases node with
    | file content => exact ⟨content, FileSystem.content?_eq_some_iff.mpr ⟨place, found⟩⟩
    | directory entries =>
      have here := (FileSystem.lookup_eq_ok_iff.mp found).2.2
      have refused : (OpenFile.mk path place false directorySize).readAll files = _ :=
        OpenFile.readAll_directory here (show directorySize ≠ 0 by decide)
      rw [if_pos (by simp [FileSystem.isPresent, found]), found] at loaded
      dsimp only [Node.size] at loaded
      rw [refused] at loaded
      cases loaded

theorem storeOf_eq_ok_iff : storeOf path content (some recordLength) = .ok store ↔
    recordLength ≠ 0 ∧
      Store.ofImage ((Path.fileName? path).getD "") content recordLength {} = .ok store := by
  unfold storeOf recordLengthOf
  dsimp only
  split
  · next zero => simp [zero]
  · next positive => simp [positive, mapError_eq_ok_iff]

theorem loadStore_eq_ok_iff : loadStore files path (some recordLength) = .ok store ↔
    ∃ content, files.content? path = some content ∧ recordLength ≠ 0 ∧
      Store.ofImage ((Path.fileName? path).getD "") content recordLength {} = .ok store := by
  constructor
  · intro loaded
    obtain ⟨content, held⟩ := exists_content_of_loadStore loaded
    obtain ⟨place, found⟩ := FileSystem.content?_eq_some_iff.mp held
    rw [loadStore_of_lookup found, storeOf_eq_ok_iff] at loaded
    exact ⟨content, held, loaded⟩
  · rintro ⟨content, held, opens⟩
    obtain ⟨place, found⟩ := FileSystem.content?_eq_some_iff.mp held
    rw [loadStore_of_lookup found, storeOf_eq_ok_iff]
    exact opens

theorem loadStore_ne_ok (held : files.content? path = some content)
    (closed : ∀ name store, Store.ofImage name content recordLength {} ≠ .ok store) :
    ∀ store, loadStore files path (some recordLength) ≠ .ok store := by
  intro store loaded
  obtain ⟨_, held', -, opened⟩ := loadStore_eq_ok_iff.mp loaded
  obtain rfl := Option.some.inj (held.symm.trans held')
  exact closed _ store opened

/-! ## Copies -/

theorem copy_eq_ok_iff : copy files path recordLength output = (.ok text, after) ↔
    sameFile files path output = false ∧ ∃ store written,
      loadStore files path (some recordLength) = .ok store ∧
      OpenFile.writeNew files output store.image = (.ok written, after) ∧
      text = Text.ofLines [copyLine store store.image.length output] := by
  unfold copy
  constructor
  · intro copied
    split at copied
    · cases copied
    · next different =>
      split at copied
      · cases copied
      · next store loaded =>
        dsimp only at copied
        split at copied
        · cases copied
        · next written last done =>
          cases copied
          exact ⟨Bool.eq_false_iff.mpr different, store, written, loaded, done, rfl⟩
  · rintro ⟨different, store, written, loaded, done, rfl⟩
    rw [if_neg (Bool.eq_false_iff.mp different), loaded]
    dsimp only
    rw [done]

theorem copy_of_not_loaded
    (refused : sameFile files path output = true ∨
      ∀ store, loadStore files path (some recordLength) ≠ .ok store) :
    ∃ error, copy files path recordLength output = (.error error, files) := by
  unfold copy
  split
  · exact ⟨_, rfl⟩
  · next different =>
    split
    · exact ⟨_, rfl⟩
    · next store loaded =>
      rcases refused with same | unloaded
      · exact absurd same different
      · exact absurd loaded (unloaded store)

/-- What a copy finds wrong before it writes anything. -/
inductive Objection (files : FileSystem) (path : String) (recordLength : UInt16)
    (output : String) : Prop
  | sameFile (same : sameFile files path output = true)
  | missing (absent : files.isPresent path = false)
  | zeroLength (zero : recordLength = 0)
  | shortHeader (content : Bytes) (held : files.content? path = some content)
      (short : content.length < 0x1E)
  | shortRecordArea (content : Bytes) (held : files.content? path = some content)
      (counted : Store.statedCount content ≠ 0)
      (short : content.length < 0x206 + Store.statedCount content * recordLength.toNat)

theorem copy_of_objection (objection : Objection files path recordLength output) :
    ∃ error, copy files path recordLength output = (.error error, files) := by
  apply copy_of_not_loaded
  cases objection with
  | sameFile same => exact .inl same
  | missing absent =>
    refine .inr fun store loaded => ?_
    rw [loadStore, absent] at loaded
    cases loaded
  | zeroLength zero =>
    refine .inr fun store loaded => ?_
    obtain ⟨_, -, positive, -⟩ := loadStore_eq_ok_iff.mp loaded
    exact positive zero
  | shortHeader content held short =>
    refine .inr (loadStore_ne_ok held fun name store opened => ?_)
    rw [Store.ofImage_short (by decide) short] at opened
    cases opened
  | shortRecordArea content held counted short =>
    refine .inr (loadStore_ne_ok held fun name store opened => ?_)
    obtain ⟨-, room, records, loadedRows, -⟩ := Store.ofImage_eq_ok_iff.mp opened
    rw [Store.toNat_get_recordCount] at loadedRows
    have long := (Records.load_eq_ok_iff.mp loadedRows).2.1 (Nat.pos_of_ne_zero counted)
    rw [Nat.mul_comm] at short
    exact absurd long (Nat.not_le_of_lt short)

theorem snd_copy_of_error {error : ToolError}
    (failed : copy files path recordLength output = (.error error, after))
    (notStorage : ∀ fault, error ≠ .storage fault) : after = files := by
  unfold copy at failed
  split at failed
  · cases failed
    rfl
  · split at failed
    · cases failed
      rfl
    · dsimp only at failed
      split at failed
      · cases failed
        exact absurd rfl (notStorage _)
      · cases failed

/-- A copy holds the bytes of its source, padded up to the records. -/
theorem copy_outcome (files : FileSystem) (path : String) (recordLength : UInt16)
    (output : String) :
    (∀ text after, copy files path recordLength output = (.ok text, after) →
      ∃ content source result,
        files.content? path = some content ∧
        after.content? output = some (content.padTo 0x206) ∧
        loadStore files path (some recordLength) = .ok source ∧
        loadStore after output (some recordLength) = .ok result ∧
        result.records = source.records ∧ result.header.fields = source.header.fields ∧
        ∀ third written last, sameFile after output third = false →
          OpenFile.writeNew after third (content.padTo 0x206) = (.ok written, last) →
          ∃ line, copy after output recordLength third = (.ok line, last) ∧
            last.content? third = some (content.padTo 0x206)) ∧
    (Objection files path recordLength output →
      ∃ error, copy files path recordLength output = (.error error, files)) ∧
    (∀ error after, copy files path recordLength output = (.error error, after) →
      (∀ fault, error ≠ .storage fault) → after = files) := by
  refine ⟨?_, copy_of_objection, fun _ _ => snd_copy_of_error⟩
  intro text after copied
  obtain ⟨-, source, written, loaded, written_eq, -⟩ := copy_eq_ok_iff.mp copied
  obtain ⟨content, held, positive, opened⟩ := loadStore_eq_ok_iff.mp loaded
  obtain ⟨padded, result, opens, records, fields, image⟩ :=
    Store.exists_ofImage_image opened ((Path.fileName? output).getD "")
  have copyHeld : after.content? output = some source.image := OpenFile.content?_writeNew written_eq
  have reloaded : loadStore after output (some recordLength) = .ok result :=
    loadStore_eq_ok_iff.mpr ⟨_, copyHeld, positive, opens⟩
  rw [padded] at copyHeld
  refine ⟨content, source, result, held, copyHeld, loaded, reloaded, records, fields, ?_⟩
  -- The copy loads as its source did, so it is written out alike.
  intro third again last different done
  have thirdHeld := OpenFile.content?_writeNew done
  refine ⟨_, copy_eq_ok_iff.mpr ⟨different, result, again, reloaded, ?_, rfl⟩, thirdHeld⟩
  rw [image, padded]
  exact done

/-- A copy over a longer file leaves nothing of it. -/
theorem copy_outcome_sample :
    let files := sampleFiles.put ["work", "OLD.DAT"] (.file (List.replicate 600 9))
    (∃ text after, copy files "S.DAT" 4 "OLD.DAT" = (.ok text, after) ∧
      files.content? "S.DAT" = some sampleImage ∧
      after.content? "OLD.DAT" = some (sampleImage ++ List.replicate 488 0)) ∧
    (∃ error, copy files "S.DAT" 0 "out/NEW.DAT" = (.error error, files)) ∧
    (∃ error, copy files "NONE.DAT" 4 "out/NEW.DAT" = (.error error, files)) ∧
    ∃ error, copy files "S.DAT" 4 "../work/S.DAT" = (.error error, files) := by
  intro files
  have held : files.content? "S.DAT" = some sampleImage := rfl
  refine ⟨?_, (copy_outcome files "S.DAT" 0 "out/NEW.DAT").2.1 (.zeroLength rfl),
    (copy_outcome files "NONE.DAT" 4 "out/NEW.DAT").2.1 (.missing rfl),
    (copy_outcome files "S.DAT" 4 "../work/S.DAT").2.1 (.sameFile rfl)⟩
  have done : (copy files "S.DAT" 4 "OLD.DAT").1.isOk := rfl
  rcases copied : copy files "S.DAT" 4 "OLD.DAT" with ⟨outcome, after⟩
  rw [copied] at done
  cases outcome with
  | error error => cases done
  | ok text =>
    obtain ⟨content, _, _, source, output, -⟩ :=
      (copy_outcome files "S.DAT" 4 "OLD.DAT").1 text after copied
    obtain rfl := Option.some.inj (source.symm.trans held)
    exact ⟨text, after, rfl, held, output⟩

end RecordFile.Tool
