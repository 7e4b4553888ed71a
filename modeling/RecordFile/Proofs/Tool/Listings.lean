import RecordFile.Proofs.Text.HexSpelling
import RecordFile.Proofs.Text.Lines
import RecordFile.Proofs.Tool.CopyResults
import RecordFile.Tool.Listing

/-! # What a listing shows

The rows of a listing are found again in the printed text: a label in brackets begins a row, and the
bytes stand below it in lines that begin with a blank.
-/

namespace RecordFile.Tool

open Text

/-! ## Windows -/

def windowEnd (count offset : Nat) : Option Nat → Nat
  | some limit => min (offset + limit) count
  | none => count

section Windows

variable (records : List Bytes)

theorem getElem?_window (offset : Nat) (limit? : Option Nat) (k : Nat) :
    (window records offset limit?)[k]? =
      if offset + k < windowEnd records.length offset limit? then
        records[offset + k]?.map (Row.mk (offset + k))
      else none := by
  have past : ¬offset + k < records.length → records[offset + k]? = none := by simp
  cases limit? with
  | none =>
    simp only [window, windowEnd, List.getElem?_drop, List.getElem?_mapIdx]
    grind
  | some limit =>
    simp only [window, windowEnd, List.getElem?_take, List.getElem?_drop, List.getElem?_mapIdx]
    grind

theorem map_window (offset : Nat) (limit? : Option Nat) :
    (window records offset limit?).map (fun row => (row.index, some row.record)) =
      (List.range' offset (windowEnd records.length offset limit? - offset)).map
        fun i => (i, records[i]?) := by
  apply List.ext_getElem?
  intro k
  rw [List.getElem?_map, List.getElem?_map, getElem?_window]
  by_cases shown : offset + k < windowEnd records.length offset limit?
  · have counted : offset + k < records.length := by
      unfold windowEnd at shown
      split at shown <;> omega
    rw [if_pos shown, List.getElem?_range' (by omega), List.getElem?_eq_getElem counted]
    simp [counted]
  · rw [if_neg shown, List.getElem?_eq_none (by simp; omega)]
    rfl

theorem record_mem_of_mem_window {offset : Nat} {limit? : Option Nat} {row : Row}
    (mem : row ∈ window records offset limit?) : row.record ∈ records := by
  obtain ⟨k, here⟩ := List.mem_iff_getElem?.mp mem
  rw [getElem?_window] at here
  split at here
  · obtain ⟨record, found, rfl⟩ := Option.map_eq_some_iff.mp here
    exact List.mem_of_getElem? found
  · cases here

theorem window_add (offset first second : Nat) :
    window records offset (some (first + second)) =
      window records offset (some first) ++ window records (offset + first) (some second) := by
  simp [window, List.take_add, List.drop_drop]

theorem flatMap_window (offset limit count : Nat) :
    (List.range count).flatMap (fun i => window records (offset + i * limit) (some limit)) =
      window records offset (some (count * limit)) := by
  induction count with
  | zero => simp [window]
  | succ count ih => simp [List.range_succ, ih, Nat.succ_mul, window_add]

theorem window_none (offset : Nat) {limit : Nat} (all : records.length ≤ offset + limit) :
    window records offset none = window records offset (some limit) := by
  have short : (records.mapIdx Row.mk).length - offset ≤ limit := by simp; omega
  simp only [window]
  rw [List.take_of_length_le (by simpa using short)]

end Windows

/-! ## Printed rows -/

/-- The number in brackets, and the lines below it. -/
structure PrintedRow where
  label : Nat
  lines : List (List Char)
  deriving DecidableEq, Repr

def label? : List Char → Option Nat
  | '[' :: rest => readDigits? ((rest.takeWhile (· ≠ ']')).dropWhile (· = ' '))
  | _ => none

def Indented (line : List Char) : Prop := line.head? = some ' '

instance (line : List Char) : Decidable (Indented line) :=
  inferInstanceAs (Decidable (line.head? = some ' '))

/-- To a label belong the lines right below it that begin with a blank. -/
def printedRows : List (List Char) → List PrintedRow
  | [] => []
  | line :: below =>
    match label? line with
    | some label => ⟨label, below.takeWhile (Indented ·)⟩ :: printedRows below
    | none => printedRows below

def rowsOf (text : String) : List PrintedRow := printedRows (linesOf text.toList)

def PrintedRow.bytes? (row : PrintedRow) : Option Bytes :=
  (parseHex (String.ofList row.lines.flatten)).toOption

namespace Row

variable (row : Row)

def printed : PrintedRow := ⟨row.index, row.hexLines.map String.toList⟩

theorem toList_heading : row.heading.toList =
    '[' :: (List.replicate (5 - (toString row.index).length) ' ' ++ Nat.toDigits 10 row.index ++
      ']' :: ' ' :: (ascii row.record).toList) := by
  simp [heading, flushRight]

theorem label?_heading : label? row.heading.toList = some row.index := by
  have solid : ∀ c ∈ Nat.toDigits 10 row.index, c ≠ ']' ∧ c ≠ ' ' := by
    intro c mem
    have digit := isDigit_of_mem_toDigits mem
    constructor
    · rintro rfl
      exact absurd digit (by decide)
    · rintro rfl
      exact absurd digit (by decide)
  have trimmed : (Nat.toDigits 10 row.index).dropWhile (· = ' ') = Nat.toDigits 10 row.index := by
    cases digits : Nat.toDigits 10 row.index with
    | nil => rfl
    | cons c rest => simp [(solid c (by simp [digits])).2]
  rw [toList_heading, label?, List.takeWhile_append_of_pos, List.takeWhile_cons_of_neg (by simp),
    List.append_nil, List.dropWhile_append_of_pos (by simp), trimmed, readDigits?_toDigits]
  intro c mem
  rcases List.mem_append.mp mem with blank | digit
  · simp [List.eq_of_mem_replicate blank]
  · simpa using (solid c digit).1

theorem unbroken_heading : Unbroken row.heading.toList := by
  have digits : '\n' ∉ Nat.toDigits 10 row.index := unbroken_toDigits (by decide) row.index
  have text : '\n' ∉ (ascii row.record).toList := unbroken_ascii row.record
  rw [toList_heading]
  simp [Unbroken, digits, text]

theorem indented_of_mem_hexLines {line : String} (mem : line ∈ row.hexLines) :
    Indented line.toList := by
  obtain ⟨part, -, rfl⟩ := List.mem_map.mp mem
  rw [String.toList_append]
  rfl

theorem unbroken_of_mem_lines {line : String} (mem : line ∈ row.lines) :
    Unbroken line.toList := by
  rcases List.mem_cons.mp mem with rfl | mem
  · exact row.unbroken_heading
  · obtain ⟨part, -, rfl⟩ := List.mem_map.mp mem
    rw [String.toList_append, unbroken_append]
    exact ⟨by decide, unbroken_hex part⟩

theorem significant_hexLine (part : Bytes) :
    significant ("        " ++ hex part).toList = part.flatMap hexPair := by
  rw [String.toList_append, significant_append, toList_hex, significant_hexPairs]
  rfl

theorem significant_flatten_hexLines (parts : List Bytes) :
    significant (parts.map fun part => ("        " ++ hex part).toList).flatten =
      parts.flatten.flatMap hexPair := by
  induction parts with
  | nil => rfl
  | cons part parts ih =>
    rw [List.map_cons, List.flatten_cons, significant_append, significant_hexLine, ih,
      List.flatten_cons, List.flatMap_append]

theorem bytes?_printed : row.printed.bytes? = some row.record := by
  have whole := Bytes.flatten_lines (show 0 < bytesPerLine by decide) row.record
  have read : parseHex (String.ofList row.printed.lines.flatten) = .ok row.record := by
    apply parseHex_of_significant
    rw [String.toList_ofList, printed, hexLines, List.map_map]
    exact (significant_flatten_hexLines _).trans (congrArg _ whole)
  rw [PrintedRow.bytes?, read]
  rfl

end Row

/-- Sixteen bytes in every line but the last, and one to sixteen in that. -/
def PrintedRow.InSixteens (row : PrintedRow) : Prop :=
  ∃ full last, row.lines.map (fun line => parseHex (String.ofList line)) =
      (full ++ [last]).map Except.ok ∧
    (∀ part ∈ full, part.length = 16) ∧ 1 ≤ last.length ∧ last.length ≤ 16

theorem Row.inSixteens_printed {row : Row} (some : row.record ≠ []) : row.printed.InSixteens := by
  obtain ⟨full, last, split, whole, least, most⟩ :=
    Bytes.exists_lines_eq (show 0 < bytesPerLine by decide) some
  have read : ∀ part, parseHex (String.ofList ("        " ++ hex part).toList) = .ok part := by
    intro part
    apply parseHex_of_significant
    rw [String.toList_ofList, significant_hexLine]
  refine ⟨full, last, ?_, whole, least, most⟩
  rw [← split, printed, hexLines, List.map_map, List.map_map]
  apply List.map_congr_left
  intro part _
  simp only [Function.comp_apply, read]

/-! ## Listings -/

theorem label?_of_indented {line : List Char} (indented : Indented line) : label? line = none := by
  cases line with
  | nil => rfl
  | cons c rest =>
    cases indented
    rfl

theorem printedRows_append {lines : List (List Char)} (indented : ∀ line ∈ lines, Indented line)
    (rest : List (List Char)) : printedRows (lines ++ rest) = printedRows rest := by
  induction lines with
  | nil => rfl
  | cons line lines ih =>
    obtain ⟨first, others⟩ := List.forall_mem_cons.mp indented
    simp [printedRows, label?_of_indented first, ih others]

/-- The lines end a row of the listing or come before all rows. -/
def Closes (rest : List (List Char)) : Prop := rest.takeWhile (Indented ·) = []

theorem printedRows_lines (row : Row) {rest : List (List Char)} (closed : Closes rest) :
    printedRows (row.lines.map String.toList ++ rest) = row.printed :: printedRows rest := by
  have indented : ∀ line ∈ row.hexLines.map String.toList, Indented line := by
    intro line mem
    obtain ⟨text, inside, rfl⟩ := List.mem_map.mp mem
    exact row.indented_of_mem_hexLines inside
  have below : (row.hexLines.map String.toList ++ rest).takeWhile (Indented ·) =
      row.hexLines.map String.toList := by
    rw [List.takeWhile_append_of_pos (by simpa using indented), closed, List.append_nil]
  simp only [Row.lines, List.map_cons, List.cons_append, printedRows, row.label?_heading, below,
    printedRows_append indented]
  rfl

theorem closes_lines (row : Row) (rest : List (List Char)) :
    Closes (row.lines.map String.toList ++ rest) := by
  simp [Closes, Row.lines, Row.toList_heading, Indented]

theorem printedRows_flatMap_lines (rows : List Row) {rest : List (List Char)}
    (closed : Closes rest) :
    printedRows ((rows.flatMap Row.lines).map String.toList ++ rest) =
      rows.map Row.printed ++ printedRows rest := by
  have closes : ∀ rows : List Row,
      Closes ((rows.flatMap Row.lines).map String.toList ++ rest) := by
    intro rows
    cases rows with
    | nil => exact closed
    | cons row rows => simpa using closes_lines row _
  induction rows with
  | nil => rfl
  | cons row rows ih =>
    rw [List.flatMap_cons, List.map_append, List.append_assoc,
      printedRows_lines row (closes rows), ih]
    rfl

section Listing

variable (path : String) (store : Store) (offset : Nat) (limit? : Option Nat)

def titleLine : String := "Records in " ++ quoted path ++ s!" ({store.count.toNat} total):"

def countLine (count : Nat) : String := s!"Shown {count} records"

theorem listing_eq : listing path store offset limit? =
    titleLine path store :: "" ::
      ((window store.records.rows offset limit?).flatMap Row.lines ++
        ["", countLine (window store.records.rows offset limit?).length]) :=
  rfl

theorem unbroken_titleLine : Unbroken (titleLine path store).toList := by
  have total := unbroken_toString store.count.toNat
  simp only [titleLine, String.toList_append, unbroken_append]
  exact ⟨⟨by decide, unbroken_quoted path⟩, ⟨by decide, total⟩, by decide⟩

theorem unbroken_countLine (count : Nat) : Unbroken (countLine count).toList := by
  simp only [countLine, String.toList_append, unbroken_append]
  exact ⟨⟨by decide, unbroken_toString count⟩, by decide⟩

theorem linesOf_listing : linesOf (ofLines (listing path store offset limit?)).toList =
    (listing path store offset limit?).map String.toList := by
  apply linesOf_ofLines
  intro line mem
  simp only [listing_eq, List.mem_cons, List.mem_append, List.mem_flatMap, List.not_mem_nil,
    or_false] at mem
  rcases mem with rfl | rfl | ⟨row, -, mem⟩ | rfl | rfl
  · exact unbroken_titleLine path store
  · decide
  · exact row.unbroken_of_mem_lines mem
  · decide
  · exact unbroken_countLine _

theorem rowsOf_listing : rowsOf (ofLines (listing path store offset limit?)) =
    (window store.records.rows offset limit?).map Row.printed := by
  have title : label? (titleLine path store).toList = none := by
    simp only [titleLine, String.toList_append]
    rfl
  have footer (count : Nat) :
      Closes ["".toList, (countLine count).toList] ∧
        printedRows ["".toList, (countLine count).toList] = [] := by
    have unlabelled : label? (countLine count).toList = none := by
      simp only [countLine, String.toList_append]
      rfl
    have blank : label? "".toList = none := rfl
    exact ⟨rfl, by simp only [printedRows, blank, unlabelled]⟩
  rw [rowsOf, linesOf_listing, listing_eq]
  simp only [List.map_cons, printedRows, title, List.map_append, List.map_nil]
  rw [printedRows_flatMap_lines _ (footer _).1, (footer _).2, List.append_nil]
  rfl

end Listing

/-! ## Listings of data files -/

section Dump

variable {files : FileSystem} {path : String} {recordLength : UInt16} {store : Store}
  (loaded : loadStore files path (some recordLength) = .ok store)

include loaded

theorem dump_eq (offset : Nat) (limit? : Option Nat) :
    dump files path recordLength offset limit? =
      .ok (ofLines (listing path store offset limit?)) := by
  rw [dump, loaded]
  rfl

theorem ne_nil_of_mem_rows {record : Bytes} (mem : record ∈ store.records.rows) : record ≠ [] := by
  obtain ⟨content, -, positive, opened⟩ := loadStore_eq_ok_iff.mp loaded
  have opened : Store.openFrom _ (some content) recordLength {} = .ok store := opened
  have length := store.records.uniform record mem
  rw [Store.rowLength_of_openFrom opened] at length
  -- The tools refuse a record length of 0.
  rintro rfl
  exact positive (UInt16.toNat_inj.mp length.symm)

def dumpedRows (files : FileSystem) (path : String) (recordLength : UInt16) (offset : Nat)
    (limit? : Option Nat) : List PrintedRow :=
  match dump files path recordLength offset limit? with
  | .ok text => rowsOf text
  | .error _ => []

theorem dumpedRows_eq (offset : Nat) (limit? : Option Nat) :
    dumpedRows files path recordLength offset limit? =
      (window store.records.rows offset limit?).map Row.printed := by
  rw [dumpedRows, dump_eq loaded]
  exact rowsOf_listing path store offset limit?

theorem flatMap_dumpedRows (offset limit count : Nat) :
    (List.range count).flatMap
        (fun i => dumpedRows files path recordLength (offset + i * limit) (some limit)) =
      dumpedRows files path recordLength offset (some (count * limit)) := by
  simp only [dumpedRows_eq loaded, ← flatMap_window, List.map_flatMap]

/-- The rows printed are the records of the window, and read back as such. -/
theorem dump_shows :
    (∀ offset limit?, ∃ text, dump files path recordLength offset limit? = .ok text ∧
      (rowsOf text).map (fun row => (row.label, row.bytes?)) =
        (List.range' offset (windowEnd store.records.rows.length offset limit? - offset)).map
          (fun i => (i, store.records.rows[i]?)) ∧
      (∀ row ∈ rowsOf text, row.InSixteens) ∧
      (linesOf text.toList).getLast? = some s!"Shown {(rowsOf text).length} records".toList) ∧
    (∀ offset limit count, store.records.rows.length ≤ offset + count * limit →
      (List.range count).flatMap
          (fun i => dumpedRows files path recordLength (offset + i * limit) (some limit)) =
        dumpedRows files path recordLength offset none) := by
  refine ⟨?_, ?_⟩
  · intro offset limit?
    refine ⟨_, dump_eq loaded offset limit?, ?_, ?_, ?_⟩
    · rw [rowsOf_listing, List.map_map, ← map_window]
      simp only [Function.comp_def, Row.bytes?_printed]
      rfl
    · rw [rowsOf_listing]
      intro row mem
      obtain ⟨row, inside, rfl⟩ := List.mem_map.mp mem
      exact Row.inSixteens_printed (ne_nil_of_mem_rows loaded (record_mem_of_mem_window _ inside))
    · rw [rowsOf_listing, List.length_map, linesOf_listing, listing_eq]
      simp [countLine, List.getLast?_cons]
  · intro offset limit count all
    rw [flatMap_dumpedRows loaded, dumpedRows_eq loaded, dumpedRows_eq loaded, window_none _ _ all]

end Dump

def listedFiles : FileSystem :=
  (FileSystem.empty ["work"]).put ["work", "LIST.DAT"] (.file
    (List.replicate 22 0 ++ [17, 0, 17, 0, 0, 0, 2, 0] ++ List.replicate 488 0 ++
      List.replicate 17 0x41 ++ List.replicate 17 0x42))

/-- The largest limit shows what is there. -/
theorem dump_shows_sample :
    ∃ store text, loadStore listedFiles "LIST.DAT" (some 17) = .ok store ∧
      dump listedFiles "LIST.DAT" 17 1 (some 18446744073709551615) = .ok text ∧
      (rowsOf text).map (fun row => (row.label, row.bytes?)) =
        [(1, some (List.replicate 17 0x42))] ∧
      (List.range 2).flatMap
          (fun i => dumpedRows listedFiles "LIST.DAT" 17 (0 + i * 1) (some 1)) =
        dumpedRows listedFiles "LIST.DAT" 17 0 none := by
  have held : (loadStore listedFiles "LIST.DAT" (some 17)).toOption.map (·.records.rows) =
      some [List.replicate 17 0x41, List.replicate 17 0x42] := by decide +kernel
  cases loaded : loadStore listedFiles "LIST.DAT" (some 17) with
  | error error =>
    rw [loaded] at held
    cases held
  | ok store =>
    rw [loaded] at held
    have rows : store.records.rows = [List.replicate 17 0x41, List.replicate 17 0x42] :=
      Option.some.inj held
    obtain ⟨shows, windows⟩ := dump_shows loaded
    obtain ⟨text, printed, same, -⟩ := shows 1 (some 18446744073709551615)
    rw [rows] at same
    exact ⟨store, text, rfl, printed, same, windows 0 1 2 (by rw [rows]; decide)⟩

end RecordFile.Tool
