import Mathlib.Logic.Relation
import RecordFile.Proofs.Text.HexReading

/-! # One row of bytes, many spellings

Bytes are read back also when blanks are put in or taken out, or digits change their case.
-/

namespace RecordFile.Text

/-! ## Case -/

@[elab_as_elim]
theorem forall_ascii {P : Char → Prop} {c : Char} (small : c.toNat < 128)
    (each : ∀ n, n < 128 → P (Char.ofNat n)) : P c := by
  have holds := each c.toNat small
  rwa [Char.ofNat_toNat] at holds

theorem toUpper_of_le {c : Char} (large : 128 ≤ c.toNat) : c.toUpper = c := by
  unfold Char.toUpper
  rw [dif_neg]
  rintro ⟨-, last⟩
  have small : c.toNat ≤ 122 := UInt32.le_iff_toNat_le.mp last
  omega

theorem hexValue?_toUpper (c : Char) : hexValue? c.toUpper = hexValue? c := by
  rcases Nat.lt_or_ge c.toNat 128 with small | large
  · exact forall_ascii small (by decide)
  · rw [toUpper_of_le large]

theorem toUpper_eq_plus_iff (c : Char) : c.toUpper = '+' ↔ c = '+' := by
  rcases Nat.lt_or_ge c.toNat 128 with small | large
  · exact forall_ascii small (by decide)
  · rw [toUpper_of_le large]

theorem lt_toUpper_iff (c : Char) : 127 < c.toUpper.toNat ↔ 127 < c.toNat := by
  rcases Nat.lt_or_ge c.toNat 128 with small | large
  · exact forall_ascii small (by decide)
  · rw [toUpper_of_le large]

theorem hexDigit_of_hexValue? {c : Char} {d : Nat} (value : hexValue? c = some d) :
    hexDigit d = c.toUpper := by
  have small : c.toNat < 128 := by
    have low := toNat_le_of_isHexDigit (exists_hexValue?_iff.mp ⟨d, value⟩)
    omega
  have digit : ∀ e ∈ hexValue? c, hexDigit e = c.toUpper := forall_ascii small (by decide)
  exact digit d value

/-! ## Rows of pairs -/

theorem readPair?_toUpper (high low : Char) :
    readPair? high.toUpper low.toUpper = readPair? high low := by
  simp only [readPair?, toUpper_eq_plus_iff, hexValue?_toUpper]

theorem readPairs?_map_toUpper (row : List Char) :
    readPairs? (row.map Char.toUpper) = readPairs? row := by
  fun_induction readPairs? row with
  | case1 high low rest b bytes read readRest ih =>
    simp [readPairs?, readPair?_toUpper, ih, read, readRest]
  | case2 high low rest notBoth ih =>
    simp only [List.map_cons, readPairs?, readPair?_toUpper, ih]
  | case3 row short =>
    rcases row with _ | ⟨high, _ | ⟨low, rest⟩⟩
    · rfl
    · rfl
    · exact absurd rfl (short high low rest)

theorem readPair?_hexPair (b : UInt8) :
    readPair? (hexDigit (b.toNat / 16)) (hexDigit (b.toNat % 16)) = some b := by
  have below := b.toNat_lt
  have unsigned : hexDigit (b.toNat / 16) ≠ '+' := by
    have none : ∀ d, d < 16 → hexDigit d ≠ '+' := by decide
    exact none _ (by omega)
  have high := hexValue?_hexDigit (b.toNat / 16) (by omega)
  have low := hexValue?_hexDigit (b.toNat % 16) (by omega)
  have whole : 16 * (b.toNat / 16) + b.toNat % 16 = b.toNat := Nat.div_add_mod _ _
  simp [readPair?, unsigned, high, low, whole]

theorem readPairs?_flatMap_hexPair (bytes : Bytes) :
    readPairs? (bytes.flatMap hexPair) = some bytes := by
  induction bytes with
  | nil => rfl
  | cons b rest ih => simp [hexPair, readPairs?, readPair?_hexPair, ih]

theorem hexPair_of_readPair? {high low : Char} {b : UInt8} (digit : IsHexDigit high)
    (read : readPair? high low = some b) : hexPair b = [high.toUpper, low.toUpper] := by
  have unsigned : high ≠ '+' := by
    rintro rfl
    revert digit
    decide
  obtain ⟨h, highValue⟩ := exists_hexValue?_iff.mpr digit
  cases lowValue : hexValue? low with
  | none => simp [readPair?, unsigned, highValue, lowValue] at read
  | some l =>
    have smallHigh := hexValue?_lt highValue
    have smallLow := hexValue?_lt lowValue
    simp only [readPair?, if_neg unsigned, highValue, lowValue, Option.some.injEq] at read
    have value : b.toNat = 16 * h + l := by
      rw [← read, UInt8.toNat_ofNat']
      omega
    have first : b.toNat / 16 = h := by omega
    have second : b.toNat % 16 = l := by omega
    rw [hexPair, first, second, hexDigit_of_hexValue? highValue, hexDigit_of_hexValue? lowValue]

theorem flatMap_hexPair_of_readPairs? {row : List Char} {bytes : Bytes}
    (even : row.length % 2 = 0) (digits : ∀ c ∈ row, IsHexDigit c)
    (read : readPairs? row = some bytes) : bytes.flatMap hexPair = row.map Char.toUpper := by
  fun_induction readPairs? row generalizing bytes with
  | case1 high low rest b others readRest readFirst ih =>
    cases read
    have restEven : rest.length % 2 = 0 := by simp at even; omega
    have later := ih restEven (fun c mem => digits c (by simp [mem])) readRest
    simp [hexPair_of_readPair? (digits high (by simp)) readFirst, later]
  | case2 => cases read
  | case3 row short =>
    cases read
    rcases row with _ | ⟨high, _ | ⟨low, rest⟩⟩
    · rfl
    · simp at even
    · exact absurd rfl (short high low rest)

/-! ## Written texts -/

def inPairs : List Char → List Char
  | high :: low :: next :: rest => high :: low :: ' ' :: inPairs (next :: rest)
  | row => row

theorem hexPairs_eq_inPairs (bytes : Bytes) : hexPairs bytes = inPairs (bytes.flatMap hexPair) := by
  fun_induction hexPairs bytes with
  | case1 => rfl
  | case2 b => rfl
  | case3 b rest some ih =>
    cases rest with
    | nil => exact absurd rfl some
    | cons next others =>
      rw [ih]
      rfl

theorem significant_append (row others : List Char) :
    significant (row ++ others) = significant row ++ significant others :=
  List.filter_append row others

theorem significant_hexPair (b : UInt8) : significant (hexPair b) = hexPair b := by
  have below := b.toNat_lt
  have solid : ∀ d, d < 16 → isBlank (hexDigit d) = false := by decide
  simp [significant, hexPair, solid (b.toNat / 16) (by omega), solid (b.toNat % 16) (by omega)]

theorem significant_hexPairs (bytes : Bytes) :
    significant (hexPairs bytes) = bytes.flatMap hexPair := by
  fun_induction hexPairs bytes with
  | case1 => rfl
  | case2 b => simpa using significant_hexPair b
  | case3 b rest some ih =>
    have blank : significant (' ' :: hexPairs rest) = significant (hexPairs rest) := rfl
    rw [significant_append, significant_hexPair, blank, ih, List.flatMap_cons]

@[simp] theorem toList_hex (bytes : Bytes) : (hex bytes).toList = hexPairs bytes :=
  String.toList_ofList

/-! ## Reading -/

/-- A text without its blanks, in upper case. -/
def plain (text : List Char) : List Char := (significant text).map Char.toUpper

theorem parseHex_congr {text other : String} (same : plain text.toList = plain other.toList) :
    parseHex text = parseHex other := by
  unfold plain at same
  generalize hrow : significant text.toList = row at same
  generalize hrows : significant other.toList = others at same
  have length : row.length = others.length := by simpa using congrArg List.length same
  have pairs : readPairs? row = readPairs? others := by
    simpa [readPairs?_map_toUpper] using congrArg readPairs? same
  have foreign : row.any (127 < ·.toNat) = others.any (127 < ·.toNat) := by
    simpa [List.any_map, Function.comp_def, lt_toUpper_iff] using
      congrArg (·.any (127 < ·.toNat)) same
  simp only [parseHex, hrow, hrows, length, pairs, foreign]

theorem length_flatMap_hexPair (bytes : Bytes) :
    (bytes.flatMap hexPair).length = 2 * bytes.length := by
  induction bytes with
  | nil => rfl
  | cons b rest ih => simp [hexPair, ih]; omega

theorem any_flatMap_hexPair (bytes : Bytes) :
    (bytes.flatMap hexPair).any (127 < ·.toNat) = false := by
  have ascii : ∀ d, d < 16 → ¬127 < (hexDigit d).toNat := by decide
  induction bytes with
  | nil => rfl
  | cons b rest ih =>
    have below := b.toNat_lt
    simp [hexPair, ascii (b.toNat / 16) (by omega), ascii (b.toNat % 16) (by omega), ih]

theorem parseHex_of_significant {text : String} {bytes : Bytes}
    (written : significant text.toList = bytes.flatMap hexPair) : parseHex text = .ok bytes := by
  have even : (bytes.flatMap hexPair).length % 2 = 0 := by
    rw [length_flatMap_hexPair]
    omega
  unfold parseHex
  rw [written]
  dsimp only
  rw [any_flatMap_hexPair, even, readPairs?_flatMap_hexPair]
  rfl

theorem parseHex_hex (bytes : Bytes) : parseHex (hex bytes) = .ok bytes := by
  apply parseHex_of_significant
  rw [toList_hex, significant_hexPairs]

/-- A blank comes in or goes out, or a digit changes its case. -/
inductive Respelling : List Char → List Char → Prop
  | blankIn (before after : List Char) {c : Char} (blank : isBlank c = true) :
    Respelling (before ++ after) (before ++ c :: after)
  | blankOut (before after : List Char) {c : Char} (blank : isBlank c = true) :
    Respelling (before ++ c :: after) (before ++ after)
  | upper (before after : List Char) {c : Char} (digit : IsHexDigit c) :
    Respelling (before ++ c :: after) (before ++ c.toUpper :: after)
  | lower (before after : List Char) {c : Char} (digit : IsHexDigit c) :
    Respelling (before ++ c :: after) (before ++ c.toLower :: after)

theorem plain_append (row others : List Char) :
    plain (row ++ others) = plain row ++ plain others := by
  simp [plain, significant_append]

theorem plain_blank {c : Char} (blank : isBlank c = true) (rest : List Char) :
    plain (c :: rest) = plain rest := by
  simp [plain, significant, blank]

theorem plain_cons_congr {c d : Char} (blank : isBlank d = isBlank c)
    (upper : d.toUpper = c.toUpper) (rest : List Char) : plain (d :: rest) = plain (c :: rest) := by
  simp only [plain, significant, List.filter_cons, blank]
  split <;> simp [upper]

theorem plain_toUpper {c : Char} (digit : IsHexDigit c) (rest : List Char) :
    plain (c.toUpper :: rest) = plain (c :: rest) := by
  have small : c.toNat < 128 := Nat.lt_succ_of_le (toNat_le_of_isHexDigit digit)
  have blank : isBlank c.toUpper = isBlank c := forall_ascii small (by decide)
  have upper : c.toUpper.toUpper = c.toUpper := forall_ascii small (by decide)
  exact plain_cons_congr blank upper rest

theorem plain_toLower {c : Char} (digit : IsHexDigit c) (rest : List Char) :
    plain (c.toLower :: rest) = plain (c :: rest) := by
  have small : c.toNat < 128 := Nat.lt_succ_of_le (toNat_le_of_isHexDigit digit)
  have blank : isBlank c.toLower = isBlank c := forall_ascii small (by decide)
  have upper : c.toLower.toUpper = c.toUpper := forall_ascii small (by decide)
  exact plain_cons_congr blank upper rest

theorem plain_of_respelling {text other : List Char} (change : Respelling text other) :
    plain other = plain text := by
  cases change with
  | blankIn before after blank => rw [plain_append, plain_blank blank, plain_append]
  | blankOut before after blank => rw [plain_append, plain_append, plain_blank blank]
  | upper before after digit => rw [plain_append, plain_toUpper digit, plain_append]
  | lower before after digit => rw [plain_append, plain_toLower digit, plain_append]

theorem plain_of_respellings {text other : List Char}
    (changes : Relation.ReflTransGen Respelling text other) : plain other = plain text := by
  induction changes with
  | refl => rfl
  | tail _ last ih => rw [plain_of_respelling last, ih]

theorem hex_of_parseHex {text : String} {bytes : Bytes}
    (digits : ∀ c ∈ text.toList, IsHexDigit c ∨ isBlank c = true)
    (read : parseHex text = .ok bytes) :
    hex bytes = String.ofList (inPairs (plain text.toList)) := by
  have even := (exists_parseHex_iff.mp ⟨bytes, read⟩).1
  have row : ∀ c ∈ significant text.toList, IsHexDigit c := by
    intro c mem
    obtain ⟨inside, solid⟩ := List.mem_filter.mp mem
    exact (digits c inside).resolve_right (by simpa using solid)
  have pairs : readPairs? (significant text.toList) = some bytes := by
    unfold parseHex at read
    grind
  rw [hex, hexPairs_eq_inPairs, flatMap_hexPair_of_readPairs? even row pairs]
  rfl

/-- Bytes are read back as they were written, however the text is respelled. -/
theorem parseHex_respelled :
    (∀ bytes, parseHex (hex bytes) = .ok bytes) ∧
    (∀ text other : String, Relation.ReflTransGen Respelling text.toList other.toList →
      parseHex other = parseHex text) ∧
    (∀ (text : String) bytes, (∀ c ∈ text.toList, IsHexDigit c ∨ isBlank c = true) →
      parseHex text = .ok bytes → hex bytes = String.ofList (inPairs (plain text.toList))) :=
  ⟨parseHex_hex, fun _ _ changes => parseHex_congr (plain_of_respellings changes),
    fun _ _ => hex_of_parseHex⟩

theorem parseHex_respelled_sample :
    Relation.ReflTransGen Respelling (hex [0x2A, 0x4F]).toList "2a 4\u00a0f".toList ∧
      parseHex "2a 4\u00a0f" = .ok [0x2A, 0x4F] ∧
      (∀ c ∈ "2a 4\u00a0f".toList, IsHexDigit c ∨ isBlank c = true) ∧
      hex [0x2A, 0x4F] = String.ofList (inPairs (plain "2a 4\u00a0f".toList)) ∧
      inPairs (plain "2a 4\u00a0f".toList) = "2A 4F".toList := by
  obtain ⟨found, same, written⟩ := parseHex_respelled
  have first : Respelling (hex [0x2A, 0x4F]).toList "2a 4F".toList :=
    .lower ['2'] " 4F".toList (c := 'A') (by decide)
  have second : Respelling "2a 4F".toList "2a 4f".toList :=
    .lower "2a 4".toList [] (c := 'F') (by decide)
  have third : Respelling "2a 4f".toList "2a 4\u00a0f".toList :=
    .blankIn "2a 4".toList ['f'] (by decide)
  have changes := ((Relation.ReflTransGen.single first).tail second).tail third
  have read : parseHex "2a 4\u00a0f" = .ok [0x2A, 0x4F] := by
    rw [same _ _ changes, found]
  have digits : ∀ c ∈ "2a 4\u00a0f".toList, IsHexDigit c ∨ isBlank c = true := by
    have all : "2a 4\u00a0f".toList.all (fun c => IsHexDigit c ∨ isBlank c = true) := by decide
    exact fun c mem => of_decide_eq_true (List.all_eq_true.mp all c mem)
  exact ⟨changes, read, digits, written _ _ digits read, by decide⟩

end RecordFile.Text
