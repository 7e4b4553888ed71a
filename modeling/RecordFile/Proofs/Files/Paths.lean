import RecordFile.Proofs.Files.Places

/-! # Trails as places

A trail shows what the tree holds at the places it passes, so following a path only tells one place
from another.
-/

namespace RecordFile

/-! ## Trails -/

namespace Trail

variable {root : Node} {place : Location} {name : String}

def along (root : Node) (place : Location) : Trail := place.foldl down ⟨root, []⟩

theorem location_down (trail : Trail) (name : String) :
    (trail.down name).location = trail.location ++ [name] := by
  simp [down, location]

theorem location_foldl_down (trail : Trail) (place : Location) :
    (place.foldl down trail).location = trail.location ++ place := by
  induction place generalizing trail with
  | nil => simp
  | cons name rest ih => simp [ih, location_down]

@[simp] theorem location_along (root : Node) (place : Location) :
    (along root place).location = place := by
  exact location_foldl_down ⟨root, []⟩ place

theorem node?_foldl_down (trail : Trail) (place : Location) :
    (place.foldl down trail).node? = trail.node?.bind (·.get? place) := by
  induction place generalizing trail with
  | nil => cases h : trail.node? <;> simp [h, Node.get?]
  | cons name rest ih =>
    have under : (trail.down name).node? = trail.node?.bind (·.child? name) := rfl
    rw [List.foldl_cons, ih, under]
    cases trail.node? <;> simp [Node.get?]

@[simp] theorem node?_along (root : Node) (place : Location) :
    (along root place).node? = root.get? place :=
  node?_foldl_down ⟨root, []⟩ place

theorem down_along (root : Node) (place : Location) (name : String) :
    (along root place).down name = along root (place ++ [name]) := by
  simp [along]

theorem up_along (root : Node) (place : Location) :
    (along root place).up = along root place.dropLast := by
  rcases List.eq_nil_or_concat place with rfl | ⟨above, name, rfl⟩
  · rfl
  · rw [List.concat_eq_append, ← down_along, List.dropLast_concat]
    rfl

theorem enter_along (root : Node) (place : Location) (name : String) :
    (along root place).enter name = (root.enter place name).map (along root) := by
  unfold enter Node.enter
  rw [node?_along]
  cases root.get? place with
  | none => rfl
  | some node =>
    cases node with
    | file content => rfl
    | directory entries =>
      dsimp only
      split
      · rfl
      · split
        · exact congrArg Except.ok (up_along root place)
        · split
          · rfl
          · exact congrArg Except.ok (down_along root place name)

theorem follow_along (root : Node) (place : Location) (names : List String) :
    (along root place).follow names = (root.walk place names).map (along root) := by
  induction names generalizing place with
  | nil => rfl
  | cons name rest ih =>
    unfold follow Node.walk at *
    rw [List.foldlM_cons, List.foldlM_cons, enter_along]
    cases root.enter place name with
    | error fault => rfl
    | ok next => exact ih next

theorem follow_along_eq_ok_iff {names : List String} {trail : Trail} :
    (along root place).follow names = .ok trail ↔
      ∃ last, root.walk place names = .ok last ∧ along root last = trail := by
  rw [follow_along, map_eq_ok_iff]

end Trail

/-! ## Paths -/

namespace FileSystem

variable {files after : FileSystem} {path : String} {place : Location} {node : Node}

def origin (files : FileSystem) (path : String) : Location :=
  if Path.isAbsolute path then [] else files.workingDirectory

theorem start_eq (files : FileSystem) (path : String) :
    files.start path = .along files.root (files.origin path) := by
  unfold start origin
  split <;> rfl

/-- The place that a path leads to. The last name may lead nowhere. -/
def target (files : FileSystem) (path : String) : Except FileFault Location :=
  files.root.walk (files.origin path) (Path.split path)

theorem lookup_eq_ok_iff : files.lookup path = .ok (place, node) ↔
    checkPath path = .ok () ∧ files.target path = .ok place ∧ files.node? place = some node := by
  have follows : ∀ trail, (files.start path).follow (Path.split path) = .ok trail ↔
      ∃ last, files.target path = .ok last ∧ Trail.along files.root last = trail := by
    intro trail
    rw [start_eq]
    exact Trail.follow_along_eq_ok_iff
  unfold lookup node?
  simp only [bind_eq_ok_iff, follows]
  constructor
  · rintro ⟨⟨⟩, checked, _, ⟨last, leads, rfl⟩, found⟩
    rw [Trail.node?_along] at found
    split at found
    · next here =>
      rw [Trail.location_along] at found
      cases found
      exact ⟨checked, leads, here⟩
    · cases found
  · rintro ⟨checked, leads, here⟩
    refine ⟨(), checked, _, ⟨place, leads, rfl⟩, ?_⟩
    rw [Trail.node?_along, here, Trail.location_along]

theorem content?_eq_some_iff {content : Bytes} : files.content? path = some content ↔
    ∃ place, files.lookup path = .ok (place, .file content) := by
  unfold content?
  constructor
  · intro held
    split at held
    · next place _ found =>
      cases held
      exact ⟨place, found⟩
    · cases held
  · rintro ⟨place, found⟩
    rw [found]

theorem follow_of_foldlM_enterAbsolute {trail last : Trail} {names : List String}
    (entered : names.foldlM enterAbsolute trail = .ok last) : trail.follow names = .ok last := by
  induction names generalizing trail with
  | nil => exact entered
  | cons name rest ih =>
    unfold Trail.follow at *
    rw [List.foldlM_cons, bind_eq_ok_iff] at *
    obtain ⟨next, first, later⟩ := entered
    unfold enterAbsolute at first
    split at first
    · cases first
    · exact ⟨next, first, ih later⟩

theorem target_of_canonical (resolved : files.canonical path = .ok place) :
    files.target path = .ok place := by
  unfold canonical at resolved
  rw [bind_eq_ok_iff] at resolved
  obtain ⟨_, -, resolved⟩ := resolved
  rw [bind_eq_ok_iff, start_eq] at resolved
  obtain ⟨trail, entered, resolved⟩ := resolved
  obtain ⟨last, walked, rfl⟩ :=
    Trail.follow_along_eq_ok_iff.mp (follow_of_foldlM_enterAbsolute entered)
  split at resolved
  · cases resolved
  · split at resolved
    · cases resolved
    · rw [Trail.location_along] at resolved
      cases resolved
      exact walked

theorem split_of_entry? {entry : Entry} (named : entry? path = some entry)
    (plain : ¬entry.slashed) : Path.split path = entry.above ++ [entry.name] := by
  unfold entry? at named
  dsimp only at named
  obtain ⟨name, last, rfl⟩ := Option.map_eq_some_iff.mp named
  have suffix : (Path.split path).reverse.dropWhile (· == "") <:+ (Path.split path).reverse :=
    List.dropWhile_suffix _
  have whole : (Path.split path).reverse.dropWhile (· == "") = (Path.split path).reverse := by
    refine suffix.eq_of_length_le ?_
    simpa using plain
  rw [whole, List.reverse_reverse] at last
  simp only [whole, List.reverse_reverse]
  obtain ⟨above, split⟩ := List.getLast?_eq_some_iff.mp last
  rw [split, List.dropLast_concat]

theorem target_of_truncate (made : files.truncate path = .ok (place, after)) :
    checkPath path = .ok () ∧ files.target path = .ok place ∧
      (∀ entries, files.node? place ≠ some (.directory entries)) ∧
      after = files.put place (.file []) ∧ after.node? place = some (.file []) := by
  unfold truncate at made
  rw [bind_eq_ok_iff] at made
  obtain ⟨⟨⟩, checked, made⟩ := made
  split at made
  · next entry named =>
    rw [bind_eq_ok_iff, start_eq] at made
    obtain ⟨above, followed, made⟩ := made
    rw [bind_eq_ok_iff] at made
    obtain ⟨_, -, made⟩ := made
    split at made
    · cases made
    · next allowed =>
      rw [bind_eq_ok_iff] at made
      obtain ⟨trail, entered, made⟩ := made
      obtain ⟨directory, walked, rfl⟩ := Trail.follow_along_eq_ok_iff.mp followed
      rw [Trail.enter_along, map_eq_ok_iff] at entered
      obtain ⟨last, entered, rfl⟩ := entered
      -- No slash follows the name, so the names followed are all names of the path.
      have plain : ¬entry.slashed := fun slashed => allowed (.inl slashed)
      have leads : files.target path = .ok last := by
        rw [target, split_of_entry? named plain]
        exact Node.walk_concat walked entered
      have forward : entry.name ≠ ".." := by
        intro dots
        exact allowed (.inr (by simp [Entry.isDots, dots]))
      rw [Trail.node?_along, Trail.location_along] at made
      split at made
      · cases made
      · next noDirectory =>
        cases made
        obtain ⟨rfl, entries, here⟩ := Node.enter_eq_ok entered forward noDirectory
        exact ⟨checked, leads, noDirectory, rfl, Node.get?_put_concat here _ _⟩
  · cases made

end FileSystem

end RecordFile
