import RecordFile.Files.FileSystem
import RecordFile.Proofs.Outcome

/-! # Where paths lead

A path is followed through directories only. So it leads to the same place as long as the
directories stay, whatever is put elsewhere in the tree.
-/

namespace RecordFile

namespace Node

variable {root after node child : Node} {place location : Location} {name other : String}

/-! ## Looking below a place -/

theorem get?_append (root : Node) (above below : Location) :
    root.get? (above ++ below) = (root.get? above).bind (·.get? below) := by
  induction above generalizing root with
  | nil => simp [get?]
  | cons name rest ih =>
    simp only [List.cons_append, get?]
    cases root.child? name <;> simp [ih]

theorem get?_file_below (content : Bytes) (below : Location) (inside : below ≠ []) :
    (file content).get? below = none := by
  cases below with
  | nil => exact absurd rfl inside
  | cons name rest => simp [get?, child?]

/-! ## Putting a node -/

theorem child?_put_of_ne (apart : other ≠ name) (root new : Node) (rest : Location) :
    (root.put (name :: rest) new).child? other = root.child? other := by
  cases root with
  | file content => rfl
  | directory entries =>
    cases rest with
    | nil => exact lookup_putEntry_of_ne new entries apart
    | cons next rest =>
      unfold put
      cases entries.lookup name with
      | none => rfl
      | some child => exact lookup_putEntry_of_ne _ entries apart

theorem child?_put_self (here : root.child? name = some child) (rest : Location) (new : Node) :
    (root.put (name :: rest) new).child? name = some (child.put rest new) := by
  cases root with
  | file content => cases here
  | directory entries =>
    cases rest with
    | nil => simp [put, child?]
    | cons next rest =>
      have here : entries.lookup name = some child := here
      simp [put, child?, here]

theorem get?_put_self (here : root.get? location = some node) (new : Node) :
    (root.put location new).get? location = some new := by
  induction location generalizing root with
  | nil => simp [put, get?]
  | cons name rest ih =>
    obtain ⟨child, under, here⟩ := Option.bind_eq_some_iff.mp here
    simp [get?, child?_put_self under, ih here]

theorem get?_put_concat {above : Location} {entries : List (String × Node)}
    (here : root.get? above = some (.directory entries)) (name : String) (new : Node) :
    (root.put (above ++ [name]) new).get? (above ++ [name]) = some new := by
  induction above generalizing root with
  | nil =>
    cases here
    simp [put, get?, child?]
  | cons next rest ih =>
    obtain ⟨child, under, here⟩ := Option.bind_eq_some_iff.mp here
    simp only [List.cons_append, get?, child?_put_self under, Option.bind_some]
    exact ih here

/-! ## Growing -/

/-- What a node becomes when something is put below it. -/
inductive GrowsTo : Node → Node → Prop
  | file (content : Bytes) : GrowsTo (.file content) (.file content)
  | directory (before after : List (String × Node)) : GrowsTo (.directory before) (.directory after)

theorem GrowsTo.refl (node : Node) : node.GrowsTo node := by
  cases node <;> constructor

theorem GrowsTo.trans {third : Node} (first : node.GrowsTo after) (second : after.GrowsTo third) :
    node.GrowsTo third := by
  cases first <;> cases second <;> constructor

theorem growsTo_put (root new : Node) (name : String) (rest : Location) :
    root.GrowsTo (root.put (name :: rest) new) := by
  cases root with
  | file content => exact .file content
  | directory entries =>
    cases rest with
    | nil => exact .directory _ _
    | cons next rest =>
      unfold put
      split <;> exact .directory _ _

theorem exists_get?_put (apart : ¬location <+: place) (here : root.get? place = some node)
    (new : Node) :
    ∃ grown, (root.put location new).get? place = some grown ∧ node.GrowsTo grown := by
  induction location generalizing root place with
  | nil => exact absurd List.nil_prefix apart
  | cons name rest ih =>
    cases place with
    | nil =>
      cases here
      exact ⟨_, rfl, growsTo_put _ new name rest⟩
    | cons other below =>
      obtain ⟨child, under, here⟩ := Option.bind_eq_some_iff.mp here
      by_cases same : other = name
      · subst same
        rw [List.cons_prefix_cons] at apart
        simpa [get?, child?_put_self under] using ih (fun inside => apart ⟨rfl, inside⟩) here
      · exact ⟨node, by simp [get?, child?_put_of_ne same, under, here], .refl node⟩

theorem not_prefix_of_get? (noDirectory : ∀ entries, root.get? location ≠ some (.directory entries))
    (here : root.get? place = some node) (apart : place ≠ location) : ¬location <+: place := by
  rintro ⟨below, rfl⟩
  have inside : below ≠ [] := fun none => apart (by rw [none, List.append_nil])
  rw [get?_append] at here
  cases above : root.get? location with
  | none => simp [above] at here
  | some holder =>
    cases holder with
    | directory entries => exact noDirectory entries above
    | file content => simp [above, get?_file_below content below inside] at here

def Extends (root after : Node) : Prop :=
  ∀ place node, root.get? place = some node →
    ∃ grown, after.get? place = some grown ∧ node.GrowsTo grown

theorem Extends.refl (root : Node) : root.Extends root :=
  fun _ node here => ⟨node, here, .refl node⟩

theorem Extends.trans {third : Node} (first : root.Extends after) (second : after.Extends third) :
    root.Extends third := by
  intro place node here
  obtain ⟨grown, there, grows⟩ := first place node here
  obtain ⟨last, later, growsOn⟩ := second place grown there
  exact ⟨last, later, grows.trans growsOn⟩

theorem extends_put (vacant : root.get? location = none) (new : Node) :
    root.Extends (root.put location new) := by
  intro place node here
  refine exists_get?_put ?_ here new
  refine not_prefix_of_get? (by simp [vacant]) here ?_
  rintro rfl
  cases vacant.symm.trans here

/-! ## Following names -/

def enter (root : Node) (place : Location) (name : String) : Except FileFault Location :=
  match root.get? place with
  | none => .error .missing
  | some (.file _) => .error .notDirectory
  | some (.directory _) =>
    if name = "" ∨ name = "." then .ok place
    else if name = ".." then .ok place.dropLast
    else if Trail.maxNameSize < name.utf8ByteSize then .error .nameTooLong
    else .ok (place ++ [name])

theorem enter_eq_ok {next : Location} (entered : root.enter place name = .ok next)
    (forward : name ≠ "..") (noDirectory : ∀ entries, root.get? next ≠ some (.directory entries)) :
    next = place ++ [name] ∧ ∃ entries, root.get? place = some (.directory entries) := by
  unfold enter at entered
  split at entered
  · cases entered
  · cases entered
  · next entries here =>
    split at entered
    · -- The empty name and the dot stay in the directory.
      cases entered
      exact absurd here (noDirectory entries)
    · split at entered
      · cases entered
      · cases entered
        exact ⟨rfl, entries, here⟩

def walk (root : Node) (place : Location) (names : List String) : Except FileFault Location :=
  names.foldlM root.enter place

theorem walk_concat {names : List String} {last next : Location}
    (walked : root.walk place names = .ok last) (entered : root.enter last name = .ok next) :
    root.walk place (names ++ [name]) = .ok next := by
  unfold walk at *
  rw [List.foldlM_append, bind_eq_ok_iff]
  exact ⟨last, walked, by simpa using entered⟩

def KeepsDirectories (root after : Node) : Prop :=
  ∀ place entries, root.get? place = some (.directory entries) →
    ∃ entries, after.get? place = some (.directory entries)

theorem Extends.keepsDirectories (h : root.Extends after) : root.KeepsDirectories after := by
  intro place entries here
  obtain ⟨grown, there, grows⟩ := h place _ here
  cases grows
  exact ⟨_, there⟩

theorem keepsDirectories_put
    (noDirectory : ∀ entries, root.get? location ≠ some (.directory entries)) (new : Node) :
    root.KeepsDirectories (root.put location new) := by
  intro place entries here
  have apart : place ≠ location := by
    rintro rfl
    exact noDirectory entries here
  obtain ⟨grown, there, grows⟩ :=
    exists_get?_put (not_prefix_of_get? noDirectory here apart) here new
  cases grows
  exact ⟨_, there⟩

theorem KeepsDirectories.enter (h : root.KeepsDirectories after) {next : Location}
    (entered : root.enter place name = .ok next) : after.enter place name = .ok next := by
  unfold Node.enter at *
  split at entered
  · cases entered
  · cases entered
  · next entries here =>
    obtain ⟨grown, there⟩ := h place entries here
    simpa [there] using entered

theorem KeepsDirectories.walk (h : root.KeepsDirectories after) {names : List String}
    {last : Location} (walked : root.walk place names = .ok last) :
    after.walk place names = .ok last := by
  induction names generalizing place with
  | nil => exact walked
  | cons name rest ih =>
    unfold Node.walk at *
    rw [List.foldlM_cons, bind_eq_ok_iff] at *
    obtain ⟨next, entered, walked⟩ := walked
    exact ⟨next, h.enter entered, ih walked⟩

end Node

end RecordFile
