import RecordFile.Bytes
import RecordFile.Files.Fault

/-! # The tree of directories and files

A place is the list of names that lead to it from the root. A trail is a walk through the tree,
which can also turn back.
-/

namespace RecordFile

/-- The names from the root down. -/
abbrev Location := List String

inductive Node
  | directory (entries : List (String × Node))
  | file (content : Bytes)

namespace Node

/-! ## Looking -/

def child? : Node → String → Option Node
  | directory entries, name => entries.lookup name
  | file _, _ => none

def get? : Node → Location → Option Node
  | node, [] => some node
  | node, name :: rest => (node.child? name).bind (·.get? rest)

/-! ## Changing -/

def putEntry (name : String) (node : Node) : List (String × Node) → List (String × Node)
  | [] => [(name, node)]
  | entry :: rest =>
    if name = entry.1 then (name, node) :: rest else entry :: putEntry name node rest

@[simp] theorem lookup_putEntry_self (name : String) (node : Node)
    (entries : List (String × Node)) : (putEntry name node entries).lookup name = some node := by
  induction entries with
  | nil => simp [putEntry]
  | cons entry rest ih =>
    obtain ⟨key, before⟩ := entry
    by_cases same : name = key
    · simp [putEntry, same]
    · simp [putEntry, same, List.lookup_cons, beq_eq_false_iff_ne.mpr same, ih]

theorem lookup_putEntry_of_ne {name other : String} (node : Node)
    (entries : List (String × Node)) (h : other ≠ name) :
    (putEntry name node entries).lookup other = entries.lookup other := by
  induction entries with
  | nil => simp [putEntry, List.lookup_cons, beq_eq_false_iff_ne.mpr h]
  | cons entry rest ih =>
    obtain ⟨key, before⟩ := entry
    by_cases same : name = key
    · subst same
      simp [putEntry, List.lookup_cons, beq_eq_false_iff_ne.mpr h]
    · simp [putEntry, same, List.lookup_cons, ih]

/-- Without a directory for it nothing changes. -/
def put : Node → Location → Node → Node
  | _, [], new => new
  | file content, _ :: _, _ => file content
  | directory entries, [name], new => directory (putEntry name new entries)
  | directory entries, name :: rest, new =>
    match entries.lookup name with
    | some child => directory (putEntry name (child.put rest new) entries)
    | none => directory entries

/-- The root stays. -/
def erase : Node → Location → Node
  | node, [] => node
  | file content, _ :: _ => file content
  | directory entries, [name] => directory (entries.filter (·.1 != name))
  | directory entries, name :: rest =>
    match entries.lookup name with
    | some child => directory (putEntry name (child.erase rest) entries)
    | none => directory entries

def ofLocation : Location → Node
  | [] => directory []
  | name :: rest => directory [(name, ofLocation rest)]

end Node

/-! ## Trails -/

/-- The names passed, nearest first, with what stands there. The last may lead nowhere. -/
structure Trail where
  root : Node
  steps : List (String × Option Node)

namespace Trail

def location (trail : Trail) : Location := (trail.steps.map (·.1)).reverse

def pathSize (trail : Trail) : Nat :=
  trail.steps.foldr (fun step size => step.1.utf8ByteSize + 1 + size) 0

def node? (trail : Trail) : Option Node :=
  match trail.steps with
  | [] => some trail.root
  | (_, node?) :: _ => node?

def down (trail : Trail) (name : String) : Trail :=
  { trail with steps := (name, trail.node?.bind (·.child? name)) :: trail.steps }

/-- Above the root is the root. -/
def up (trail : Trail) : Trail := { trail with steps := trail.steps.tail }

def maxNameSize : Nat := 255

/-- The empty name and the dot stay. -/
def enter (trail : Trail) (name : String) : Except FileFault Trail :=
  match trail.node? with
  | none => .error .missing
  | some (.file _) => .error .notDirectory
  | some (.directory _) =>
    if name = "" ∨ name = "." then .ok trail
    else if name = ".." then .ok trail.up
    else if maxNameSize < name.utf8ByteSize then .error .nameTooLong
    else .ok (trail.down name)

def follow (trail : Trail) (names : List String) : Except FileFault Trail :=
  names.foldlM enter trail

end Trail

end RecordFile
