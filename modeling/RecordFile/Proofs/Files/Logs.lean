import RecordFile.Proofs.Addresses
import RecordFile.Proofs.Files.Creation
import RecordFile.Proofs.Files.Reading

/-! # Open files as logs

An open file remembers its size, and the system keeps one position that reads and appends both move.
Neither shows as long as nothing else writes to the file.
-/

namespace RecordFile.OpenFile

variable {before files : FileSystem} {path : String} {location : Location} {writable : Bool}
  {content : Bytes} {file : OpenFile}

/-! ## Runs -/

inductive Request
  | append (data : Bytes)
  | readAt (offset n : Nat)
  | readAll
  | size
  | flush
  deriving DecidableEq, Repr

inductive Reply
  | number (n : Nat)
  | bytes (bytes : Bytes)
  | done
  deriving DecidableEq, Repr

abbrev Answer := Except StorageError Reply

def serve (file : OpenFile) (files : FileSystem) : Request → Answer × OpenFile × FileSystem
  | .append data =>
    let (result, file, files) := file.append files data
    (result.map .number, file, files)
  | .readAt offset n => ((file.readAt files offset n).map .bytes, file, files)
  | .readAll => ((file.readAll files).map .bytes, file, files)
  | .size => (.ok (.number file.size), file, files)
  | .flush => (file.flush.map fun _ => .done, file, files)

inductive Event
  | ask (request : Request)
  /-- Something else changes the system. -/
  | elsewhere (change : FileSystem → FileSystem)

/-- The file stays as it is, unless it is asked for something. -/
def Event.Spares (location : Location) : Event → Prop
  | ask _ => True
  | elsewhere change => ∀ files content,
      files.node? location = some (.file content) →
        (change files).node? location = some (.file content)

theorem Event.spares_put {place : Location} (apart : ¬place <+: location) (new : Node) :
    Event.Spares location (.elsewhere (·.put place new)) := by
  intro files content here
  obtain ⟨grown, there, grows⟩ := Node.exists_get?_put apart here new
  cases grows
  exact there

abbrev Trace := List (Request × Answer)

def serveAll (file : OpenFile) (files : FileSystem) :
    List Event → Trace × OpenFile × FileSystem
  | [] => ([], file, files)
  | .ask request :: events =>
    let (answer, file, files) := file.serve files request
    let (trace, last, after) := file.serveAll files events
    ((request, answer) :: trace, last, after)
  | .elsewhere change :: events => file.serveAll (change files) events

def requests (events : List Event) : List Request :=
  events.filterMap fun
    | .ask request => some request
    | .elsewhere _ => none

/-! ## Logs -/

/-- Only a log that is writable takes more. -/
def logAnswer (writable : Bool) (content : Bytes) : Request → Answer
  | .append data =>
    if data = [] ∨ writable then .ok (.number content.length) else .error (.file .notWritable)
  | .readAt offset n =>
    if offset + n ≤ content.length then .ok (.bytes ((content.drop offset).take n))
    else .error (.readPastEnd offset n content.length)
  | .readAll => .ok (.bytes content)
  | .size => .ok (.number content.length)
  | .flush => .ok .done

/-- What a request has added, seen from its answer. -/
def added : Request × Answer → Bytes
  | (.append data, .ok _) => data
  | _ => []

/-- The data of the appends that did not fail, in order. -/
def accepted (trace : Trace) : Bytes := trace.flatMap added

/-- Every answer is that of a log which holds what was accepted before. -/
def Answered (writable : Bool) (content : Bytes) (trace : Trace) : Prop :=
  ∀ earlier request answer later, trace = earlier ++ (request, answer) :: later →
    answer = logAnswer writable (content ++ accepted earlier) request

@[simp] theorem accepted_nil : accepted [] = [] := rfl

@[simp] theorem accepted_cons (request : Request) (answer : Answer) (trace : Trace) :
    accepted ((request, answer) :: trace) = added (request, answer) ++ accepted trace :=
  List.flatMap_cons

theorem Answered.nil : Answered writable content [] := by
  intro earlier request answer later cut
  simp at cut

theorem Answered.cons {request : Request} {trace : Trace}
    (rest : Answered writable
      (content ++ added (request, logAnswer writable content request)) trace) :
    Answered writable content ((request, logAnswer writable content request) :: trace) := by
  intro earlier asked answer later cut
  cases earlier with
  | nil =>
    obtain ⟨⟨rfl, rfl⟩, -⟩ : (request = asked ∧ logAnswer writable content request = answer) ∧
        trace = later := by simpa using cut
    simp
  | cons head earlier =>
    obtain ⟨rfl, below⟩ := List.cons.inj cut
    simpa using rest earlier asked answer later below

theorem accepted_of_answered {trace : Trace} (answered : Answered false content trace) :
    accepted trace = [] := by
  refine List.flatMap_eq_nil_iff.mpr ?_
  rintro ⟨request, answer⟩ mem
  obtain ⟨earlier, later, cut⟩ := List.append_of_mem mem
  rw [answered earlier request answer later cut]
  cases request with
  | append data =>
    by_cases none : data = [] <;> simp [logAnswer, added, none]
  | _ => simp [added]

/-! ## A file is a log -/

/-- The file is open on a place that holds this content. -/
structure Holds (location : Location) (writable : Bool) (content : Bytes) (file : OpenFile)
    (files : FileSystem) : Prop where
  there : file.location = location
  mode : file.writable = writable
  here : files.node? location = some (.file content)
  whole : file.size = content.length

theorem Holds.append (h : Holds location writable content file files) (data : Bytes) :
    ∃ next after, file.serve files (.append data) =
        (logAnswer writable content (.append data), next, after) ∧
      Holds location writable
        (content ++ added (.append data, logAnswer writable content (.append data)))
        next after := by
  obtain ⟨rfl, rfl, here, whole⟩ := h
  cases data with
  | nil =>
    refine ⟨file, files, by simp [serve, OpenFile.append, logAnswer, Except.map, whole], ?_⟩
    simpa [added, logAnswer] using ⟨rfl, rfl, here, whole⟩
  | cons byte rest =>
    cases mode : file.writable with
    | false =>
      refine ⟨file, files, by simp [serve, OpenFile.append, logAnswer, Except.map, mode], ?_⟩
      simpa [added, logAnswer] using ⟨rfl, mode, here, whole⟩
    | true =>
      refine ⟨{ file with size := file.size + (byte :: rest).length },
        files.put file.location (.file (content ++ byte :: rest)), ?_, rfl, mode, ?_, ?_⟩
      · simp [serve, OpenFile.append, logAnswer, Except.map, mode, here, whole]
      · simpa [added, logAnswer] using FileSystem.node?_put_self here _
      · simp [added, logAnswer, whole]

theorem Holds.serve (h : Holds location writable content file files) (request : Request) :
    ∃ next after, file.serve files request = (logAnswer writable content request, next, after) ∧
      Holds location writable
        (content ++ added (request, logAnswer writable content request)) next after := by
  cases request with
  | append data => exact h.append data
  | readAt offset n =>
    refine ⟨file, files, ?_, by simpa [added] using h⟩
    obtain ⟨rfl, -, here, whole⟩ := h
    simp only [OpenFile.serve, readAt_eq here whole, logAnswer]
    split <;> rfl
  | readAll =>
    refine ⟨file, files, ?_, by simpa [added] using h⟩
    obtain ⟨rfl, -, here, whole⟩ := h
    simp [OpenFile.serve, readAll_eq here whole, logAnswer, Except.map]
  | size =>
    exact ⟨file, files, by simp [OpenFile.serve, logAnswer, h.whole], by simpa [added] using h⟩
  | flush => exact ⟨file, files, rfl, by simpa [added] using h⟩

theorem Holds.serveAll (h : Holds location writable content file files) (events : List Event)
    (spared : ∀ event ∈ events, event.Spares location) :
    ∃ trace last after, file.serveAll files events = (trace, last, after) ∧
      trace.map Prod.fst = requests events ∧ Answered writable content trace ∧
      Holds location writable (content ++ accepted trace) last after := by
  induction events generalizing content file files with
  | nil => exact ⟨[], file, files, rfl, rfl, .nil, by simpa using h⟩
  | cons event events ih =>
    obtain ⟨kept, others⟩ := List.forall_mem_cons.mp spared
    cases event with
    | ask request =>
      obtain ⟨next, between, served, held⟩ := h.serve request
      obtain ⟨trace, last, after, ran, asked, answered, holds⟩ := ih held others
      refine ⟨_, last, after, ?_, ?_, answered.cons, ?_⟩
      · simp only [OpenFile.serveAll, served, ran]
      · simpa [requests] using asked
      · simpa using holds
    | elsewhere change =>
      -- The file is spared, so it still holds what it held.
      have still : Holds location writable content file (change files) :=
        { h with here := kept files content h.here }
      obtain ⟨trace, last, after, ran, asked, rest⟩ := ih still others
      exact ⟨trace, last, after, ran, by simpa [requests] using asked, rest⟩

/-! ## The position that reads and appends share -/

def readFrom (content : Bytes) (position n : Nat) : Bytes × Nat :=
  let part := (content.drop position).take n
  (part, position + part.length)

/-- What lies between the content and the position becomes zero. -/
def writeFrom (content : Bytes) (position : Nat) (data : Bytes) : Bytes × Nat :=
  ((content.padTo position).overlay position data, position + data.length)

/-- `readAt` from a moving position, in sums that stop at the address limit. -/
def readAtInSteps? (file : OpenFile) (files : FileSystem) (position offset n : Nat) :
    Option (Except StorageError Bytes × Nat) :=
  let stop := min (offset + n) (addressLimit - 1)
  if file.size < offset ∨ file.size < stop then
    some (.error (.readPastEnd offset n file.size), position)
  else if n = 0 then some (.ok [], position)
  else if maxBlockSize < n then none
  else
    let position := offset
    match files.node? file.location with
    | some (.directory _) => some (.error (.file .isDirectory), position)
    | some (.file content) =>
      let (part, position) := readFrom content position n
      some (if part.length < n then .error (.file .endedEarly) else .ok part, position)
    | none => some (.error (.file .endedEarly), position)

/-- `append` with the position moved to the end first, even if nothing is written. -/
def appendInSteps? (file : OpenFile) (files : FileSystem) (position : Nat) (data : Bytes) :
    Option (Except StorageError Nat × OpenFile × FileSystem × Nat) :=
  if data.isEmpty then some (.ok file.size, file, files, position)
  else
    match files.node? file.location with
    | some (.file content) =>
      let position := content.length
      if file.writable then do
        let (grown, position) := writeFrom content position data
        let size ← Address.sum? file.size data.length
        return (.ok file.size, { file with size }, files.put file.location (.file grown), position)
      else some (.error (.file .notWritable), file, files, position)
    | _ => some (.error (.file .notWritable), file, files, position)

def serveInSteps? (file : OpenFile) (files : FileSystem) (position : Nat) :
    Request → Option (Answer × OpenFile × FileSystem × Nat)
  | .append data => do
    let (result, file, files, position) ← file.appendInSteps? files position data
    return (result.map .number, file, files, position)
  | .readAt offset n => do
    let (result, position) ← file.readAtInSteps? files position offset n
    return (result.map .bytes, file, files, position)
  | .readAll => do
    let (result, position) ← file.readAtInSteps? files position 0 file.size
    return (result.map .bytes, file, files, position)
  | .size => some (.ok (.number file.size), file, files, position)
  | .flush => some (file.flush.map fun _ => .done, file, files, position)

def serveAllInSteps? (file : OpenFile) (files : FileSystem) (position : Nat) :
    List Event → Option (Trace × OpenFile × FileSystem × Nat)
  | [] => some ([], file, files, position)
  | .ask request :: events => do
    let (answer, file, files, position) ← file.serveInSteps? files position request
    let (trace, last, after, position) ← file.serveAllInSteps? files position events
    return ((request, answer) :: trace, last, after, position)
  | .elsewhere change :: events => file.serveAllInSteps? (change files) position events

theorem writeFrom_end (content data : Bytes) :
    writeFrom content content.length data = (content ++ data, (content ++ data).length) := by
  simp [writeFrom, Bytes.padTo, Bytes.overlay]

theorem Holds.readAtInSteps?_eq (h : Holds location writable content file files)
    (small : content.length ≤ maxBlockSize) (position offset n : Nat) :
    ∃ moved, file.readAtInSteps? files position offset n =
      some (file.readAt files offset n, moved) := by
  obtain ⟨rfl, -, here, whole⟩ := h
  have bounds : maxBlockSize < addressLimit - 1 := by decide
  unfold readAtInSteps?
  rw [readAt_eq here whole, whole, here]
  by_cases inside : offset + n ≤ content.length
  · have stops : ¬(content.length < offset ∨
        content.length < min (offset + n) (addressLimit - 1)) := by omega
    rw [if_neg stops, if_pos inside]
    by_cases nothing : n = 0
    · exact ⟨position, by simp [nothing]⟩
    · have fits : ¬maxBlockSize < n := by omega
      have full : ((content.drop offset).take n).length = n := by simp; omega
      refine ⟨offset + n, ?_⟩
      simp [nothing, fits, readFrom, full]
  · -- The sum is past the end even when it is cut to the largest number.
    have past : content.length < offset ∨
        content.length < min (offset + n) (addressLimit - 1) := by omega
    exact ⟨position, by rw [if_pos past, if_neg inside]⟩

theorem Holds.appendInSteps?_eq (h : Holds location writable content file files) {data : Bytes}
    (small : (content ++ added (.append data, logAnswer writable content (.append data))).length ≤
      maxBlockSize) (position : Nat) :
    ∃ moved, file.appendInSteps? files position data =
      some ((file.append files data).1, (file.append files data).2.1,
        (file.append files data).2.2, moved) := by
  obtain ⟨rfl, rfl, here, whole⟩ := h
  have bounds : maxBlockSize < addressLimit := by decide
  cases data with
  | nil => exact ⟨position, rfl⟩
  | cons byte rest =>
    cases mode : file.writable with
    | false => exact ⟨content.length, by simp [appendInSteps?, OpenFile.append, mode, here]⟩
    | true =>
      have fits : file.size + (byte :: rest).length < addressLimit := by
        have := small
        simp only [logAnswer, mode, or_true, if_true, added, List.length_append] at this
        omega
      refine ⟨(content ++ byte :: rest).length, ?_⟩
      simp only [appendInSteps?, OpenFile.append, mode, here, writeFrom_end, Address.sum?,
        if_pos fits]
      rfl

theorem Holds.serveInSteps?_eq (h : Holds location writable content file files)
    (request : Request)
    (small : (content ++ added (request, logAnswer writable content request)).length ≤
      maxBlockSize) (position : Nat) :
    ∃ moved, file.serveInSteps? files position request =
      some ((file.serve files request).1, (file.serve files request).2.1,
        (file.serve files request).2.2, moved) := by
  cases request with
  | append data =>
    obtain ⟨moved, done⟩ := h.appendInSteps?_eq small position
    exact ⟨moved, by rw [serveInSteps?, done]; rfl⟩
  | readAt offset n =>
    obtain ⟨moved, done⟩ := h.readAtInSteps?_eq (by simpa [added] using small) position offset n
    exact ⟨moved, by rw [serveInSteps?, done]; rfl⟩
  | readAll =>
    obtain ⟨moved, done⟩ := h.readAtInSteps?_eq (by simpa [added] using small) position 0 file.size
    exact ⟨moved, by rw [serveInSteps?, done]; rfl⟩
  | size => exact ⟨position, rfl⟩
  | flush => exact ⟨position, rfl⟩

theorem Holds.serveAllInSteps?_eq (h : Holds location writable content file files)
    {events : List Event} (spared : ∀ event ∈ events, event.Spares location)
    {trace : Trace} {last : OpenFile} {after : FileSystem}
    (ran : file.serveAll files events = (trace, last, after))
    (small : (content ++ accepted trace).length ≤ maxBlockSize) (position : Nat) :
    ∃ moved, file.serveAllInSteps? files position events = some (trace, last, after, moved) := by
  induction events generalizing content file files trace position with
  | nil =>
    cases ran
    exact ⟨position, rfl⟩
  | cons event events ih =>
    obtain ⟨kept, others⟩ := List.forall_mem_cons.mp spared
    cases event with
    | ask request =>
      obtain ⟨next, between, served, held⟩ := h.serve request
      rw [OpenFile.serveAll, served] at ran
      cases ran
      -- The content only grows, so what fits at the end fits now.
      have small : ((content ++ added (request, logAnswer writable content request)) ++
          accepted (next.serveAll between events).1).length ≤ maxBlockSize := by
        simpa using small
      obtain ⟨moved, step⟩ :=
        h.serveInSteps?_eq request (Nat.le_trans (by simp) small) position
      obtain ⟨final, run⟩ := ih held others rfl small moved
      exact ⟨final, by simp [serveAllInSteps?, step, served, run]⟩
    | elsewhere change =>
      exact ih { h with here := kept files content h.here } others ran small position

/-! ## From the opening on -/

/-- A new file begins empty, and an existing one is only read. -/
inductive Begun (before : FileSystem) (path : String) :
    Bool → Bytes → OpenFile → FileSystem → Prop
  | created {file : OpenFile} {files : FileSystem} :
    create before path = (.ok file, files) → Begun before path true [] file files
  | opened {content : Bytes} {file : OpenFile} :
    before.content? path = some content → openExisting before path = .ok file →
      Begun before path false content file before

theorem Begun.lookup (begun : Begun before path writable content file files) :
    files.lookup path = .ok (file.location, .file content) := by
  cases begun with
  | created made =>
    obtain ⟨_, -, truncated, -⟩ := truncate_of_create made
    exact FileSystem.lookup_truncate truncated
  | opened shown opened =>
    obtain ⟨place, found⟩ := FileSystem.content?_eq_some_iff.mp shown
    cases (openExisting_of_lookup found).symm.trans opened
    exact found

theorem Begun.holds (begun : Begun before path writable content file files) :
    Holds file.location writable content file files := by
  have here := (FileSystem.lookup_eq_ok_iff.mp begun.lookup).2.2
  cases begun with
  | created made =>
    obtain ⟨_, -, -, mode⟩ := truncate_of_create made
    exact ⟨rfl, mode, here, size_of_create made⟩
  | opened shown opened =>
    obtain ⟨place, found⟩ := FileSystem.content?_eq_some_iff.mp shown
    cases (openExisting_of_lookup found).symm.trans opened
    exact ⟨rfl, rfl, here, rfl⟩

/-- A spared file holds what it began with and what was accepted, and answers from that. -/
theorem serveAll_log (begun : Begun before path writable content file files)
    (events : List Event) (spared : ∀ event ∈ events, event.Spares file.location) :
    files.lookup path = .ok (file.location, .file content) ∧
    ∃ trace last after, file.serveAll files events = (trace, last, after) ∧
      trace.map Prod.fst = requests events ∧
      after.node? file.location = some (.file (content ++ accepted trace)) ∧
      last.size = (content ++ accepted trace).length ∧
      Answered writable content trace ∧
      (writable = false → accepted trace = []) ∧
      ((content ++ accepted trace).length ≤ maxBlockSize → ∀ position, ∃ moved,
        file.serveAllInSteps? files position events = some (trace, last, after, moved)) := by
  refine ⟨begun.lookup, ?_⟩
  obtain ⟨trace, last, after, ran, asked, answered, holds⟩ := begun.holds.serveAll events spared
  refine ⟨trace, last, after, ran, asked, holds.here, holds.whole, answered, ?_, ?_⟩
  · rintro rfl
    exact accepted_of_answered answered
  · intro small position
    exact begun.holds.serveAllInSteps?_eq spared ran small position

def staleFiles : FileSystem :=
  (FileSystem.empty ["work"]).put ["work", "OUT.DAT"] (.file [1, 2, 3])

def logEvents : List Event :=
  [.ask (.append [104, 105]), .elsewhere (·.put ["work", "LOG.DAT"] (.file [])),
    .ask (.readAt 1 1), .ask (.append []), .ask (.append [33]),
    .ask (.readAt 1 18446744073709551615), .ask .readAll]

/-- A new file takes what is appended; an existing one takes only nothing. -/
theorem serveAll_log_sample :
    (∃ file files trace last after, create staleFiles "OUT.DAT" = (.ok file, files) ∧
      file.serveAll files logEvents = (trace, last, after) ∧
      trace =
        [(.append [104, 105], .ok (.number 0)), (.readAt 1 1, .ok (.bytes [105])),
          (.append [], .ok (.number 2)), (.append [33], .ok (.number 2)),
          (.readAt 1 18446744073709551615, .error (.readPastEnd 1 18446744073709551615 3)),
          (.readAll, .ok (.bytes [104, 105, 33]))] ∧
      after.node? ["work", "OUT.DAT"] = some (.file [104, 105, 33]) ∧
      ∃ moved, file.serveAllInSteps? files 0 logEvents = some (trace, last, after, moved)) ∧
    ∃ file trace last after, openExisting staleFiles "OUT.DAT" = .ok file ∧
      file.serveAll staleFiles logEvents = (trace, last, after) ∧ accepted trace = [] ∧
      after.node? ["work", "OUT.DAT"] = some (.file [1, 2, 3]) := by
  have made : create staleFiles "OUT.DAT" =
      (.ok ⟨"OUT.DAT", ["work", "OUT.DAT"], true, 0⟩,
        staleFiles.put ["work", "OUT.DAT"] (.file [])) := rfl
  have opened : openExisting staleFiles "OUT.DAT" =
      .ok ⟨"OUT.DAT", ["work", "OUT.DAT"], false, 3⟩ := rfl
  have beside : Event.Spares ["work", "OUT.DAT"]
      (.elsewhere (·.put ["work", "LOG.DAT"] (.file []))) := Event.spares_put (by decide) _
  have spared : ∀ event ∈ logEvents, event.Spares ["work", "OUT.DAT"] := by
    simpa [logEvents, Event.Spares] using beside
  constructor
  · obtain ⟨-, trace, last, after, ran, -, here, -, -, -, steps⟩ :=
      serveAll_log (.created made) logEvents spared
    obtain rfl := congrArg Prod.fst ran
    exact ⟨_, _, _, last, after, made, ran, rfl, here, steps (by decide) 0⟩
  · obtain ⟨-, trace, last, after, ran, -, here, -, -, nothing, -⟩ :=
      serveAll_log (.opened rfl opened) logEvents spared
    rw [nothing rfl] at here
    exact ⟨_, trace, last, after, opened, ran, nothing rfl, here⟩

end RecordFile.OpenFile
