import RecordFile.Session.Handle

/-! # The current store

A selection has an active store and remembers one that was active before.
-/

namespace RecordFile

structure Selection where
  active : Option Handle := none
  previous : Option Handle := none
  deriving DecidableEq, Repr

namespace Selection

/-- Makes a store active and remembers the one that was. -/
def select (selection : Selection) (handle : Handle) : Selection where
  active := some handle
  previous := if selection.active.isSome then selection.active else selection.previous

/-- Without a remembered store nothing changes. -/
def restore (selection : Selection) : Selection :=
  if selection.previous.isSome then { selection with active := selection.previous } else selection

/-- What is remembered stays. -/
def activate (selection : Selection) (handle : Handle) : Selection :=
  { selection with active := some handle }

/-- Clears a handle from both places. -/
def forget (selection : Selection) (handle : Handle) : Selection where
  active := selection.active.filter (· ≠ handle)
  previous := selection.previous.filter (· ≠ handle)

end Selection

end RecordFile
