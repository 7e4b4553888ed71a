import RecordFile.Image.Spec
import RecordFile.Session.Basic

/-! # Sandboxes

A session over an empty data directory of its own. The working directory lies elsewhere.
-/

namespace RecordFile.Sandbox

def directory : Location := ["tmp", "store-data"]

def directoryPath : String := "/tmp/store-data"

/-- Where paths that are not looked up in the data directory begin. -/
def elsewhere : Location := ["tmp", "store-work"]

def files : FileSystem := (FileSystem.empty elsewhere).put directory (.directory [])

/-- Stores are looked up in the data directory, wherever the settings would look. -/
def new (settings : Settings) (destination : Bytes) : Session :=
  .new files { settings with basePath := some directoryPath } destination

def withFile? (session : Session) (name : String) (image : Bytes) : Option Session :=
  match session.files.writeFile (Path.join directoryPath name) image with
  | .ok files => some { session with files }
  | .error _ => none

def withStore? (session : Session) (name : String) (recordLength : UInt16) :
    Option (Handle × Session) :=
  match session.run (.openStore 0 name none recordLength) with
  | (.ok (.handle handle), session) => some (handle, session)
  | _ => none

def lettered? (name : String) (recordLength : UInt16) (count : Nat) (destination : Bytes) :
    Option (Handle × Session) := do
  let image ← ImageSpec.letteredImage? recordLength count
  let session ← withFile? (new {} destination) name image
  withStore? session name recordLength

end RecordFile.Sandbox
