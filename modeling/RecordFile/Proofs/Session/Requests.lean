import RecordFile.Proofs.Session.Reachable

/-! # Runs of a session

Between two calls the files may change, and each caller brings a buffer of its own.
-/

namespace RecordFile

/-- A call with the files that it finds and the buffer that it is given. -/
structure Request where
  files : FileSystem
  buffer : Bytes
  call : Call

namespace Session

def given (session : Session) (request : Request) : Session :=
  { session with files := request.files, destination := request.buffer }

def serve (session : Session) (request : Request) : Except StoreError Reply × Session :=
  (session.given request).run request.call

def serveAll (session : Session) (requests : List Request) : Session :=
  requests.foldl (fun session request => (session.serve request).2) session

@[simp] theorem serveAll_nil (session : Session) : session.serveAll [] = session := rfl

@[simp] theorem serveAll_cons (session : Session) (request : Request) (rest : List Request) :
    session.serveAll (request :: rest) = (session.serve request).2.serveAll rest := rfl

theorem transition_serve {session : Session} (ordered : session.registry.stores.IsOrdered)
    (request : Request) :
    (session.given request).Transition request.call (session.serve request).1
      (session.serve request).2 :=
  (session.given request).transition_run ordered request.call

theorem isSound_serve {session : Session} (h : session.registry.IsSound) (request : Request) :
    (session.serve request).2.registry.IsSound := by
  have found : (session.given request).registry.IsSound := h
  exact found.transition (transition_serve h.ordered request)

theorem isSound_serveAll {session : Session} (h : session.registry.IsSound)
    (requests : List Request) : (session.serveAll requests).registry.IsSound := by
  induction requests generalizing session with
  | nil => exact h
  | cons request rest ih => exact ih (isSound_serve h request)

theorem serveAll_induction {p : Session → Prop} {session : Session} {requests : List Request}
    (h : session.registry.IsSound) (start : p session)
    (step : ∀ {session request}, request ∈ requests → session.registry.IsSound → p session →
      p (session.serve request).2) : p (session.serveAll requests) := by
  induction requests generalizing session with
  | nil => exact start
  | cons request rest ih =>
    exact ih (isSound_serve h request) (step List.mem_cons_self h start)
      fun mem => step (List.mem_cons_of_mem _ mem)

theorem reachable_serveAll {session : Session} (h : session.registry.Reachable)
    (requests : List Request) : (session.serveAll requests).registry.Reachable := by
  induction requests generalizing session with
  | nil => exact h
  | cons request rest ih =>
    have found : (session.given request).registry.Reachable := h
    exact ih (found.run request.call)

end Session

end RecordFile
