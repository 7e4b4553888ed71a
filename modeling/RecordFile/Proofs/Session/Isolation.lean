import RecordFile.Proofs.Session.Failures
import RecordFile.Proofs.Session.Issuing

/-! # Stores do not see each other

What the calls on one handle answer and copy follows from the store and from these calls alone,
whatever comes between them.
-/

namespace RecordFile

/-! ## Calls on other stores -/

theorem Call.addressee?_of_request? {call : Call} {handle : Handle} {operation : Store.Operation}
    (asks : call.request? = some (handle, operation)) : call.addressee? = some handle := by
  cases call with
  | close => cases asks
  | _ => simp only [addressee?, asks, Option.map_some]

def asked (handle : Handle) (requests : List Request) : List (Call × Bytes) :=
  (requests.filter (·.call.addressee? == some handle)).map fun request =>
    (request.call, request.buffer)

theorem asked_cons_of_eq {handle : Handle} {request : Request}
    (addressed : request.call.addressee? = some handle) (rest : List Request) :
    asked handle (request :: rest) = (request.call, request.buffer) :: asked handle rest := by
  rw [asked, List.filter_cons_of_pos (by simp [addressed])]
  rfl

theorem asked_cons_of_ne {handle : Handle} {request : Request}
    (elsewhere : request.call.addressee? ≠ some handle) (rest : List Request) :
    asked handle (request :: rest) = asked handle rest := by
  rw [asked, List.filter_cons_of_neg (by simpa using elsewhere)]
  rfl

namespace Session

variable {session other : Session} {handle : Handle} {store : Store} {call : Call}

/-- An open changes no store whose handle was given out. -/
theorem store_of_transition {after : Session} {answer : Except StoreError Reply}
    (moved : session.Transition call answer after) (elsewhere : call.addressee? ≠ some handle)
    (issued : call.addressee? = none → session.registry.HasIssued handle) :
    after.registry.store handle = session.registry.store handle := by
  cases moved with
  | opened free _ =>
    refine Registry.store_withOpened_of_ne ?_ _
    rintro rfl
    exact Registry.not_hasIssued_next free (issued rfl)
  | closed _ =>
    refine Registry.store_without_of_ne ?_ _
    rintro rfl
    exact elsewhere rfl
  | served asks _ =>
    refine Registry.store_withStore_of_ne ?_ _ _
    rintro rfl
    exact elsewhere (Call.addressee?_of_request? asks)
  | passedEnd _ _ =>
    refine Registry.store_withStore_of_ne ?_ _ _
    rintro rfl
    exact elsewhere rfl
  | selected | restored | told | failed => rfl

theorem hasIssued_serve (h : session.registry.IsSound) (issued : session.registry.HasIssued handle)
    (request : Request) : (session.serve request).2.registry.HasIssued handle := by
  obtain ⟨positive, old⟩ := issued
  refine ⟨positive, ?_⟩
  cases moves_serve h request with
  | opened _ _ _ count | closed _ _ _ count | kept _ _ count => omega

/-! ## Calls on the store -/

/-- Two outcomes that are the same for whoever uses one handle. -/
structure SameFor (handle : Handle) (ran other : Except StoreError Reply × Session) : Prop where
  answer_eq : ran.1 = other.1
  destination_eq : ran.2.destination = other.2.destination
  store_eq : ran.2.registry.store handle = other.2.registry.store handle

theorem store_withStore_eq (session other : Session) (handle : Handle) (changed : Store) :
    (session.withStore handle changed).registry.store handle =
      (other.withStore handle changed).registry.store handle := by
  rw [withStore, withStore, Registry.store_withStore, Registry.store_withStore]

theorem sameFor_settle (here : session.registry.store handle = .ok store)
    (there : other.registry.store handle = .ok store)
    (buffer : session.destination = other.destination) (outcome : Except StoreError Store) :
    SameFor handle (session.settle (outcome.map (.done, session.withStore handle ·)))
      (other.settle (outcome.map (.done, other.withStore handle ·))) := by
  cases outcome with
  | error error => exact ⟨rfl, buffer, here.trans there.symm⟩
  | ok changed => exact ⟨rfl, buffer, store_withStore_eq _ _ _ _⟩

theorem positioned_eq (here : session.registry.store handle = .ok store)
    (move : Store → Status × Store) :
    session.positioned (session.registry.positionWith handle move session.destination) =
      let copied := Registry.copyOut (move store).2 (move store).1 session.destination
      (copied.1.map .status,
        { session.withStore handle (move store).2 with destination := copied.2 }) := by
  rw [Registry.positionWith, here]
  rfl

theorem sameFor_positioned (here : session.registry.store handle = .ok store)
    (there : other.registry.store handle = .ok store)
    (buffer : session.destination = other.destination) (move : Store → Status × Store) :
    SameFor handle
      (session.positioned (session.registry.positionWith handle move session.destination))
      (other.positioned (other.registry.positionWith handle move other.destination)) := by
  rw [positioned_eq here, positioned_eq there, buffer]
  exact ⟨rfl, rfl, store_withStore_eq _ _ _ _⟩

theorem sameFor_run (addressed : call.addressee? = some handle)
    (same : session.registry.store handle = other.registry.store handle)
    (buffer : session.destination = other.destination) :
    SameFor handle (session.run call) (other.run call) := by
  cases here : session.registry.store handle with
  | error error =>
    have there := same.symm.trans here
    rw [run_unknown addressed here, run_unknown addressed there]
    exact ⟨rfl, buffer, same⟩
  | ok store =>
    have there := same.symm.trans here
    cases call with
    | close number =>
      cases addressed
      rw [run_close here, run_close there]
      refine ⟨rfl, buffer, ?_⟩
      exact (Registry.store_without_self _ _).trans (Registry.store_without_self _ _).symm
    | step _ option =>
      cases option with
      | first => cases addressed; exact sameFor_positioned here there buffer Store.stepFirst
      | next => cases addressed; exact sameFor_positioned here there buffer Store.stepNext
    | lookUp _ key number option =>
      cases option
      cases addressed
      exact sameFor_positioned here there buffer (·.findEqual number key)
    | insert _ record =>
      cases addressed
      rw [run_insert here, run_insert there]
      exact sameFor_settle here there buffer _
    | update _ record =>
      cases addressed
      rw [run_update here, run_update there]
      exact sameFor_settle here there buffer _
    | seek _ key =>
      cases addressed
      rw [run_seek here, run_seek there]
      exact ⟨rfl, buffer, store_withStore_eq _ _ _ _⟩
    | onStore _ operation =>
      cases addressed
      rw [run_onStore here, run_onStore there]
      exact ⟨rfl, buffer, store_withStore_eq _ _ _ _⟩
    | _ => cases addressed

/-! ## Runs -/

/-- What the calls on one handle answer along a run, with the buffer after each. -/
def results (session : Session) (handle : Handle) :
    List Request → List (Except StoreError Reply × Bytes)
  | [] => []
  | request :: rest =>
    let later := (session.serve request).2.results handle rest
    if request.call.addressee? = some handle then
      ((session.serve request).1, (session.serve request).2.destination) :: later
    else later

theorem results_cons_of_eq {request : Request}
    (addressed : request.call.addressee? = some handle) (session : Session)
    (rest : List Request) :
    session.results handle (request :: rest) =
      ((session.serve request).1, (session.serve request).2.destination) ::
        (session.serve request).2.results handle rest := by
  rw [results, if_pos addressed]

theorem results_cons_of_ne {request : Request}
    (elsewhere : request.call.addressee? ≠ some handle) (session : Session)
    (rest : List Request) :
    session.results handle (request :: rest) =
      (session.serve request).2.results handle rest := by
  rw [results, if_neg elsewhere]

/-- Two sessions that hold the same under a handle given out in both. -/
structure AlikeAt (handle : Handle) (session other : Session) : Prop where
  store_eq : session.registry.store handle = other.registry.store handle
  sound : session.registry.IsSound
  soundOther : other.registry.IsSound
  issued : session.registry.HasIssued handle
  issuedOther : other.registry.HasIssued handle

theorem AlikeAt.serve_elsewhere (h : AlikeAt handle session other) {request : Request}
    (elsewhere : request.call.addressee? ≠ some handle) :
    AlikeAt handle (session.serve request).2 other where
  store_eq := by
    have kept := store_of_transition (transition_serve h.sound.ordered request) elsewhere
      fun _ => h.issued
    exact kept.trans h.store_eq
  sound := isSound_serve h.sound request
  soundOther := h.soundOther
  issued := hasIssued_serve h.sound h.issued request
  issuedOther := h.issuedOther

theorem sameFor_serve {request otherRequest : Request}
    (same : session.registry.store handle = other.registry.store handle)
    (addressed : request.call.addressee? = some handle)
    (call : otherRequest.call = request.call) (buffer : otherRequest.buffer = request.buffer) :
    SameFor handle (session.serve request) (other.serve otherRequest) := by
  rw [serve, serve, call]
  have found : (session.given request).registry.store handle =
      (other.given otherRequest).registry.store handle := same
  exact sameFor_run addressed found buffer.symm

def bare (asked : Call × Bytes) : Request := ⟨.empty [], asked.2, asked.1⟩

/-- What a run shows of a handle depends on the calls on it only. -/
theorem AlikeAt.results_eq (h : AlikeAt handle session other) (requests : List Request) :
    session.results handle requests = other.results handle ((asked handle requests).map bare) ∧
      (session.serveAll requests).registry.store handle =
        (other.serveAll ((asked handle requests).map bare)).registry.store handle := by
  induction requests generalizing session other with
  | nil => exact ⟨rfl, h.store_eq⟩
  | cons request rest ih =>
    by_cases addressed : request.call.addressee? = some handle
    · let alone := bare (request.call, request.buffer)
      have same : SameFor handle (session.serve request) (other.serve alone) :=
        sameFor_serve h.store_eq addressed rfl rfl
      have alike : AlikeAt handle (session.serve request).2 (other.serve alone).2 := {
        store_eq := same.store_eq
        sound := isSound_serve h.sound _
        soundOther := isSound_serve h.soundOther _
        issued := hasIssued_serve h.sound h.issued _
        issuedOther := hasIssued_serve h.soundOther h.issuedOther _ }
      obtain ⟨shown, stored⟩ := ih alike
      have asksAlone : alone.call.addressee? = some handle := addressed
      rw [asked_cons_of_eq addressed, List.map_cons, results_cons_of_eq addressed,
        results_cons_of_eq asksAlone, shown, same.answer_eq, same.destination_eq]
      exact ⟨rfl, stored⟩
    · -- The request is dropped on the other side, and the sessions stay alike.
      rw [asked_cons_of_ne addressed, results_cons_of_ne addressed]
      exact ih (h.serve_elsewhere addressed)

end Session

/-! ## Two calls in either order -/

theorem Selection.forget_comm (selection : Selection) (handle other : Handle) :
    (selection.forget handle).forget other = (selection.forget other).forget handle := by
  simp only [forget, Option.filter_filter, Bool.and_comm]

/-- Closing an open store clears its handle. -/
def Call.settles (call : Call) (isOpen : Bool) (number : Nat) (selection : Selection) :
    Selection :=
  match call with
  | .close other handle => if isOpen ∧ number = other then selection.forget handle else selection
  | _ => selection

theorem Call.settles_comm (call other : Call) (isOpen otherOpen : Bool) (number : Nat)
    (selection : Selection) :
    call.settles isOpen number (other.settles otherOpen number selection) =
      other.settles otherOpen number (call.settles isOpen number selection) := by
  cases call with
  | close first handle =>
    cases other with
    | close second elsewhere =>
      dsimp only [settles]
      by_cases clears : isOpen ∧ number = first
      · by_cases clearsOther : otherOpen ∧ number = second
        · simp only [if_pos clears, if_pos clearsOther, Selection.forget_comm]
        · simp only [if_neg clearsOther]
      · simp only [if_neg clears]
    | _ => rfl
  | _ => rfl

theorem Registry.eq_of_store {registry other : Registry} (h : registry.IsSound)
    (h' : other.IsSound) (settings : registry.settings = other.settings)
    (nextHandle : registry.nextHandle = other.nextHandle)
    (stores : ∀ handle, registry.store handle = other.store handle) : registry = other := by
  have table : registry.stores = other.stores := by
    refine HandleTable.eq_of_get? h.ordered h'.ordered fun handle => Option.ext fun store => ?_
    rw [← store_eq_ok_iff, ← store_eq_ok_iff, stores handle]
  cases registry
  cases other
  cases settings
  cases nextHandle
  cases table
  rfl

namespace Session

variable {session : Session} {handle elsewhere : Handle} {request other : Request}

theorem nextHandle_of_transition {after : Session} {call : Call}
    {answer : Except StoreError Reply} (moved : session.Transition call answer after)
    (addressed : call.addressee? = some handle) :
    after.registry.nextHandle = session.registry.nextHandle := by
  cases moved with
  | opened => cases addressed
  | _ => rfl

theorem selections_of_transition {after : Session} {call : Call}
    {answer : Except StoreError Reply} (moved : session.Transition call answer after)
    (addressed : call.addressee? = some handle) (stays : ∀ number, call ≠ .close number handle) :
    after.selections = session.selections := by
  cases moved with
  | opened | selected | restored | told => cases addressed
  | @closed number =>
    cases addressed
    exact absurd rfl (stays number)
  | served | passedEnd | failed => rfl

theorem selections_serve (h : session.registry.IsSound)
    (addressed : request.call.addressee? = some handle) (number : Nat) :
    (session.serve request).2.selections number =
      request.call.settles (session.registry.store handle).isOk number
        (session.selections number) := by
  have moved := transition_serve h.ordered request
  rcases request with ⟨files, buffer, call⟩
  cases call with
  | close closing =>
    cases addressed
    cases here : session.registry.store handle with
    | error error =>
      have ran : session.serve ⟨files, buffer, .close closing handle⟩ = (_, _) :=
        run_unknown rfl here
      rw [ran]
      rfl
    | ok store =>
      have found : (session.given ⟨files, buffer, .close closing handle⟩).registry.store handle =
        .ok store := here
      rw [serve, run_close found closing]
      by_cases same : number = closing
      · subst same
        simp [withSelection, Call.settles, Except.isOk, Except.toBool, given]
      · simp [withSelection, Call.settles, same, given]
  | _ =>
    have kept := selections_of_transition moved addressed nofun
    rw [kept]
    rfl

/-- Either order of two requests gives the same answers, buffers, registry and selections. -/
structure Commute (session : Session) (request other : Request) : Prop where
  answer_eq : (session.serve request).1 = ((session.serve other).2.serve request).1
  otherAnswer_eq : (session.serve other).1 = ((session.serve request).2.serve other).1
  destination_eq :
    (session.serve request).2.destination = ((session.serve other).2.serve request).2.destination
  otherDestination_eq :
    (session.serve other).2.destination = ((session.serve request).2.serve other).2.destination
  registry_eq :
    ((session.serve request).2.serve other).2.registry =
      ((session.serve other).2.serve request).2.registry
  selections_eq :
    ((session.serve request).2.serve other).2.selections =
      ((session.serve other).2.serve request).2.selections

theorem store_serve_of_ne (h : session.registry.IsSound)
    (addressed : request.call.addressee? = some elsewhere) (apart : handle ≠ elsewhere) :
    (session.serve request).2.registry.store handle = session.registry.store handle := by
  have notHere : request.call.addressee? ≠ some handle := by
    rw [addressed]
    exact fun same => apart (Option.some.inj same).symm
  have kept := store_of_transition (transition_serve h.ordered request) notHere
    fun none => by cases none.symm.trans addressed
  exact kept

theorem registry_serve (h : session.registry.IsSound)
    (addressed : request.call.addressee? = some handle) :
    (session.serve request).2.registry.settings = session.registry.settings ∧
      (session.serve request).2.registry.nextHandle = session.registry.nextHandle := by
  have moved := transition_serve h.ordered request
  have settings := settings_of_transition moved
  have nextHandle := nextHandle_of_transition moved addressed
  exact ⟨settings, nextHandle⟩

section Two

variable (h : session.registry.IsSound) (addressed : request.call.addressee? = some handle)
  (otherAddressed : other.call.addressee? = some elsewhere) (apart : handle ≠ elsewhere)

include h addressed otherAddressed apart

theorem sameFor_serve_serve :
    SameFor handle (session.serve request) ((session.serve other).2.serve request) :=
  sameFor_serve (store_serve_of_ne h otherAddressed apart).symm addressed rfl rfl

theorem store_serve_comm (third : Handle) :
    ((session.serve request).2.serve other).2.registry.store third =
      ((session.serve other).2.serve request).2.registry.store third := by
  have sound := isSound_serve h request
  have soundOther := isSound_serve h other
  by_cases isFirst : third = handle
  · subst isFirst
    rw [store_serve_of_ne sound otherAddressed apart]
    exact (sameFor_serve_serve h addressed otherAddressed apart).store_eq
  · rw [store_serve_of_ne soundOther addressed isFirst]
    by_cases isSecond : third = elsewhere
    · subst isSecond
      exact (sameFor_serve_serve h otherAddressed addressed apart.symm).store_eq.symm
    · rw [store_serve_of_ne sound otherAddressed isSecond, store_serve_of_ne h addressed isFirst,
        store_serve_of_ne h otherAddressed isSecond]

theorem registry_serve_comm :
    ((session.serve request).2.serve other).2.registry =
      ((session.serve other).2.serve request).2.registry := by
  have sound := isSound_serve h request
  have soundOther := isSound_serve h other
  obtain ⟨settings, nextHandle⟩ := registry_serve h addressed
  obtain ⟨otherSettings, otherNextHandle⟩ := registry_serve h otherAddressed
  obtain ⟨lastSettings, lastNextHandle⟩ := registry_serve sound otherAddressed
  obtain ⟨otherLastSettings, otherLastNextHandle⟩ := registry_serve soundOther addressed
  refine Registry.eq_of_store (isSound_serve sound other) (isSound_serve soundOther request) ?_ ?_
    (store_serve_comm h addressed otherAddressed apart)
  · rw [lastSettings, settings, otherLastSettings, otherSettings]
  · rw [lastNextHandle, nextHandle, otherLastNextHandle, otherNextHandle]

theorem selections_serve_comm :
    ((session.serve request).2.serve other).2.selections =
      ((session.serve other).2.serve request).2.selections := by
  have sound := isSound_serve h request
  have soundOther := isSound_serve h other
  funext number
  rw [selections_serve sound otherAddressed, selections_serve h addressed,
    selections_serve soundOther addressed, selections_serve h otherAddressed,
    store_serve_of_ne h otherAddressed apart, store_serve_of_ne h addressed apart.symm]
  exact Call.settles_comm _ _ _ _ _ _

theorem commute : Commute session request other := by
  have same := sameFor_serve_serve h addressed otherAddressed apart
  have otherSame := sameFor_serve_serve h otherAddressed addressed apart.symm
  exact {
    answer_eq := same.answer_eq
    otherAnswer_eq := otherSame.answer_eq
    destination_eq := same.destination_eq
    otherDestination_eq := otherSame.destination_eq
    registry_eq := registry_serve_comm h addressed otherAddressed apart
    selections_eq := selections_serve_comm h addressed otherAddressed apart }

end Two

/-! ## Isolation -/

theorem AlikeAt.of_store {first second : Session} {store : Store}
    (sound : first.registry.IsSound) (soundOther : second.registry.IsSound)
    (here : first.registry.store handle = .ok store)
    (there : second.registry.store handle = .ok store) : AlikeAt handle first second where
  store_eq := here.trans there.symm
  sound := sound
  soundOther := soundOther
  issued := sound.issued here
  issuedOther := soundOther.issued there

theorem answer_select (session : Session) (number : Nat) (handle : Handle) :
    (session.run (.select number handle)).1 =
      (session.registry.store handle).map fun _ => .done := by
  rw [run, Registry.select]
  cases session.registry.store handle <;> rfl

/-- Runs that ask the same of the same store show the same. -/
theorem results_determined {first second : Session} (reachable : first.registry.Reachable)
    (reachableOther : second.registry.Reachable) :
    (∀ handle store requests others,
      first.registry.store handle = .ok store → second.registry.store handle = .ok store →
      asked handle requests = asked handle others →
      first.results handle requests = second.results handle others ∧
      (first.serveAll requests).registry.store handle =
        (second.serveAll others).registry.store handle ∧
      ∀ number, ((first.serveAll requests).run (.select number handle)).1 =
        ((second.serveAll others).run (.select number handle)).1) ∧
    ∀ handle elsewhere request other, handle ≠ elsewhere →
      request.call.addressee? = some handle → other.call.addressee? = some elsewhere →
      Commute first request other := by
  have sound := reachable.isSound
  have soundOther := reachableOther.isSound
  constructor
  · -- Both runs are compared with the same calls served alone on the second session.
    intro handle store requests others here there same
    have alike := AlikeAt.of_store sound soundOther here there
    have alikeSelf := AlikeAt.of_store soundOther soundOther there there
    obtain ⟨shown, stored⟩ := alike.results_eq requests
    obtain ⟨otherShown, otherStored⟩ := alikeSelf.results_eq others
    rw [same] at shown stored
    have stores := stored.trans otherStored.symm
    refine ⟨shown.trans otherShown.symm, stores, fun number => ?_⟩
    rw [answer_select, answer_select, stores]
  · intro handle elsewhere request other apart addressed otherAddressed
    exact commute sound addressed otherAddressed apart

def sampleBusy : Session := sampleOpened.serveAll [⟨.empty [], [], .openStore 1 "OTHER" none 3⟩]

def sampleCalls : List Request :=
  [⟨.empty [], [], .insert ⟨1⟩ [65, 66]⟩, ⟨.empty [], [7], .step ⟨1⟩ .first⟩]

def sampleInterleaved : List Request :=
  [⟨.empty [], [], .insert ⟨2⟩ [1, 2, 3]⟩, ⟨.empty [], [], .insert ⟨1⟩ [65, 66]⟩,
    ⟨.empty [], [], .close 0 ⟨2⟩⟩, ⟨.empty [], [7], .step ⟨1⟩ .first⟩,
    ⟨.empty [], [], .select 0 ⟨2⟩⟩]

theorem results_determined_sample :
    sampleBusy.results ⟨1⟩ sampleInterleaved = sampleOpened.results ⟨1⟩ sampleCalls ∧
      sampleOpened.results ⟨1⟩ sampleCalls =
        [(.ok .done, []), (.ok (.status .found), [65, 66])] ∧
      Commute sampleBusy ⟨.empty [], [], .insert ⟨1⟩ [65, 66]⟩ ⟨.empty [], [], .close 0 ⟨2⟩⟩ := by
  have reachable : sampleBusy.registry.Reachable := reachable_serveAll reachable_sampleOpened _
  obtain ⟨determined, commutes⟩ := results_determined reachable reachable_sampleOpened
  obtain ⟨store, here⟩ : ∃ store, sampleOpened.registry.store ⟨1⟩ = .ok store := ⟨_, rfl⟩
  have there : sampleBusy.registry.store ⟨1⟩ = .ok store := here
  refine ⟨?_, rfl, ?_⟩
  · exact (determined ⟨1⟩ store sampleInterleaved sampleCalls there here rfl).1
  · exact commutes ⟨1⟩ ⟨2⟩ _ _ (by decide) rfl rfl

end Session

end RecordFile
