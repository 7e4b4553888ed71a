import Mathlib.Data.List.Induction
import RecordFile.Proofs.Session.Current

/-! # The store that a selection goes back to

A selection remembers the store that was active when one was last selected over it. Opening,
restoring and failing leave the memory alone.
-/

namespace RecordFile

/-! ## What happens to a selection -/

namespace Exchange

variable {exchange : Exchange} {number : Nat} {handle : Handle}

def Succeeds (exchange : Exchange) : Prop := ∃ reply, exchange.answer = .ok reply

/-- It failed, or it neither selected a store nor closed this one. -/
def PassesBy (exchange : Exchange) (number : Nat) (handle : Handle) : Prop :=
  exchange.Succeeds →
    (∀ next, exchange.call ≠ .select number next) ∧ exchange.call ≠ .close number handle

theorem not_passesBy_iff : ¬exchange.PassesBy number handle ↔ exchange.Succeeds ∧
    ((∃ next, exchange.call = .select number next) ∨ exchange.call = .close number handle) := by
  simp only [PassesBy, Classical.not_imp, not_and_or, not_forall, not_not]

end Exchange

/-- An exchange, and what was active in a selection before it. -/
structure Moment extends Exchange where
  active : Option Handle

namespace Moment

/-- A store was selected over this one. -/
def Leaves (moment : Moment) (number : Nat) (handle : Handle) : Prop :=
  moment.Succeeds ∧ (∃ next, moment.call = .select number next) ∧ moment.active = some handle

def Closes (moment : Moment) (number : Nat) (handle : Handle) : Prop :=
  moment.Succeeds ∧ moment.call = .close number handle

/-- No store was selected over another, and this one was not closed. -/
def Spares (moment : Moment) (number : Nat) (handle : Handle) : Prop :=
  (∀ other, ¬moment.Leaves number other) ∧ ¬moment.Closes number handle

variable {moment : Moment} {number : Nat} {handle : Handle}

theorem spares_of_passesBy (passes : moment.PassesBy number handle) :
    moment.Spares number handle := by
  constructor
  · rintro other ⟨succeeded, ⟨next, selects⟩, -⟩
    exact (passes succeeded).1 next selects
  · rintro ⟨succeeded, closes⟩
    exact (passes succeeded).2 closes

end Moment

/-- The last store that was selected over is this one, and it was not closed since. -/
def LastLeft (number : Nat) (handle : Handle) (past : List Moment) : Prop :=
  ∃ early moment late, past = early ++ moment :: late ∧ moment.Leaves number handle ∧
    ∀ later ∈ late, later.Spares number handle

section LastLeft

variable {number : Nat} {handle : Handle} {past : List Moment} {moment : Moment}

theorem not_lastLeft_nil : ¬LastLeft number handle [] := by
  rintro ⟨early, moment, late, split, -⟩
  simp at split

theorem lastLeft_append_singleton_iff : LastLeft number handle (past ++ [moment]) ↔
    moment.Leaves number handle ∨ moment.Spares number handle ∧ LastLeft number handle past := by
  constructor
  · -- The moment that left the store is the last one, or it lies in the past before that.
    rintro ⟨early, left, late, split, leaves, spares⟩
    rcases List.eq_nil_or_concat late with rfl | ⟨late, last, rfl⟩
    · obtain ⟨-, same⟩ := List.append_inj' split rfl
      cases same
      exact .inl leaves
    · rw [List.concat_eq_append, ← List.cons_append, ← List.append_assoc] at split
      obtain ⟨rfl, same⟩ := List.append_inj' split rfl
      cases same
      rw [List.concat_eq_append, List.forall_mem_append, List.forall_mem_singleton] at spares
      exact .inr ⟨spares.2, early, left, late, rfl, leaves, spares.1⟩
  · rintro (leaves | ⟨spared, early, left, late, rfl, leaves, spares⟩)
    · exact ⟨past, moment, [], rfl, leaves, by simp⟩
    · refine ⟨early, left, late ++ [moment], by simp, leaves, ?_⟩
      rw [List.forall_mem_append, List.forall_mem_singleton]
      exact ⟨spares, spared⟩

end LastLeft

/-! ## The remembered store -/

namespace Selection

variable {selection : Selection} {handle other : Handle}

@[simp] theorem previous_activate (selection : Selection) (handle : Handle) :
    (selection.activate handle).previous = selection.previous := rfl

@[simp] theorem previous_restore (selection : Selection) :
    selection.restore.previous = selection.previous := by
  unfold restore
  split <;> rfl

theorem active_restore (remembered : selection.previous = some handle) :
    selection.restore.active = some handle := by
  simp [restore, remembered]

@[simp] theorem restore_restore (selection : Selection) :
    selection.restore.restore = selection.restore := by
  rcases selection with ⟨active, _ | previous⟩ <;> rfl

theorem previous_select_eq_some_iff : (selection.select other).previous = some handle ↔
    selection.active = some handle ∨
      selection.active = none ∧ selection.previous = some handle := by
  unfold select
  cases selection.active <;> simp

theorem previous_forget_eq_some_iff : (selection.forget other).previous = some handle ↔
    handle ≠ other ∧ selection.previous = some handle := by
  simp [forget, Option.filter_eq_some_iff, and_comm]

end Selection

namespace Session

variable {session : Session} {number : Nat} {handle : Handle} {request : Request}
  {requests : List Request}

/-! ## One call -/

theorem Transition.previous_eq {call : Call} {answer : Except StoreError Reply} {after : Session}
    (moved : session.Transition call answer after)
    (passes : ∀ handle, Exchange.PassesBy ⟨call, answer⟩ number handle) :
    (after.selections number).previous = (session.selections number).previous := by
  cases moved with
  | opened | restored =>
    rw [selections_withSelection]
    split <;> simp [*]
  | @closed other handle =>
    rw [selections_withSelection, if_neg]
    rintro rfl
    exact (passes handle ⟨_, rfl⟩).2 rfl
  | @selected other handle =>
    rw [selections_withSelection, if_neg]
    rintro rfl
    exact (passes handle ⟨_, rfl⟩).1 handle rfl
  | told | served | passedEnd | failed => rfl

theorem Transition.selections_select {next : Handle} {reply : Reply} {after : Session}
    (moved : session.Transition (.select number next) (.ok reply) after) :
    after.selections number = (session.selections number).select next := by
  cases moved with
  | selected => simp [selections_withSelection]
  | served asks => cases asks

theorem Transition.selections_close {closed : Handle} {reply : Reply} {after : Session}
    (moved : session.Transition (.close number closed) (.ok reply) after) :
    after.selections number = (session.selections number).forget closed := by
  cases moved with
  | closed => simp [selections_withSelection]
  | served asks => cases asks

theorem Transition.previous_eq_some_iff {call : Call} {answer : Except StoreError Reply}
    {after : Session} (moved : session.Transition call answer after) :
    let moment : Moment := ⟨⟨call, answer⟩, (session.selections number).active⟩
    (after.selections number).previous = some handle ↔
      moment.Leaves number handle ∨
        moment.Spares number handle ∧ (session.selections number).previous = some handle := by
  intro moment
  by_cases passes : ∀ other, moment.PassesBy number other
  · have spared := Moment.spares_of_passesBy (passes handle)
    rw [moved.previous_eq passes]
    simp [spared, spared.1]
  · obtain ⟨other, touches⟩ := not_forall.mp passes
    obtain ⟨⟨reply, rfl⟩, ⟨next, rfl⟩ | rfl⟩ := Exchange.not_passesBy_iff.mp touches
    · rw [moved.selections_select, Selection.previous_select_eq_some_iff]
      simp [moment, Moment.Spares, Moment.Leaves, Moment.Closes, Exchange.Succeeds,
        Option.eq_none_iff_forall_ne_some]
    · rw [moved.selections_close, Selection.previous_forget_eq_some_iff]
      simp [moment, Moment.Spares, Moment.Leaves, Moment.Closes, Exchange.Succeeds, eq_comm]

def moment (session : Session) (number : Nat) (request : Request) : Moment where
  call := request.call
  answer := (session.serve request).1
  active := (session.selections number).active

theorem previous_serve (h : session.registry.IsSound)
    (passes : ∀ handle, (session.moment number request).PassesBy number handle) :
    ((session.serve request).2.selections number).previous =
      (session.selections number).previous :=
  (transition_serve h.ordered request).previous_eq passes

theorem previous_serve_eq_some_iff (h : session.registry.IsSound) :
    ((session.serve request).2.selections number).previous = some handle ↔
      (session.moment number request).Leaves number handle ∨
        (session.moment number request).Spares number handle ∧
          (session.selections number).previous = some handle :=
  (transition_serve h.ordered request).previous_eq_some_iff

/-! ## Runs -/

def moments (session : Session) (number : Nat) : List Request → List Moment
  | [] => []
  | request :: rest =>
    session.moment number request :: (session.serve request).2.moments number rest

theorem moments_append (session : Session) (number : Nat) (first second : List Request) :
    session.moments number (first ++ second) =
      session.moments number first ++ (session.serveAll first).moments number second := by
  induction first generalizing session with
  | nil => rfl
  | cons request rest ih => simp [moments, ih]

theorem map_moments (session : Session) (number : Nat) (requests : List Request) :
    (session.moments number requests).map Moment.toExchange = session.exchanges requests := by
  induction requests generalizing session with
  | nil => rfl
  | cons request rest ih => simp [moments, exchanges, moment, ih]

theorem previous_serveAll_eq_some_iff (h : session.registry.IsSound) (requests : List Request) :
    ((session.serveAll requests).selections number).previous = some handle ↔
      LastLeft number handle (session.moments number requests) ∨
        (∀ moment ∈ session.moments number requests, moment.Spares number handle) ∧
          (session.selections number).previous = some handle := by
  -- The latest request decides first, so the induction takes it off the end.
  induction requests using List.reverseRecOn with
  | nil => simp [moments, not_lastLeft_nil]
  | append_singleton requests request ih =>
    rw [serveAll_append, serveAll_cons, serveAll_nil, moments_append,
      previous_serve_eq_some_iff (isSound_serveAll h requests), ih]
    simp only [moments, lastLeft_append_singleton_iff, List.forall_mem_append,
      List.forall_mem_singleton]
    tauto

theorem previous_serveAll (h : session.registry.IsSound)
    (remembered : (session.selections number).previous = some handle)
    (pass : ∀ exchange ∈ session.exchanges requests, exchange.PassesBy number handle) :
    ((session.serveAll requests).selections number).previous = some handle := by
  rw [← map_moments session number, List.forall_mem_map] at pass
  rw [previous_serveAll_eq_some_iff h]
  exact .inr ⟨fun moment mem => Moment.spares_of_passesBy (pass moment mem), remembered⟩

/-! ## Going back -/

theorem serve_restore (asks : request.call = .restore number) :
    (session.serve request).2 =
      (session.given request).withSelection number (session.selections number).restore := by
  unfold serve
  rw [asks]
  rfl

theorem active_serve_restore (asks : request.call = .restore number)
    (remembered : (session.selections number).previous = some handle) :
    ((session.serve request).2.selections number).active = some handle := by
  rw [serve_restore asks, selections_withSelection, if_pos rfl,
    Selection.active_restore remembered]

theorem restore_serve_restore (asks : request.call = .restore number) :
    ((session.serve request).2.selections number).restore =
      (session.serve request).2.selections number := by
  rw [serve_restore asks, selections_withSelection, if_pos rfl, Selection.restore_restore]

theorem serve_restored (asks : request.call = .restore number)
    (restored : (session.selections number).restore = session.selections number) :
    (session.serve request).2.selections = session.selections ∧
      (session.serve request).2.registry = session.registry := by
  rw [serve_restore asks, restored]
  refine ⟨funext fun other => ?_, rfl⟩
  rw [selections_withSelection]
  split
  · next same => rw [same]
  · rfl

theorem serveAll_restored
    (ask : ∀ request ∈ requests, request.call = .restore number)
    (restored : (session.selections number).restore = session.selections number) :
    (session.serveAll requests).selections = session.selections ∧
      (session.serveAll requests).registry = session.registry := by
  induction requests generalizing session with
  | nil => exact ⟨rfl, rfl⟩
  | cons request rest ih =>
    rw [List.forall_mem_cons] at ask
    obtain ⟨selections, registry⟩ := serve_restored ask.1 restored
    rw [serveAll_cons, ← selections, ← registry]
    rw [← selections] at restored
    exact ih ask.2 restored

/-- The store remembered is the last one that was selected over, until it is closed. -/
theorem previous_run (reachable : session.registry.Reachable)
    (empty : (session.selections number).previous = none) (requests : List Request) :
    let last := session.serveAll requests
    (∀ handle, (last.selections number).previous = some handle ↔
      LastLeft number handle (session.moments number requests)) ∧
    (∀ request, (∀ handle, (last.moment number request).PassesBy number handle) →
      ((last.serve request).2.selections number).previous = (last.selections number).previous) ∧
    ∀ select handle, (last.moment number select).Leaves number handle →
      ∀ between, (∀ exchange ∈ (last.serve select).2.exchanges between,
          exchange.PassesBy number handle) →
        ∀ restore, restore.call = .restore number →
          let restored := (((last.serve select).2.serveAll between).serve restore).2
          (restored.selections number).active = some handle ∧
            ∀ again, (∀ request ∈ again, request.call = .restore number) →
              (restored.serveAll again).selections = restored.selections ∧
                (restored.serveAll again).registry = restored.registry := by
  intro last
  have sound : session.registry.IsSound := reachable.isSound
  have soundLast : last.registry.IsSound := isSound_serveAll sound requests
  refine ⟨fun handle => ?_, fun request => previous_serve soundLast, ?_⟩
  · simp [last, previous_serveAll_eq_some_iff sound, empty]
  · -- What was left is remembered, and nothing in between changes that.
    intro select handle leaves between pass restore asks restored
    have left : ((last.serve select).2.selections number).previous = some handle :=
      (previous_serve_eq_some_iff soundLast).mpr (.inl leaves)
    have remembered := previous_serveAll (isSound_serve soundLast select) left pass
    exact ⟨active_serve_restore asks remembered, fun again ask =>
      serveAll_restored ask (restore_serve_restore asks)⟩

def sampleOpens : List Request :=
  [⟨.empty [], [], .openStore 0 "A" none 2⟩, ⟨.empty [], [], .openStore 0 "B" none 2⟩]

def sampleTwoOpened : Session := (Session.new (.empty []) {} []).serveAll sampleOpens

def sampleOver : Request := ⟨.empty [], [], .select 0 ⟨1⟩⟩

def sampleBetween : List Request :=
  [⟨.empty [], [], .openStore 0 "C" none 2⟩, ⟨.empty [], [], .select 0 ⟨9⟩⟩,
    ⟨.empty [], [], .close 0 ⟨1⟩⟩]

def sampleBack : Request := ⟨.empty [], [], .restore 0⟩

theorem previous_run_sample :
    let session := Session.new (.empty []) {} []
    let left := (sampleTwoOpened.serve sampleOver).2
    let between := left.serveAll sampleBetween
    let restored := (between.serve sampleBack).2
    session.registry.Reachable ∧ (session.selections 0).previous = none ∧
      LastLeft 0 ⟨2⟩ (session.moments 0 (sampleOpens ++ [sampleOver])) ∧
      (sampleTwoOpened.moment 0 sampleOver).Leaves 0 ⟨2⟩ ∧
      (∀ exchange ∈ left.exchanges sampleBetween, exchange.PassesBy 0 ⟨2⟩) ∧
      (between.selections 0).active = some ⟨3⟩ ∧ (restored.selections 0).active = some ⟨2⟩ ∧
      (restored.serveAll [sampleBack, sampleBack]).selections = restored.selections := by
  have reachable : (Session.new (.empty []) {} []).registry.Reachable := .new _
  have leaves : (sampleTwoOpened.moment 0 sampleOver).Leaves 0 ⟨2⟩ :=
    ⟨⟨.done, rfl⟩, ⟨⟨1⟩, rfl⟩, rfl⟩
  have pass : ∀ exchange ∈ (sampleTwoOpened.serve sampleOver).2.exchanges sampleBetween,
      exchange.PassesBy 0 ⟨2⟩ := by
    simp only [sampleBetween, exchanges, List.forall_mem_cons]
    refine ⟨fun _ => by simp, ?_, fun _ => by simp, by simp⟩
    rintro ⟨reply, ⟨⟩⟩
  obtain ⟨-, -, back⟩ := previous_run reachable rfl sampleOpens
  obtain ⟨remembered, -, -⟩ := previous_run reachable rfl (sampleOpens ++ [sampleOver])
  obtain ⟨active, stays⟩ := back sampleOver ⟨2⟩ leaves sampleBetween pass sampleBack rfl
  exact ⟨reachable, rfl, (remembered ⟨2⟩).mp rfl, leaves, pass, rfl, active,
    (stays [sampleBack, sampleBack] (by simp [sampleBack])).1⟩

end Session

end RecordFile
