import RecordFile.Proofs.Session.Calls

/-! # The registries of all runs

The counter tells which handles were given out. A registry keeps its table in order and holds
nothing under any other handle.
-/

namespace RecordFile

namespace Registry

/-! ## Issued handles -/

/-- The counter wraps to 0 after the last handle. -/
def issuedCount (registry : Registry) : Nat :=
  if registry.nextHandle = 0 then 65535 else registry.nextHandle.toNat - 1

def HasIssued (registry : Registry) (handle : Handle) : Prop :=
  0 < handle.value.toNat ∧ handle.value.toNat ≤ registry.issuedCount

variable {registry : Registry} {handle : Handle} {store : Store}

theorem issuedCount_new (settings : Settings) : (Registry.new settings).issuedCount = 0 := rfl

theorem toNat_nextHandle (free : registry.nextHandle ≠ 0) :
    registry.nextHandle.toNat = registry.issuedCount + 1 := by
  have positive : registry.nextHandle.toNat ≠ 0 := fun zero => free (UInt16.toNat_inj.mp zero)
  rw [issuedCount, if_neg free]
  omega

theorem issuedCount_le (registry : Registry) : registry.issuedCount ≤ 65535 := by
  have bound := registry.nextHandle.toNat_lt
  unfold issuedCount
  split <;> omega

theorem nextHandle_eq_zero_iff : registry.nextHandle = 0 ↔ registry.issuedCount = 65535 := by
  constructor
  · intro used
    rw [issuedCount, if_pos used]
  · intro all
    by_cases free : registry.nextHandle = 0
    · exact free
    · have bound := registry.nextHandle.toNat_lt
      have next := toNat_nextHandle free
      omega

theorem issuedCount_withOpened (free : registry.nextHandle ≠ 0) (store : Store) :
    (registry.withOpened store).issuedCount = registry.issuedCount + 1 := by
  have next := toNat_nextHandle free
  have bound := registry.nextHandle.toNat_lt
  have added : (registry.withOpened store).nextHandle.toNat =
      (registry.nextHandle.toNat + 1) % 65536 :=
    UInt16.toNat_add registry.nextHandle 1
  by_cases used : (registry.withOpened store).nextHandle = 0
  · rw [used] at added
    have wrapped : 0 = (registry.nextHandle.toNat + 1) % 65536 := added
    rw [issuedCount, if_pos used]
    omega
  · have later := toNat_nextHandle used
    omega

theorem not_hasIssued_next (free : registry.nextHandle ≠ 0) :
    ¬registry.HasIssued ⟨registry.nextHandle⟩ := by
  rintro ⟨-, old⟩
  have next := toNat_nextHandle free
  dsimp only at old
  omega

/-! ## Sound registries -/

/-- The table is in order, and whatever is in it was opened. -/
structure IsSound (registry : Registry) : Prop where
  ordered : registry.stores.IsOrdered
  issued : ∀ {handle store}, registry.store handle = .ok store → registry.HasIssued handle

theorem isSound_new (settings : Settings) : (Registry.new settings).IsSound where
  ordered := HandleTable.isOrdered_empty
  issued := by
    intro handle store here
    cases here

theorem IsSound.withStore (h : registry.IsSound) (here : registry.store handle = .ok store)
    (changed : Store) : (registry.withStore handle changed).IsSound where
  ordered := h.ordered.put handle changed
  issued := by
    intro other held there
    by_cases same : other = handle
    · exact h.issued (same ▸ here)
    · rw [store_withStore_of_ne same] at there
      exact h.issued there

@[simp] theorem store_without_self (registry : Registry) (handle : Handle) :
    (registry.without handle).store handle = .error (.unknownHandle handle.value.toNat) := by
  simp [Registry.store, without]

theorem store_without_of_ne {other : Handle} (apart : other ≠ handle) (registry : Registry) :
    (registry.without handle).store other = registry.store other :=
  store_congr (HandleTable.get?_erase_of_ne apart registry.stores)

theorem IsSound.without (h : registry.IsSound) (handle : Handle) :
    (registry.without handle).IsSound where
  ordered := h.ordered.erase handle
  issued := by
    intro other held there
    by_cases same : other = handle
    · rw [same, store_without_self] at there
      cases there
    · rw [store_without_of_ne same] at there
      exact h.issued there

theorem store_withOpened_self (registry : Registry) (store : Store) :
    (registry.withOpened store).store ⟨registry.nextHandle⟩ = .ok store :=
  store_withStore registry _ store

theorem store_withOpened_of_ne {other : Handle} (apart : other ≠ ⟨registry.nextHandle⟩)
    (store : Store) : (registry.withOpened store).store other = registry.store other :=
  store_withStore_of_ne apart registry store

theorem IsSound.withOpened (h : registry.IsSound) (free : registry.nextHandle ≠ 0)
    (store : Store) : (registry.withOpened store).IsSound where
  ordered := h.ordered.put _ store
  issued := by
    intro other held there
    rw [HasIssued, issuedCount_withOpened free]
    by_cases same : other = ⟨registry.nextHandle⟩
    · have next := toNat_nextHandle free
      rw [same]
      dsimp only
      omega
    · rw [store_withOpened_of_ne same] at there
      obtain ⟨positive, old⟩ := h.issued there
      omega

theorem IsSound.transition {session after : Session} {call : Call}
    {answer : Except StoreError Reply} (h : session.registry.IsSound)
    (moved : session.Transition call answer after) : after.registry.IsSound := by
  cases moved with
  | opened free _ => exact h.withOpened free _
  | closed _ => exact h.without _
  | served _ here => exact h.withStore here _
  | passedEnd here _ => exact h.withStore here _
  | selected | restored | told | failed => exact h

/-- Open stores have after a call what opening brings about and operations keep. -/
theorem forall_stores_of_transition {p : Store → Prop} {session after : Session} {call : Call}
    {answer : Except StoreError Reply} (moved : session.Transition call answer after)
    (opens : ∀ {name image? recordLength settings store},
      Store.openFrom name image? recordLength settings = .ok store → p store)
    (applies : ∀ {store} operation, p store → p (store.apply operation).2)
    (before : ∀ handle store, session.registry.store handle = .ok store → p store) :
    ∀ handle store, after.registry.store handle = .ok store → p store := by
  have settles : ∀ {handle store} operation, session.registry.store handle = .ok store →
      ∀ other held, (session.registry.withStore handle (store.apply operation).2).store other =
        .ok held → p held := by
    intro handle store operation here other held there
    by_cases same : other = handle
    · rw [same, store_withStore] at there
      cases there
      exact applies operation (before handle store here)
    · rw [store_withStore_of_ne same] at there
      exact before other held there
  cases moved with
  | opened free read =>
    intro other held there
    obtain ⟨_, opened⟩ := Store.exists_openFrom_of_openNamed read
    by_cases same : other = ⟨session.registry.nextHandle⟩
    · rw [same] at there
      cases (store_withOpened_self _ _).symm.trans there
      exact opens opened
    · exact before other held ((store_withOpened_of_ne same _).symm.trans there)
  | @closed _ handle _ _ =>
    intro other held there
    by_cases same : other = handle
    · rw [same] at there
      cases (store_without_self _ _).symm.trans there
    · exact before other held ((store_without_of_ne same _).symm.trans there)
  | served _ here => exact settles _ here
  | passedEnd here _ => exact settles .stepNext here
  | selected | restored | told | failed => exact before

/-! ## Reachable registries -/

/-- Each call is given its own files, selections and buffer. -/
inductive Reachable : Registry → Prop
  | new (settings : Settings) : Reachable (.new settings)
  | run {session : Session} (call : Call) :
      Reachable session.registry → Reachable (session.run call).2.registry

theorem Reachable.isSound (h : registry.Reachable) : registry.IsSound := by
  induction h with
  | new settings => exact isSound_new settings
  | run call _ ih => exact ih.transition (Session.transition_run ih.ordered call)

theorem Reachable.follows (h : registry.Reachable) (here : registry.store handle = .ok store) :
    store.Follows store := by
  revert here
  induction h generalizing handle store with
  | new settings =>
    intro here
    cases here
  | run call reachable ih =>
    have moved := Session.transition_run reachable.isSound.ordered call
    exact forall_stores_of_transition moved Store.follows_of_openFrom
      (fun operation follows => (follows.apply operation).self) (fun _ _ => ih) handle store

end Registry

end RecordFile
