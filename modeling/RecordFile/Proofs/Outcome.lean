/-! # Outcomes that succeed -/

namespace RecordFile

variable {ε ε' α β : Type}

theorem bind_eq_ok_iff {outcome : Except ε α} {next : α → Except ε β} {value : β} :
    (outcome >>= next) = .ok value ↔ ∃ before, outcome = .ok before ∧ next before = .ok value := by
  cases outcome with
  | error error =>
    constructor
    · intro h; cases h
    · rintro ⟨_, h, -⟩; cases h
  | ok before =>
    constructor
    · intro h; exact ⟨before, rfl, h⟩
    · rintro ⟨_, h, done⟩
      cases h
      exact done

theorem map_eq_ok_iff {outcome : Except ε α} {change : α → β} {value : β} :
    outcome.map change = .ok value ↔ ∃ before, outcome = .ok before ∧ change before = value := by
  cases outcome with
  | error error =>
    constructor
    · intro h; cases h
    · rintro ⟨_, h, -⟩; cases h
  | ok before => simp [Except.map]

theorem mapError_eq_ok_iff {outcome : Except ε α} {change : ε → ε'} {value : α} :
    outcome.mapError change = .ok value ↔ outcome = .ok value := by
  cases outcome with
  | error error =>
    constructor
    · intro h; cases h
    · intro h; cases h
  | ok before =>
    constructor
    · intro h; cases h; rfl
    · intro h; cases h; rfl

end RecordFile
