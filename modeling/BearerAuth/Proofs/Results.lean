/-!
# Results of checks

When a composed check passes, in terms of its parts, and what it fails with.
-/
namespace BearerAuth

variable {ε ε' β γ : Type}

theorem bind_eq_ok_iff {x : Except ε β} {f : β → Except ε γ} {c : γ} :
    x >>= f = .ok c ↔ ∃ b, x = .ok b ∧ f b = .ok c := by
  cases x with
  | error e => exact iff_of_false nofun nofun
  | ok b =>
    constructor
    · intro h
      exact ⟨b, rfl, h⟩
    · rintro ⟨b', hb, h⟩
      cases hb
      exact h

/-- Another error in its place does not make a check pass. -/
theorem mapError_eq_ok_iff {x : Except ε β} {f : ε → ε'} {b : β} :
    x.mapError f = .ok b ↔ x = .ok b := by
  cases x with
  | error e => exact iff_of_false nofun nofun
  | ok b' =>
    constructor <;>
    · intro h
      cases h
      rfl

theorem mapError_eq_error_iff {x : Except ε β} {f : ε → ε'} {e' : ε'} :
    x.mapError f = .error e' ↔ ∃ e, x = .error e ∧ f e = e' := by
  cases x with
  | ok b => exact iff_of_false nofun nofun
  | error e =>
    constructor
    · intro h
      exact ⟨e, rfl, Except.error.inj h⟩
    · rintro ⟨_, he, h⟩
      cases he
      exact congrArg Except.error h

theorem isOk_mapError (x : Except ε β) (f : ε → ε') : (x.mapError f).isOk = x.isOk := by
  cases x <;> rfl

theorem map_eq_ok_iff {x : Except ε β} {f : β → γ} {c : γ} :
    x.map f = .ok c ↔ ∃ b, x = .ok b ∧ f b = c := by
  cases x with
  | error e => exact iff_of_false nofun nofun
  | ok b =>
    constructor
    · intro h
      exact ⟨b, rfl, Except.ok.inj h⟩
    · rintro ⟨b', hb, h⟩
      cases hb
      exact congrArg Except.ok h

/-- The error of a check, if it has failed. -/
def failure? {ε α : Type} : Except ε α → Option ε
  | .ok _ => none
  | .error error => some error

@[simp] theorem failure?_ok {ε α : Type} (result : α) :
    failure? (.ok result : Except ε α) = none := rfl

@[simp] theorem failure?_error {ε α : Type} (error : ε) :
    failure? (.error error : Except ε α) = some error := rfl

theorem failure?_eq_none_iff {ε α : Type} {x : Except ε α} :
    failure? x = none ↔ ∃ result, x = .ok result := by
  cases x <;> simp [failure?]

/-- A check that only passes or fails. -/
theorem failure?_unit_eq_none_iff {ε : Type} {x : Except ε Unit} :
    failure? x = none ↔ x = .ok () := by
  cases x <;> simp [failure?]

theorem failure?_eq_some_iff {ε α : Type} {x : Except ε α} {error : ε} :
    failure? x = some error ↔ x = .error error := by
  cases x <;> simp [failure?]

end BearerAuth
