/-
# Results and refusals

Every phase of an assembly gives a result or a cause of refusal. These laws take
a composed computation apart into its steps. Where only success matters and not
the cause, `Except.toOption` forgets the cause, and it commutes with every way in
which the phases are composed. Where the cause matters, `cause?` gives it.
-/

namespace Mips32

variable {ε δ α β : Type}

/-- A sequence succeeds exactly when its first step does and the second succeeds
on the result of the first. -/
theorem bind_eq_ok_iff {first : Except ε α} {next : α → Except ε β} {result : β} :
    (first >>= next) = .ok result ↔
      ∃ middle, first = .ok middle ∧ next middle = .ok result := by
  cases first <;> simp [bind, Except.bind]

/-- A sequence is refused by its first step or by its second. -/
theorem bind_eq_error_iff {first : Except ε α} {next : α → Except ε β} {cause : ε} :
    (first >>= next) = .error cause ↔
      first = .error cause ∨ ∃ middle, first = .ok middle ∧ next middle = .error cause := by
  cases first <;> simp [bind, Except.bind]

theorem map_eq_ok_iff {outcome : Except ε α} {f : α → β} {result : β} :
    outcome.map f = .ok result ↔ ∃ value, outcome = .ok value ∧ f value = result := by
  cases outcome <;> simp [Except.map]

theorem map_eq_error_iff {outcome : Except ε α} {f : α → β} {cause : ε} :
    outcome.map f = .error cause ↔ outcome = .error cause := by
  cases outcome <;> simp [Except.map]

theorem mapError_eq_ok_iff {outcome : Except ε α} {f : ε → δ} {result : α} :
    outcome.mapError f = .ok result ↔ outcome = .ok result := by
  cases outcome with
  | error cause => exact ⟨nofun, nofun⟩
  | ok value =>
      constructor
      · intro success
        cases success
        rfl
      · intro success
        cases success
        rfl

theorem mapError_eq_error_iff {outcome : Except ε α} {f : ε → δ} {cause : δ} :
    outcome.mapError f = .error cause ↔
      ∃ refusal, outcome = .error refusal ∧ f refusal = cause := by
  cases outcome with
  | error refusal =>
      constructor
      · rintro ⟨rfl⟩
        exact ⟨refusal, rfl, rfl⟩
      · rintro ⟨_, ⟨rfl⟩, rfl⟩
        rfl
  | ok value =>
      constructor
      · intro refused
        cases refused
      · rintro ⟨_, refused, -⟩
        cases refused

@[simp]
theorem toOption_ok (value : α) : (Except.ok value : Except ε α).toOption = some value :=
  rfl

@[simp]
theorem toOption_error (cause : ε) : (Except.error cause : Except ε α).toOption = none :=
  rfl

@[simp]
theorem toOption_eq_some_iff {outcome : Except ε α} {value : α} :
    outcome.toOption = some value ↔ outcome = .ok value := by
  cases outcome <;> simp [Except.toOption]

theorem toOption_pure (value : α) : (pure value : Except ε α).toOption = some value :=
  rfl

theorem toOption_bind (first : Except ε α) (next : α → Except ε β) :
    (first >>= next).toOption = first.toOption.bind fun value => (next value).toOption := by
  cases first <;> rfl

theorem toOption_mapError (outcome : Except ε α) (f : ε → δ) :
    (outcome.mapError f).toOption = outcome.toOption := by
  cases outcome <;> rfl

/-- The cause of a refusal. -/
def cause? : Except ε α → Option ε
  | .error cause => some cause
  | .ok _ => none

theorem cause?_eq_some_iff {outcome : Except ε α} {cause : ε} :
    cause? outcome = some cause ↔ outcome = .error cause := by
  cases outcome <;> simp [cause?]

end Mips32
