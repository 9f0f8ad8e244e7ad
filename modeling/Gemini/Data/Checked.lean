import Mathlib.Data.List.Forall2

/-!
# Computations that may be refused

Inversion of `Except` computations: what each part of a sequence that succeeds has returned, which
part of one that fails has failed, and that every item of a list has passed its check.
-/

namespace Gemini.Data

universe u v

variable {Error : Type u} {Value Result : Type v}

/-- Both parts of a computation succeed when the whole does. -/
theorem bind_eq_ok {first : Except Error Value} {next : Value → Except Error Result}
    {result : Result} :
    (first >>= next) = .ok result ↔ ∃ value, first = .ok value ∧ next value = .ok result := by
  cases first with
  | error error => simp [Bind.bind, Except.bind]
  | ok value => simp [Bind.bind, Except.bind]

/-- One of the parts fails when the whole does. -/
theorem bind_eq_error {first : Except Error Value} {next : Value → Except Error Result}
    {error : Error} : (first >>= next) = .error error ↔
      first = .error error ∨ ∃ value, first = .ok value ∧ next value = .error error := by
  cases first with
  | error error => simp [Bind.bind, Except.bind]
  | ok value => simp [Bind.bind, Except.bind]

theorem pure_eq_error {value : Value} {error : Error} :
    (pure value : Except Error Value) = .error error ↔ False := by
  constructor <;> rintro ⟨⟩

theorem bind_pure_eq_error {first : Except Error Value} {change : Value → Result} {error : Error} :
    (first >>= fun value => pure (change value)) = .error error ↔ first = .error error := by
  simp only [bind_eq_error, pure_eq_error, and_false, exists_false, or_false]

/-- Every item of a list that passes a check passes it. -/
theorem forM_eq_ok {Item : Type v} {check : Item → Except Error PUnit} {items : List Item}
    (passed : items.forM check = .ok ⟨⟩) : ∀ item ∈ items, check item = .ok ⟨⟩ := by
  induction items with
  | nil => simp
  | cons first rest inductionHypothesis =>
      change (check first >>= fun _ => rest.forM check) = .ok ⟨⟩ at passed
      obtain ⟨_, here, later⟩ := bind_eq_ok.mp passed
      exact List.forall_mem_cons.mpr ⟨here, inductionHypothesis later⟩

/-- A list passes a check that every item of it passes. -/
theorem forM_ok {Item : Type v} {check : Item → Except Error PUnit} {items : List Item}
    (passes : ∀ item ∈ items, check item = .ok ⟨⟩) : items.forM check = .ok ⟨⟩ := by
  induction items with
  | nil => rfl
  | cons first rest inductionHypothesis =>
      rw [List.forall_mem_cons] at passes
      change (check first >>= fun _ => rest.forM check) = .ok ⟨⟩
      rw [passes.1]
      exact inductionHypothesis passes.2

end Gemini.Data
