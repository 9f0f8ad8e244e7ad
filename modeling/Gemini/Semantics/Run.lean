/-!
# Runs of a partial transition function

A system is given by its step function: `step state action` is the next state,
or `none` when the state does not admit the action. A run is a list of actions.
`Always` says that a property holds in every state a run passes through, and
`EachStep` that every action is taken in a state that meets a condition. The
invariant rule `always_of_invariant` joins them: what each admitted step
preserves holds along the whole run.
-/

namespace Gemini.Semantics

universe u v

variable {State : Type u} {Action : Type v} (step : State → Action → Option State)

/-- The state a list of actions leads to, when every action is admitted. -/
def run : State → List Action → Option State
  | state, [] => some state
  | state, action :: rest => (step state action).bind fun next => run next rest

/-- `P` holds in every state the run passes through, the first one included. A
refused action ends the run. -/
def Always (P : State → Prop) : State → List Action → Prop
  | state, [] => P state
  | state, action :: rest =>
      P state ∧ match step state action with
        | none => True
        | some next => Always P next rest

/-- Every action of the run is taken in a state where `ok` admits it. -/
def EachStep (ok : State → Action → Prop) : State → List Action → Prop
  | _, [] => True
  | state, action :: rest =>
      ok state action ∧ match step state action with
        | none => True
        | some next => EachStep ok next rest

/-- Whether each step meets a decidable condition can be computed. -/
instance decidableEachStep (ok : State → Action → Prop)
    [∀ state action, Decidable (ok state action)] :
    (state : State) → (actions : List Action) → Decidable (EachStep step ok state actions)
  | _, [] => inferInstanceAs (Decidable True)
  | state, action :: rest =>
      match taken : step state action with
      | none => decidable_of_iff (ok state action) (by simp [EachStep, taken])
      | some next =>
          have := decidableEachStep ok next rest
          decidable_of_iff (ok state action ∧ EachStep step ok next rest)
            (by simp [EachStep, taken])

/-- Whether a decidable property holds in every state of a run can be computed. -/
instance decidableAlways (P : State → Prop) [∀ state, Decidable (P state)] :
    (state : State) → (actions : List Action) → Decidable (Always step P state actions)
  | state, [] => inferInstanceAs (Decidable (P state))
  | state, action :: rest =>
      match taken : step state action with
      | none => decidable_of_iff (P state) (by simp [Always, taken])
      | some next =>
          have := decidableAlways P next rest
          decidable_of_iff (P state ∧ Always step P next rest) (by simp [Always, taken])

variable {step}

/-- The start of a run is one of its states. -/
theorem Always.start {P : State → Prop} {state : State} {actions : List Action}
    (always : Always step P state actions) : P state := by
  cases actions with
  | nil => exact always
  | cons action rest => exact always.1

/-- The state a completed run ends in is one of its states. -/
theorem Always.finish {P : State → Prop} {state final : State} {actions : List Action}
    (always : Always step P state actions) (completed : run step state actions = some final) :
    P final := by
  induction actions generalizing state with
  | nil =>
      cases completed
      exact always
  | cons action rest inductionHypothesis =>
      obtain ⟨_, tail⟩ := always
      simp only [run, Option.bind_eq_some_iff] at completed
      obtain ⟨next, taken, completed⟩ := completed
      rw [taken] at tail
      exact inductionHypothesis tail completed

/-- A run goes on where its first part ends. -/
theorem run_append {state later : State} {actions : List Action}
    (reached : run step state actions = some later) (rest : List Action) :
    run step state (actions ++ rest) = run step later rest := by
  induction actions generalizing state with
  | nil =>
      cases reached
      rfl
  | cons action actions inductionHypothesis =>
      simp only [run, Option.bind_eq_some_iff] at reached
      obtain ⟨next, taken, reached⟩ := reached
      rw [List.cons_append, run, taken]
      exact inductionHypothesis reached

/-- A property of every state may be weakened. -/
theorem Always.mono {P Q : State → Prop} (weaker : ∀ state, P state → Q state)
    {state : State} {actions : List Action} (always : Always step P state actions) :
    Always step Q state actions := by
  induction actions generalizing state with
  | nil => exact weaker _ always
  | cons action rest inductionHypothesis =>
      obtain ⟨here, tail⟩ := always
      refine ⟨weaker _ here, ?_⟩
      cases taken : step state action with
      | none => trivial
      | some next =>
          rw [taken] at tail
          exact inductionHypothesis tail

/-- The invariant rule: a property that holds at the start, and that every
admitted step meeting the condition `ok` preserves, holds in every state of
every run whose steps all meet `ok`. -/
theorem always_of_invariant {Inv : State → Prop} {ok : State → Action → Prop}
    (preserved : ∀ {state action next}, Inv state → ok state action →
      step state action = some next → Inv next)
    {state : State} {actions : List Action} (holds : Inv state)
    (meets : EachStep step ok state actions) : Always step Inv state actions := by
  induction actions generalizing state with
  | nil => exact holds
  | cons action rest inductionHypothesis =>
      obtain ⟨admitted, tail⟩ := meets
      refine ⟨holds, ?_⟩
      cases taken : step state action with
      | none => trivial
      | some next =>
          rw [taken] at tail
          exact inductionHypothesis (preserved holds admitted taken) tail

/-- The exact form of the invariant rule: when the steps that meet `ok` are just those that keep
`P`, in the states of an invariant that every step keeps, then `P` holds in every state of the
runs whose steps all meet `ok`, and of no others. -/
theorem always_iff_eachStep {Inv P : State → Prop} {ok : State → Action → Prop}
    (preserved : ∀ {state action next}, Inv state → step state action = some next → Inv next)
    (refused : ∀ {state action}, step state action = none → ok state action)
    (exact : ∀ {state action next}, Inv state → P state → step state action = some next →
      (P next ↔ ok state action))
    {state : State} {actions : List Action} (invariant : Inv state) (holds : P state) :
    Always step P state actions ↔ EachStep step ok state actions := by
  induction actions generalizing state with
  | nil => exact iff_of_true holds trivial
  | cons action rest inductionHypothesis =>
      simp only [Always, EachStep, holds, true_and]
      cases taken : step state action with
      | none => exact iff_of_true trivial ⟨refused taken, trivial⟩
      | some next =>
          have kept := exact invariant holds taken
          constructor
          · intro always
            have later : P next := always.start
            exact ⟨kept.mp later,
              (inductionHypothesis (preserved invariant taken) later).mp always⟩
          · rintro ⟨admitted, each⟩
            exact (inductionHypothesis (preserved invariant taken) (kept.mpr admitted)).mpr each

/-- The invariant rule for what is to hold of each step. -/
theorem eachStep_of_invariant {Inv : State → Prop} {ok ensured : State → Action → Prop}
    (preserved : ∀ {state action next}, Inv state → ok state action →
      step state action = some next → Inv next)
    (ensures : ∀ {state action}, Inv state → ok state action → ensured state action)
    {state : State} {actions : List Action} (holds : Inv state)
    (meets : EachStep step ok state actions) : EachStep step ensured state actions := by
  induction actions generalizing state with
  | nil => trivial
  | cons action rest inductionHypothesis =>
      obtain ⟨admitted, tail⟩ := meets
      refine ⟨ensures holds admitted, ?_⟩
      cases taken : step state action with
      | none => trivial
      | some next =>
          rw [taken] at tail
          exact inductionHypothesis (preserved holds admitted taken) tail

/-- What holds of each step of a run holds of each step of what is left of it. -/
theorem EachStep.after {ok : State → Action → Prop} {state later : State}
    {actions rest : List Action} (each : EachStep step ok state (actions ++ rest))
    (reached : run step state actions = some later) : EachStep step ok later rest := by
  induction actions generalizing state with
  | nil =>
      cases reached
      exact each
  | cons action actions inductionHypothesis =>
      obtain ⟨-, tail⟩ := each
      simp only [run, Option.bind_eq_some_iff] at reached
      obtain ⟨next, taken, reached⟩ := reached
      rw [taken] at tail
      exact inductionHypothesis tail reached

/-- A condition on the actions alone. -/
theorem eachStep_of_forall {ok : Action → Prop} {actions : List Action}
    (all : ∀ action ∈ actions, ok action) (state : State) :
    EachStep step (fun _ => ok) state actions := by
  induction actions generalizing state with
  | nil => trivial
  | cons action rest inductionHypothesis =>
      refine ⟨all action List.mem_cons_self, ?_⟩
      cases step state action with
      | none => trivial
      | some next =>
          apply inductionHypothesis
          intro later member
          exact all later (List.mem_cons_of_mem _ member)

end Gemini.Semantics
