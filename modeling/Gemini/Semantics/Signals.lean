import Mathlib.Logic.Basic

/-!
# Failures in two channels

A routine signals a failure twice: it returns no value, and it leaves an error in a state that its
caller has cleared. A test returns a plain truth value, and only the error says that it failed.
`Signals` says that from a clear error a routine does what one with exceptions does, in both
channels; it is kept by sequences, and by branches on a test that look at the error first.
-/

namespace Gemini.Semantics

variable {Error Failure Value Result : Type}

/-- A routine that returns a value or none, and leaves an error in a variable. -/
abbrev Routine (Error Value : Type) := OptionT (StateM Error) Value

namespace Routine

/-- The value that a routine returns, if any, and the error that it leaves. -/
def exec (routine : Routine Error Value) (error : Error) : Option Value × Error :=
  (StateT.run (OptionT.run routine) error).run

/-- Leave an error and return nothing. -/
def fail (error : Error) : Routine Error Value := do
  set error
  failure

/-- Go on with one of two branches, unless the test has left an error. -/
def branch [DecidableEq Error] (clear : Error) (test : StateM Error Bool)
    (first second : Routine Error Value) : Routine Error Value := do
  let truth ← test
  let error ← get
  if error ≠ clear then failure
  else if truth then first else second

/-- A test of the value that a routine returns; without a value it is false. -/
def orFalse (routine : Routine Error Value) (next : Value → StateM Error Bool) :
    StateM Error Bool := do
  match ← OptionT.run routine with
  | none => return false
  | some value => next value

/-- The second routine is run when the first one has returned a value. -/
theorem exec_bind (routine : Routine Error Value) (next : Value → Routine Error Result)
    (error : Error) :
    exec (routine >>= next) error =
      match exec routine error with
      | (some value, after) => exec (next value) after
      | (none, after) => (none, after) := by
  unfold exec
  rw [OptionT.run_bind, Option.elimM, StateT.run_bind, Id.run_bind]
  rcases (StateT.run (OptionT.run routine) error).run with ⟨_ | value, after⟩ <;> rfl

/-- A branch is taken when the test has left no error. -/
theorem exec_branch [DecidableEq Error] (clear : Error) (test : StateM Error Bool)
    (first second : Routine Error Value) (error : Error) :
    exec (branch clear test first second) error =
      if (test.run error).run.2 ≠ clear then (none, (test.run error).run.2)
      else exec (if (test.run error).run.1 then first else second) (test.run error).run.2 := by
  have lifted : exec (liftM test : Routine Error Bool) error =
      (some (test.run error).run.1, (test.run error).run.2) := by
    change (StateT.run (test >>= fun truth => pure (some truth)) error).run = _
    rw [StateT.run_bind, Id.run_bind]
    rfl
  unfold branch
  rw [exec_bind, lifted]
  dsimp only
  rw [exec_bind]
  have got : exec (get : Routine Error Error) (test.run error).run.2 =
      (some (test.run error).run.2, (test.run error).run.2) := rfl
  rw [got]
  dsimp only
  split <;> rfl

end Routine

/-- From a clear error the routine returns a value and leaves the error clear, or returns nothing
and leaves the text of a failure. -/
def Signals (clear : Error) (text : Failure → Error) (routine : Routine Error Value)
    (outcome : Except Failure Value) : Prop :=
  routine.exec clear = match outcome with
    | .ok value => (some value, clear)
    | .error failure => (none, text failure)

/-- A test that fails is false and leaves the text of the failure. -/
def TestSignals (clear : Error) (text : Failure → Error) (test : StateM Error Bool)
    (outcome : Except Failure Bool) : Prop :=
  (test.run clear).run = match outcome with
    | .ok truth => (truth, clear)
    | .error failure => (false, text failure)

namespace Signals

variable {clear : Error} {text : Failure → Error} {routine : Routine Error Value}
  {outcome : Except Failure Value}

/-- A value leaves no error. -/
theorem pure (value : Value) : Signals clear text (pure value) (.ok value) := rfl

/-- A failure leaves its text. -/
theorem fail (failure : Failure) :
    Signals clear text (.fail (text failure) : Routine Error Value) (.error failure) := rfl

/-- Two routines after each other fail where the first of them fails. -/
theorem bind {next : Value → Routine Error Result} {after : Value → Except Failure Result}
    (first : Signals clear text routine outcome)
    (second : ∀ value, Signals clear text (next value) (after value)) :
    Signals clear text (routine >>= next) (outcome >>= after) := by
  unfold Signals
  rw [Routine.exec_bind, first]
  cases outcome with
  | error failure => rfl
  | ok value => exact second value

/-- The error tells whether the test has failed. -/
theorem branch [DecidableEq Error] {test : StateM Error Bool} {decided : Except Failure Bool}
    {first second : Routine Error Value} {firstOutcome secondOutcome : Except Failure Value}
    (told : ∀ failure, text failure ≠ clear) (tests : TestSignals clear text test decided)
    (whenTrue : Signals clear text first firstOutcome)
    (whenFalse : Signals clear text second secondOutcome) :
    Signals clear text (Routine.branch clear test first second)
      (decided >>= fun truth => if truth then firstOutcome else secondOutcome) := by
  unfold Signals TestSignals at *
  rw [Routine.exec_branch, tests]
  cases decided with
  | error failure =>
      dsimp only
      rw [if_pos (told failure)]
      rfl
  | ok truth =>
      dsimp only
      rw [if_neg (not_not.mpr rfl)]
      cases truth with
      | true => exact whenTrue
      | false => exact whenFalse

end Signals

namespace TestSignals

variable {clear : Error} {text : Failure → Error}

/-- A test that is decided leaves no error. -/
theorem pure (truth : Bool) : TestSignals clear text (pure truth) (.ok truth) := rfl

/-- The test goes on only with a value. -/
theorem orFalse {routine : Routine Error Value} {outcome : Except Failure Value}
    {next : Value → StateM Error Bool} {after : Value → Except Failure Bool}
    (first : Signals clear text routine outcome)
    (second : ∀ value, TestSignals clear text (next value) (after value)) :
    TestSignals clear text (routine.orFalse next) (outcome >>= after) := by
  unfold Signals at first
  unfold TestSignals Routine.orFalse
  rw [StateT.run_bind, Id.run_bind]
  change ((StateT.run (match (routine.exec clear).1 with
    | none => Pure.pure false
    | some value => next value) (routine.exec clear).2).run) = _
  rw [first]
  cases outcome with
  | error failure => rfl
  | ok value => exact second value

end TestSignals

end Gemini.Semantics
