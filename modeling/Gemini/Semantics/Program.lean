import Mathlib.Logic.Basic

/-!
# Programs with a state and errors

A program changes a state and returns a value or throws; what it has changed before it
throws stays changed. `Ensures` is the triple of a program: from a state that meets the
precondition it returns with one postcondition or throws with another. `Agrees` compares
the runs of one program from two states: they give the same value or error, and leave
states that are related again.
-/

namespace Gemini.Semantics

universe u

variable {State Error Value Result : Type u}

/-- A program that changes a state and may throw. -/
abbrev Program (State Error Value : Type u) := ExceptT Error (StateM State) Value

namespace Program

/-- What a program returns or throws, and the state it leaves. -/
def exec (program : Program State Error Value) (state : State) : Except Error Value × State :=
  (StateT.run (ExceptT.run program) state).run

/-- A program that throws leaves the state as it is. -/
@[simp] theorem exec_throw (error : Error) (state : State) :
    exec (throw error : Program State Error Value) state = (.error error, state) := rfl

/-- A program that returns leaves the state as it is. -/
@[simp] theorem exec_pure (value : Value) (state : State) :
    exec (pure value : Program State Error Value) state = (.ok value, state) := rfl

@[simp] theorem exec_get (state : State) :
    exec (get : Program State Error State) state = (.ok state, state) := rfl

@[simp] theorem exec_set {Kept Thrown : Type} (kept state : Kept) :
    exec (set kept : Program Kept Thrown PUnit) state = (.ok PUnit.unit, kept) := rfl

@[simp] theorem exec_modify {Kept Thrown : Type} (change : Kept → Kept) (state : Kept) :
    exec (modify change : Program Kept Thrown PUnit) state = (.ok PUnit.unit, change state) := rfl

/-- The second program starts where the first one returned. -/
theorem exec_bind (program : Program State Error Value)
    (next : Value → Program State Error Result) (state : State) :
    exec (program >>= next) state =
      match exec program state with
      | (.ok value, after) => exec (next value) after
      | (.error error, after) => (.error error, after) := by
  change (StateT.run (ExceptT.run program >>= ExceptT.bindCont next) state).run = _
  rw [StateT.run_bind]
  simp only [exec, Id.run_bind]
  rcases (StateT.run (ExceptT.run program) state).run with ⟨_ | value, after⟩ <;> rfl

/-- What the first part of a program throws, the program throws. -/
theorem exec_bind_of_error {program : Program State Error Value}
    {next : Value → Program State Error Result} {state : State} {error : Error}
    (failed : (exec program state).1 = .error error) :
    (exec (program >>= next) state).1 = .error error := by
  rw [exec_bind]
  rcases done : exec program state with ⟨thrown | value, after⟩
  · rw [done] at failed
    cases failed
    rfl
  · rw [done] at failed
    cases failed

/-- A program that returns has returned from its first part. -/
theorem exec_bind_eq_ok {program : Program State Error Value}
    {next : Value → Program State Error Result} {state after : State} {result : Result} :
    exec (program >>= next) state = (.ok result, after) ↔
      ∃ value middle, exec program state = (.ok value, middle) ∧
        exec (next value) middle = (.ok result, after) := by
  rw [exec_bind]
  constructor
  · intro done
    rcases first : exec program state with ⟨error | value, middle⟩
    · rw [first] at done
      cases done
    · rw [first] at done
      exact ⟨value, middle, rfl, done⟩
  · rintro ⟨value, middle, first, second⟩
    rw [first]
    exact second

/-- A handler goes on from the state that the failure left. -/
theorem exec_tryCatch (program : Program State Error Value)
    (handler : Error → Program State Error Value) (state : State) :
    exec (tryCatch program handler) state =
      match exec program state with
      | (.ok value, after) => (.ok value, after)
      | (.error error, after) => exec (handler error) after := by
  change (StateT.run (ExceptT.run program >>= fun outcome => match outcome with
    | .ok value => pure (.ok value)
    | .error error => ExceptT.run (handler error)) state).run = _
  rw [StateT.run_bind]
  simp only [exec, Id.run_bind]
  rcases (StateT.run (ExceptT.run program) state).run with ⟨_ | value, after⟩ <;> rfl

/-! ## Programs on a part of the state -/

/-- A program on a part of a larger state, with what it throws as a value. -/
def caught {Whole : Type u} {Outer : Type u} (part : Whole → State)
    (replace : Whole → State → Whole) (program : Program State Error Value) :
    Program Whole Outer (Except Error Value) :=
  modifyGet fun whole =>
    ((exec program (part whole)).1, replace whole (exec program (part whole)).2)

/-- A program on a part of a larger state. -/
def zoom {Whole : Type u} (part : Whole → State) (replace : Whole → State → Whole)
    (program : Program State Error Value) : Program Whole Error Value := do
  match ← caught part replace program with
  | .ok value => pure value
  | .error error => throw error

/-- A program on a part of the state, whose error is a value of the whole. -/
theorem exec_caught {Whole Outer : Type u} (part : Whole → State)
    (replace : Whole → State → Whole) (program : Program State Error Value) (whole : Whole) :
    exec (caught part replace program : Program Whole Outer (Except Error Value)) whole =
      (.ok (exec program (part whole)).1, replace whole (exec program (part whole)).2) := rfl

/-- A program on a part of the state, whose error is thrown on. -/
theorem exec_zoom {Whole : Type u} (part : Whole → State) (replace : Whole → State → Whole)
    (program : Program State Error Value) (whole : Whole) :
    exec (zoom part replace program) whole =
      ((exec program (part whole)).1, replace whole (exec program (part whole)).2) := by
  rw [zoom, exec_bind, exec_caught]
  rcases exec program (part whole) with ⟨_ | value, after⟩ <;> rfl

/-! ## Triples -/

/-- From a state meeting `pre` the program returns in a state meeting `post`, or throws in
one meeting `thrown`. -/
def Ensures (pre : State → Prop) (program : Program State Error Value)
    (post : Value → State → Prop) (thrown : State → Prop) : Prop :=
  ∀ state, pre state →
    match exec program state with
    | (.ok value, after) => post value after
    | (.error _, after) => thrown after

/-- The program keeps a property, whether it returns or throws. -/
def Keeps (holds : State → Prop) (program : Program State Error Value) : Prop :=
  Ensures holds program (fun _ => holds) holds

variable {pre thrown : State → Prop} {post : Value → State → Prop}
  {program : Program State Error Value}

/-- The rule of composition. -/
theorem Ensures.bind {next : Value → Program State Error Result} {after : Result → State → Prop}
    (first : Ensures pre program post thrown)
    (second : ∀ value, Ensures (post value) (next value) after thrown) :
    Ensures pre (program >>= next) after thrown := by
  intro state holds
  have done := first state holds
  rw [exec_bind]
  split at done
  · exact second _ _ done
  · exact done

/-- A handler keeps what the program keeps. -/
theorem Keeps.tryCatch {holds : State → Prop} {handler : Error → Program State Error Value}
    (kept : Keeps holds program) (handled : ∀ error, Keeps holds (handler error)) :
    Keeps holds (MonadExcept.tryCatch program handler) := by
  intro state before
  have done := kept state before
  rw [exec_tryCatch]
  split at done
  · exact done
  · exact handled _ _ done

/-- What holds whichever way a program ends. -/
theorem Ensures.after {left : State → Prop} (ensures : Ensures pre program (fun _ => left) left)
    {state : State} (before : pre state) : left (exec program state).2 := by
  have done := ensures state before
  rcases result : exec program state with ⟨_ | value, after⟩ <;> rwa [result] at done

/-- Whatever a program returns or throws, the property holds after it. -/
theorem keeps_iff {holds : State → Prop} :
    Keeps holds program ↔ ∀ state, holds state → holds (exec program state).2 := by
  unfold Keeps Ensures
  refine forall_congr' fun state => ?_
  rcases exec program state with ⟨_ | value, after⟩ <;> rfl

/-- A property that is kept holds afterwards. -/
theorem Keeps.after {holds : State → Prop} (kept : Keeps holds program) {state : State}
    (before : holds state) : holds (exec program state).2 :=
  Ensures.after kept before

/-- A program on a part of the state keeps what it keeps of that part, also when what it throws
is a value. -/
theorem Keeps.caught {Whole Outer : Type u} {part : Whole → State}
    {replace : Whole → State → Whole} {holds : State → Prop} (kept : Keeps holds program)
    (replaced : ∀ whole state, part (replace whole state) = state) :
    Keeps (fun whole => holds (part whole))
      (Program.caught part replace program : Program Whole Outer (Except Error Value)) := by
  intro whole before
  rw [exec_caught]
  dsimp only
  rw [replaced]
  exact kept.after before

/-- A triple about a part of the state. -/
theorem Ensures.zoom {Whole : Type u} {part : Whole → State} {replace : Whole → State → Whole}
    (ensures : Ensures pre program post thrown)
    (replaced : ∀ whole state, part (replace whole state) = state) :
    Ensures (fun whole => pre (part whole)) (Program.zoom part replace program)
      (fun value whole => post value (part whole)) (fun whole => thrown (part whole)) := by
  intro whole before
  have done := ensures (part whole) before
  rw [exec_zoom]
  rcases result : exec program (part whole) with ⟨_ | value, after⟩
  · rw [result] at done
    dsimp only
    rwa [replaced]
  · rw [result] at done
    dsimp only
    rwa [replaced]

/-- The rule for a value that is returned. -/
theorem Ensures.pure {value : Value} (holds : ∀ state, pre state → post value state) :
    Ensures pre (Pure.pure value : Program State Error Value) post thrown :=
  holds

/-- The rule for an error. -/
theorem Ensures.throw {error : Error} (holds : ∀ state, pre state → thrown state) :
    Ensures pre (MonadExcept.throw error : Program State Error Value) post thrown :=
  holds

/-- The rule for a change of the state. -/
theorem Ensures.modifyGet {change : State → Value × State}
    (holds : ∀ state, pre state → post (change state).1 (change state).2) :
    Ensures pre (MonadStateOf.modifyGet change : Program State Error Value) post thrown :=
  holds

/-- What follows a look at the state starts from the state it has seen. -/
theorem Ensures.get {next : State → Program State Error Result} {after : Result → State → Prop}
    (holds : ∀ state, pre state → Ensures (· = state) (next state) after thrown) :
    Ensures pre (MonadState.get >>= next) after thrown :=
  fun state before => holds state before state rfl

/-- What follows a look at the state keeps the property, whatever the state is. -/
theorem Keeps.look {holds : State → Prop} {next : State → Program State Error Result}
    (second : ∀ state, Keeps holds (next state)) : Keeps holds (MonadState.get >>= next) :=
  fun state before => second state state before

/-- The rule of consequence. -/
theorem Ensures.weakenPost {weaker : Value → State → Prop}
    (ensures : Ensures pre program post thrown)
    (weakens : ∀ value state, post value state → weaker value state) :
    Ensures pre program weaker thrown := by
  intro state holds
  have done := ensures state holds
  split at done
  · exact weakens _ _ done
  · exact done

/-- The postcondition of a failure is weakened. -/
theorem Ensures.weakenThrown {weaker : State → Prop} (ensures : Ensures pre program post thrown)
    (weakens : ∀ state, thrown state → weaker state) : Ensures pre program post weaker := by
  intro state holds
  have done := ensures state holds
  split at done
  · exact done
  · exact weakens _ done

/-- A part of the precondition that is not about the state is assumed. -/
theorem Ensures.assume {fact : Prop} (ensures : fact → Ensures pre program post thrown) :
    Ensures (fun state => pre state ∧ fact) program post thrown :=
  fun state before => ensures before.2 state before.1

/-! ## Programs that only read -/

/-- What a program returns or throws. -/
def outcome (program : Program State Error Value) (state : State) : Except Error Value :=
  (exec program state).1

/-- A value that is returned. -/
@[simp] theorem outcome_pure (value : Value) (state : State) :
    outcome (Pure.pure value : Program State Error Value) state = .ok value := rfl

/-- An error that is thrown. -/
@[simp] theorem outcome_throw (error : Error) (state : State) :
    outcome (MonadExcept.throw error : Program State Error Value) state = .error error := rfl

/-- A program that leaves the state as it is comes to its outcome. -/
theorem exec_of_keeps {state : State} (kept : Keeps (· = state) program) :
    exec program state = (outcome program state, state) :=
  Prod.ext rfl (kept.after rfl)

/-- After a program that leaves the state as it is, the next one starts from the same state. -/
theorem outcome_bind {next : Value → Program State Error Result} {state : State}
    (kept : Keeps (· = state) program) :
    outcome (program >>= next) state =
      outcome program state >>= fun value => outcome (next value) state := by
  rw [outcome, exec_bind, exec_of_keeps kept]
  cases outcome program state <;> rfl

/-! ## Triples about what is thrown -/

/-- From a state meeting `pre` the program returns in a state meeting `post`, or throws an
error that `allowed` admits. -/
def Obeys (pre : State → Prop) (program : Program State Error Value)
    (post : Value → State → Prop) (allowed : Error → Prop) : Prop :=
  ∀ state, pre state →
    match exec program state with
    | (.ok value, after) => post value after
    | (.error error, _) => allowed error

variable {allowed : Error → Prop}

/-- The rule of composition. -/
theorem Obeys.bind {next : Value → Program State Error Result} {after : Result → State → Prop}
    (first : Obeys pre program post allowed)
    (second : ∀ value, Obeys (post value) (next value) after allowed) :
    Obeys pre (program >>= next) after allowed := by
  intro state holds
  have done := first state holds
  rw [exec_bind]
  split at done
  · exact second _ _ done
  · exact done

/-- The rule for a value that is returned. -/
theorem Obeys.pure {value : Value} (holds : ∀ state, pre state → post value state) :
    Obeys pre (Pure.pure value : Program State Error Value) post allowed :=
  holds

/-- The rule for an error. -/
theorem Obeys.throw {error : Error} (admitted : allowed error) :
    Obeys pre (MonadExcept.throw error : Program State Error Value) post allowed :=
  fun _ _ => admitted

/-- The rule for a look at the state. -/
theorem Obeys.get {next : State → Program State Error Result} {after : Result → State → Prop}
    (holds : ∀ state, pre state → Obeys (· = state) (next state) after allowed) :
    Obeys pre (MonadState.get >>= next) after allowed :=
  fun state before => holds state before state rfl

/-- A program throws no other errors than these. -/
def ThrowsOnly (allowed : Error → Prop) (program : Program State Error Value) : Prop :=
  Obeys (fun _ => True) program (fun _ _ => True) allowed

namespace ThrowsOnly

/-- Two programs after each other throw what either throws. -/
theorem bind {next : Value → Program State Error Result} (first : ThrowsOnly allowed program)
    (second : ∀ value, ThrowsOnly allowed (next value)) : ThrowsOnly allowed (program >>= next) :=
  Obeys.bind first second

/-- A value throws nothing. -/
theorem pure (value : Value) :
    ThrowsOnly allowed (Pure.pure value : Program State Error Value) :=
  fun _ _ => trivial

/-- An error that is admitted. -/
theorem throw {error : Error} (admitted : allowed error) :
    ThrowsOnly allowed (MonadExcept.throw error : Program State Error Value) :=
  Obeys.throw admitted

/-- A look at the state throws nothing. -/
theorem get : ThrowsOnly allowed (MonadState.get : Program State Error State) :=
  fun _ _ => trivial

/-- A state that is set throws nothing. -/
theorem set {Kept Thrown : Type} {admits : Thrown → Prop} (kept : Kept) :
    ThrowsOnly admits (MonadStateOf.set kept : Program Kept Thrown PUnit) :=
  fun _ _ => trivial

/-- A change of the state throws nothing. -/
theorem change {Kept Thrown : Type} {admits : Thrown → Prop} (changed : Kept → Kept) :
    ThrowsOnly admits (modify changed : Program Kept Thrown PUnit) :=
  fun _ _ => trivial

end ThrowsOnly

/-! ## Parts of the state that do not matter -/

/-- The program does the same after a change of the state as before it. -/
def Commutes (change : State → State) (program : Program State Error Value) : Prop :=
  ∀ state, exec program (change state) = ((exec program state).1, change (exec program state).2)

namespace Commutes

variable {changed : State → State}

/-- A value does not look at the state. -/
theorem pure (value : Value) :
    Commutes changed (Pure.pure value : Program State Error Value) :=
  fun _ => rfl

/-- Nor does an error. -/
theorem throw (error : Error) :
    Commutes changed (MonadExcept.throw error : Program State Error Value) :=
  fun _ => rfl

/-- Two programs that commute with the change commute with it together. -/
theorem bind {next : Value → Program State Error Result} (first : Commutes changed program)
    (second : ∀ value, Commutes changed (next value)) : Commutes changed (program >>= next) := by
  intro state
  rw [exec_bind, exec_bind, first state]
  rcases exec program state with ⟨_ | value, after⟩
  · rfl
  · exact second value after

/-- What follows a look at the state that does not see the change. -/
theorem get {next : State → Program State Error Result}
    (blind : ∀ state, next (changed state) = next state)
    (second : ∀ state, Commutes changed (next state)) :
    Commutes changed (MonadState.get >>= next) := by
  intro state
  rw [exec_bind, exec_bind, exec_get, exec_get]
  simp only [blind]
  exact second state state

/-- A program on a part of the state, where the change of the whole is one of the part. -/
theorem zoom {Whole : Type u} {part : Whole → State} {replace : Whole → State → Whole}
    {changedWhole : Whole → Whole} (commutes : Commutes changed program)
    (parts : ∀ whole, part (changedWhole whole) = changed (part whole))
    (replaces : ∀ whole state,
      replace (changedWhole whole) (changed state) = changedWhole (replace whole state)) :
    Commutes changedWhole (Program.zoom part replace program) := by
  intro whole
  rw [exec_zoom, exec_zoom, parts, commutes, replaces]

end Commutes

/-! ## Two runs -/

/-- From the two states the program gives the same value or error and leaves related
states. -/
def Agrees (related : State → State → Prop) (program : Program State Error Value)
    (left right : State) : Prop :=
  (exec program left).1 = (exec program right).1 ∧
    related (exec program left).2 (exec program right).2

variable {related : State → State → Prop} {left right : State}

/-- The rule for a value that is returned. -/
theorem Agrees.pure (value : Value) (holds : related left right) :
    Agrees related (Pure.pure value : Program State Error Value) left right :=
  ⟨rfl, holds⟩

/-- The rule for an error. -/
theorem Agrees.throw (error : Error) (holds : related left right) :
    Agrees related (MonadExcept.throw error : Program State Error Value) left right :=
  ⟨rfl, holds⟩

/-- The rule for a change of both states. -/
theorem Agrees.modifyGet {change : State → Value × State}
    (same : (change left).1 = (change right).1)
    (holds : related (change left).2 (change right).2) :
    Agrees related (MonadStateOf.modifyGet change : Program State Error Value) left right :=
  ⟨congrArg Except.ok same, holds⟩

/-- The rest of a program is compared from the states its first part leaves. -/
theorem Agrees.bind {next : Value → Program State Error Result}
    (first : Agrees related program left right)
    (second : ∀ {value leftAfter rightAfter}, exec program left = (.ok value, leftAfter) →
      related leftAfter rightAfter → Agrees related (next value) leftAfter rightAfter) :
    Agrees related (program >>= next) left right := by
  obtain ⟨same, holds⟩ := first
  rcases leftDone : exec program left with ⟨error | value, leftAfter⟩
  · rcases rightDone : exec program right with ⟨_ | value, rightAfter⟩
    · simp only [leftDone, rightDone, Except.error.injEq] at same holds
      simpa only [Agrees, exec_bind, leftDone, rightDone, same, true_and] using holds
    · simp [leftDone, rightDone] at same
  · rcases rightDone : exec program right with ⟨_ | value, rightAfter⟩
    · simp [leftDone, rightDone] at same
    · simp only [leftDone, rightDone, Except.ok.injEq] at same holds
      subst same
      simp only [Agrees, exec_bind, leftDone, rightDone]
      exact second leftDone holds

end Program

end Gemini.Semantics
