import Mathlib.Algebra.Ring.Nat
import Gemini.Daemon.CooperativeRunner
import Gemini.Semantics.Run

/-!
# Re-entrant brackets of one session

One session's calls of the runner as a stack of open brackets, each a plain
`acquire` or a `runExclusive`, with `yieldWaitingForInput` and
`acquireAfterInputWake` in pairs between them, and any calls of the other sessions
in between. A yield zeroes the depth and the wake rebuilds it as one, so the outer
brackets of a nested yield are forgotten: a history keeps the token through all its
brackets when no yield happens below the outermost one, and a balanced history that the
depth counter can count keeps it only then (`bracketStep_exclusive`).
-/

namespace Gemini.Daemon

open Gemini.Semantics

/-- How a bracket was opened. -/
inductive Bracket where
  | acquire
  | runExclusive
deriving DecidableEq

/-- The runner, and the brackets that the session is in. -/
structure BracketState where
  runner : CooperativeSessionRunner := {}
  brackets : List Bracket := []
  /-- Between a yield and its wake. -/
  yielded : Bool := false
  /-- A matching release has thrown. -/
  threw : Bool := false

/-- What the session and the others do. -/
inductive BracketAction where
  | enter (bracket : Bracket)
  | leave
  | yieldWaitingForInput
  | acquireAfterInputWake
  /-- A call made by another session or by the IPC thread. -/
  | other (call : RunnerCall)
deriving DecidableEq

/-- The calls that others make: about their own sessions, `resume` of any session when its
input arrives, and `retireSession` of any session that is killed. -/
def RunnerCall.ByOthers (me : SessionId) (call : RunnerCall) : Prop :=
  call.id ≠ me ∨ call = .resume me ∨ call = .retireSession me

instance (me : SessionId) (call : RunnerCall) : Decidable (call.ByOthers me) :=
  inferInstanceAs (Decidable (_ ∨ _))

/-- One step; none when it cannot happen. -/
def bracketStep (me : SessionId) (state : BracketState) : BracketAction → Option BracketState
  | .enter bracket =>
      if state.yielded then none
      else
        match state.runner.perform (.acquire me) with
        | some (.ok runner) =>
            some { state with runner := runner, brackets := bracket :: state.brackets }
        | _ => none
  | .leave =>
      if state.yielded then none
      else
        match state.brackets with
        | [] => none
        | .acquire :: brackets =>
            match state.runner.release me with
            | .ok runner => some { state with runner := runner, brackets := brackets }
            | .error _ => some { state with brackets := brackets, threw := true }
        | .runExclusive :: brackets =>
            some { state with runner := state.runner.leaveExclusive me, brackets := brackets }
  | .yieldWaitingForInput =>
      if state.yielded ∨ state.brackets = [] then none
      else
        match state.runner.yieldWaitingForInput me with
        | .ok runner => some { state with runner := runner, yielded := true }
        | .error _ => some state
  | .acquireAfterInputWake =>
      if !state.yielded then none
      else
        match state.runner.perform (.acquireAfterInputWake me) with
        | some (.ok runner) => some { state with runner := runner, yielded := false }
        | _ => none
  | .other call =>
      if call.ByOthers me then
        (state.runner.perform call).map fun result =>
          { state with runner := state.runner.after result }
      else none

/-- The session is in a bracket and not inside a yield. -/
def BracketState.Inside (state : BracketState) : Prop :=
  state.brackets ≠ [] ∧ state.yielded = false

/-- Inside its brackets the session holds the token, and no release has thrown. -/
def Exclusive (me : SessionId) (state : BracketState) : Prop :=
  (state.Inside → state.runner.active = some me) ∧ state.threw = false

/-- The 32-bit depth counter does not wrap. -/
def Shallow (state : BracketState) : Prop :=
  state.brackets.length < 2 ^ 32

/-- The condition on a step: a yield happens in the outermost bracket, the session is not
retired while it holds the token, and the counter has room for a new bracket. -/
def YieldsOutermost (me : SessionId) (state : BracketState) : BracketAction → Prop
  | .enter _ => state.brackets.length + 1 < 2 ^ 32
  | .yieldWaitingForInput => state.brackets.length = 1
  | .other call => call = .retireSession me → ¬ state.Inside
  | _ => True

instance (state : BracketState) : Decidable state.Inside :=
  inferInstanceAs (Decidable (_ ∧ _))

instance (me : SessionId) (state : BracketState) : Decidable (Exclusive me state) :=
  inferInstanceAs (Decidable ((_ → _) ∧ _))

instance (state : BracketState) : Decidable (Shallow state) :=
  inferInstanceAs (Decidable (_ < _))

instance (me : SessionId) (state : BracketState) :
    (action : BracketAction) → Decidable (YieldsOutermost me state action)
  | .enter _ => inferInstanceAs (Decidable (_ < _))
  | .leave => isTrue trivial
  | .yieldWaitingForInput => inferInstanceAs (Decidable (_ = _))
  | .acquireAfterInputWake => isTrue trivial
  | .other _ => inferInstanceAs (Decidable (_ → _))

/-! ## Calls of the others -/

/-- What the calls of others leave of a session's token. -/
structure KeepsToken (me : SessionId) (before after : CooperativeSessionRunner) : Prop where
  held : before.active = some me → after.active = some me ∧ after.depth = before.depth
  notHeld : before.active ≠ some me → after.active ≠ some me

/-- What leaves the holder and the depth alone keeps the token. -/
theorem KeepsToken.of_same {me : SessionId} {before after : CooperativeSessionRunner}
    (active : after.active = before.active) (depth : after.depth = before.depth) :
    KeepsToken me before after where
  held mine := ⟨active.trans mine, depth⟩
  notHeld notMine := by rwa [active]

/-- A holder other than the session gives the token up or keeps it. -/
theorem KeepsToken.of_holder {me id : SessionId} {before after : CooperativeSessionRunner}
    (different : id ≠ me) (holds : before.active = some id)
    (active : after.active = before.active ∨ after.active = none) : KeepsToken me before after where
  held mine := by
    rw [holds, Option.some.injEq] at mine
    exact (different mine).elim
  notHeld notMine := by
    rcases active with active | active
    · rwa [active]
    · simp [active]

namespace CooperativeSessionRunner

variable {me id : SessionId} {runner : CooperativeSessionRunner}

/-- A grant to another session keeps the token. -/
theorem grant_keepsToken (different : id ≠ me)
    (admitted : runner.active = none ∨ runner.active = some id) :
    KeepsToken me runner (runner.after (runner.grantAcquireLocked id)) := by
  rw [grantAcquireLocked_eq admitted]
  refine ⟨fun mine => ?_, fun _ => ?_⟩
  · rw [mine] at admitted
    simp [different.symm] at admitted
  · simpa [after] using different

/-- Counting down keeps the holder, or sets the token free. -/
theorem countDown_active (id : SessionId) :
    (runner.countDown id).active = runner.active ∨ (runner.countDown id).active = none := by
  unfold countDown
  simp only
  split
  · exact .inr rfl
  · exact .inl rfl

/-- A release by another session keeps the token. -/
theorem release_keepsToken (different : id ≠ me) :
    KeepsToken me runner (runner.after (runner.release id)) := by
  unfold release
  split
  · exact .of_same rfl rfl
  · rename_i holds
    split
    · exact .of_same rfl rfl
    · exact .of_holder different (not_not.mp holds) (countDown_active id)

/-- So does its yield. -/
theorem yield_keepsToken (different : id ≠ me) :
    KeepsToken me runner (runner.after (runner.yieldWaitingForInput id)) := by
  unfold yieldWaitingForInput
  split
  · exact .of_same rfl rfl
  · rename_i holds
    exact .of_holder different (not_not.mp (not_or.mp holds).1) (.inr rfl)

/-- So does its end. -/
theorem retireSession_keepsToken (different : runner.active = some id → id ≠ me) :
    KeepsToken me runner (runner.retireSession id) := by
  unfold retireSession
  simp only
  split
  · rename_i holds
    exact .of_holder (different holds) holds (.inr rfl)
  · exact .of_same rfl rfl

/-- So does the end of its `runExclusive`. -/
theorem leaveExclusive_keepsToken (different : id ≠ me) :
    KeepsToken me runner (runner.leaveExclusive id) := by
  unfold leaveExclusive
  split
  · rename_i held
    exact .of_holder different held.1 (countDown_active id)
  · split
    · exact .of_same rfl rfl
    · exact .of_same rfl rfl

/-- No call of the others takes the token from its holder or hands it to a session that
did not ask for it, as long as the holder is not retired. -/
theorem perform_keepsToken {call : RunnerCall} {result : Except String CooperativeSessionRunner}
    (byOthers : call.ByOthers me) (kept : call = .retireSession me → runner.active ≠ some me)
    (done : runner.perform call = some result) : KeepsToken me runner (runner.after result) := by
  have foreign : call.id = me → call = .resume me ∨ call = .retireSession me := by
    intro mine
    exact byOthers.resolve_left (not_not.mpr mine)
  cases call with
  | acquire id =>
      have different : id ≠ me := fun same => by simpa using foreign same
      obtain ⟨free, rfl⟩ := of_perform_acquire done
      exact grant_keepsToken different free
  | acquireAfterInputWake id =>
      have different : id ≠ me := fun same => by simpa using foreign same
      obtain ⟨free, rfl⟩ := of_perform_acquireAfterInputWake done
      exact grant_keepsToken different free
  | release id =>
      cases done
      exact release_keepsToken fun same => by simpa using foreign same
  | yieldWaitingForInput id =>
      cases done
      exact yield_keepsToken fun same => by simpa using foreign same
  | resume id =>
      cases done
      exact .of_same rfl rfl
  | retireSession id =>
      cases done
      refine retireSession_keepsToken ?_
      rintro holds rfl
      exact kept rfl holds
  | leaveExclusive id =>
      cases done
      exact leaveExclusive_keepsToken fun same => by simpa using foreign same

end CooperativeSessionRunner

/-! ## Calls of the session itself -/

/-- The session holds the token exactly inside its brackets, with a positive depth. -/
structure Holds (me : SessionId) (state : BracketState) : Prop where
  held : state.Inside → state.runner.active = some me ∧ state.runner.depth ≠ 0
  away : ¬ state.Inside → state.runner.active ≠ some me

open CooperativeSessionRunner

section Steps

variable {me : SessionId} {state next : BracketState}

/-- Entering a bracket: the depth starts at one or goes up by one. -/
theorem Holds.enter (holds : Holds me state) {bracket : Bracket}
    (taken : bracketStep me state (.enter bracket) = some next) :
    state.yielded = false ∧ next.yielded = false ∧ next.threw = state.threw ∧
      next.brackets = bracket :: state.brackets ∧ next.runner.active = some me ∧
      next.runner.depth = (if state.brackets = [] then 0 else state.runner.depth) + 1 := by
  simp only [bracketStep] at taken
  split at taken
  · cases taken
  · rename_i notYielded
    split at taken
    · rename_i runner done
      cases taken
      obtain ⟨free, granted⟩ := of_perform_acquire done
      rw [grantAcquireLocked_eq free, Except.ok.injEq] at granted
      subst granted
      refine ⟨by simpa using notYielded, by simpa using notYielded, rfl, rfl, rfl, ?_⟩
      by_cases empty : state.brackets = []
      · have notMine := holds.away (by simp [BracketState.Inside, empty])
        simp [empty, free.resolve_right notMine]
      · have mine := (holds.held ⟨empty, by simpa using notYielded⟩).1
        simp [empty, mine]
    · cases taken

/-- Leaving a bracket counts the depth down and throws nothing. -/
theorem Holds.leave (holds : Holds me state)
    (taken : bracketStep me state .leave = some next) :
    state.yielded = false ∧ ∃ bracket,
      state.brackets = bracket :: next.brackets ∧ next.yielded = false ∧
        next.threw = state.threw ∧ next.runner = state.runner.countDown me := by
  obtain ⟨runner, brackets, yielded, threw⟩ := state
  cases yielded with
  | true => cases taken
  | false =>
      cases brackets with
      | nil => cases taken
      | cons bracket brackets =>
          obtain ⟨mine, positive⟩ := holds.held ⟨by simp, rfl⟩
          cases bracket with
          | acquire =>
              simp only [bracketStep, release_eq mine positive] at taken
              cases taken
              exact ⟨rfl, .acquire, rfl, rfl, rfl, rfl⟩
          | runExclusive =>
              simp only [bracketStep, leaveExclusive_eq mine positive] at taken
              cases taken
              exact ⟨rfl, .runExclusive, rfl, rfl, rfl, rfl⟩

/-- A yield leaves the brackets as they are. -/
theorem Holds.yieldWaitingForInput (holds : Holds me state)
    (taken : bracketStep me state .yieldWaitingForInput = some next) :
    state.Inside ∧ next.yielded = true ∧ next.brackets = state.brackets ∧
      next.threw = state.threw ∧ next.runner.active = none := by
  simp only [bracketStep] at taken
  split at taken
  · cases taken
  · rename_i ready
    obtain ⟨notYielded, nonempty⟩ := not_or.mp ready
    have inside : state.Inside := ⟨nonempty, by simpa using notYielded⟩
    obtain ⟨mine, positive⟩ := holds.held inside
    simp only [CooperativeSessionRunner.yieldWaitingForInput, mine, positive, ne_eq,
      not_true_eq_false, or_self, if_false] at taken
    cases taken
    exact ⟨inside, rfl, rfl, rfl, rfl⟩

/-- The wake finds the token free and rebuilds the depth as one. -/
theorem Holds.acquireAfterInputWake (holds : Holds me state)
    (taken : bracketStep me state .acquireAfterInputWake = some next) :
    state.yielded = true ∧ next.yielded = false ∧ next.brackets = state.brackets ∧
      next.threw = state.threw ∧ next.runner.active = some me ∧ next.runner.depth = 1 := by
  simp only [bracketStep] at taken
  split at taken
  · cases taken
  · rename_i yielded
    have away : state.yielded = true := by simpa using yielded
    split at taken
    · rename_i runner done
      cases taken
      obtain ⟨free, granted⟩ := of_perform_acquireAfterInputWake done
      have none := free.resolve_right (holds.away (by simp [BracketState.Inside, away]))
      rw [grantAcquireLocked_eq (.inl none), Except.ok.injEq] at granted
      subst granted
      exact ⟨away, rfl, rfl, rfl, rfl, by simp [none]⟩
    · cases taken

/-- A call of the others leaves the brackets alone. -/
theorem bracketStep_other {call : RunnerCall}
    (taken : bracketStep me state (.other call) = some next) :
    call.ByOthers me ∧ ∃ result, state.runner.perform call = some result ∧
      next = { state with runner := state.runner.after result } := by
  simp only [bracketStep] at taken
  split at taken
  · rename_i byOthers
    obtain ⟨result, done, rfl⟩ := Option.map_eq_some_iff.mp taken
    exact ⟨byOthers, result, done, rfl⟩
  · cases taken

/-! ## The depth counts the brackets -/

/-- The last bracket sets the token free. -/
theorem countDown_last {runner : CooperativeSessionRunner} (me : SessionId)
    (last : runner.depth.toNat = 1) : (runner.countDown me).active = none := by
  have zero : runner.depth - 1 = 0 := by
    have one : runner.depth = 1 := UInt32.toNat_inj.mp last
    rw [one]
    rfl
  simp [countDown, zero]

/-- An inner bracket keeps the token. -/
theorem countDown_more {runner : CooperativeSessionRunner} (me : SessionId)
    (more : 1 < runner.depth.toNat) :
    (runner.countDown me).active = runner.active ∧
      (runner.countDown me).depth.toNat = runner.depth.toNat - 1 := by
  have down : (runner.depth - 1).toNat = runner.depth.toNat - 1 :=
    UInt32.toNat_sub_of_le _ _ (by rw [UInt32.le_iff_toNat_le]; exact more.le)
  have positive : runner.depth - 1 ≠ 0 := by
    intro zero
    rw [zero] at down
    simp only [UInt32.toNat_zero] at down
    omega
  simp [countDown, positive, down]

/-- A depth below the limit does not wrap round. -/
theorem toNat_add_one {depth : UInt32} (small : depth.toNat + 1 < 2 ^ 32) :
    (depth + 1).toNat = depth.toNat + 1 := by
  rw [UInt32.toNat_add, UInt32.toNat_one, Nat.mod_eq_of_lt small]

/-- In a history that yields in its outermost bracket only, the depth is the number of open
brackets. -/
structure Counted (me : SessionId) (state : BracketState) : Prop where
  held : state.Inside →
    state.runner.active = some me ∧ state.runner.depth.toNat = state.brackets.length
  away : ¬ state.Inside → state.runner.active ≠ some me
  outermost : state.yielded = true → state.brackets.length = 1
  threw : state.threw = false

/-- A depth that counts the brackets holds the token. -/
theorem Counted.holds (counted : Counted me state) : Holds me state where
  held inside := by
    obtain ⟨mine, depth⟩ := counted.held inside
    refine ⟨mine, fun zero => ?_⟩
    rw [zero, UInt32.toNat_zero, eq_comm, List.length_eq_zero_iff] at depth
    exact inside.1 depth
  away := counted.away

/-- Inside a bracket the session is alone. -/
theorem Counted.exclusive (counted : Counted me state) : Exclusive me state :=
  ⟨fun inside => (counted.held inside).1, counted.threw⟩

/-- A step that yields only in the outermost bracket keeps the count. -/
theorem Counted.step {action : BracketAction} (counted : Counted me state)
    (outermost : YieldsOutermost me state action)
    (taken : bracketStep me state action = some next) : Counted me next := by
  cases action with
  | enter bracket =>
      obtain ⟨before, after, threw, brackets, mine, depth⟩ := counted.holds.enter taken
      have small : state.brackets.length + 1 < 2 ^ 32 := outermost
      have count : (if state.brackets = [] then 0 else state.runner.depth).toNat =
          state.brackets.length := by
        split
        · rename_i empty
          simp [empty]
        · rename_i nonempty
          exact (counted.held ⟨nonempty, before⟩).2
      refine ⟨fun _ => ⟨mine, ?_⟩, fun outside => ?_, ?_, threw.trans counted.threw⟩
      · rw [depth, toNat_add_one (by omega), count, brackets, List.length_cons]
      · exact (outside ⟨by simp [brackets], after⟩).elim
      · simp [after]
  | leave =>
      obtain ⟨before, bracket, brackets, after, threw, runner⟩ := counted.holds.leave taken
      obtain ⟨mine, depth⟩ := counted.held ⟨by simp [brackets], before⟩
      rw [brackets, List.length_cons] at depth
      refine ⟨fun inside => ?_, fun outside => ?_, by simp [after], threw.trans counted.threw⟩
      · have more : 1 < state.runner.depth.toNat := by
          have := List.length_pos_iff.mpr inside.1
          omega
        obtain ⟨active, down⟩ := countDown_more me more
        rw [runner, active, down]
        exact ⟨mine, by omega⟩
      · have empty : next.brackets = [] := by
          by_contra nonempty
          exact outside ⟨nonempty, after⟩
        rw [runner, countDown_last me (by simp [depth, empty])]
        simp
  | yieldWaitingForInput =>
      obtain ⟨inside, after, brackets, threw, active⟩ :=
        counted.holds.yieldWaitingForInput taken
      refine ⟨fun inside => ?_, fun _ => by simp [active], fun _ => ?_, threw.trans counted.threw⟩
      · simp [BracketState.Inside, after] at inside
      · rw [brackets]
        exact outermost
  | acquireAfterInputWake =>
      obtain ⟨before, after, brackets, threw, mine, depth⟩ :=
        counted.holds.acquireAfterInputWake taken
      have one := counted.outermost before
      refine ⟨fun _ => ⟨mine, ?_⟩, fun outside => ?_, by simp [after], threw.trans counted.threw⟩
      · rw [depth, brackets, one]
        rfl
      · refine (outside ⟨?_, after⟩).elim
        rw [brackets]
        exact List.ne_nil_of_length_pos (by omega)
  | other call =>
      obtain ⟨byOthers, result, done, rfl⟩ := bracketStep_other taken
      have kept : call = .retireSession me → state.runner.active ≠ some me :=
        fun retired => counted.away (outermost retired)
      have keeps := perform_keepsToken byOthers kept done
      refine ⟨fun inside => ?_, fun outside => keeps.notHeld (counted.away outside),
        counted.outermost, counted.threw⟩
      obtain ⟨mine, depth⟩ := counted.held inside
      obtain ⟨active, same⟩ := keeps.held mine
      exact ⟨active, by rw [same, depth]⟩

/-! ## A nested yield forgets the outer brackets -/

/-- After a yield below the outermost bracket the depth stays short of the number of open
brackets. -/
structure Forgotten (me : SessionId) (state : BracketState) : Prop where
  held : state.Inside → state.runner.active = some me ∧ state.runner.depth ≠ 0 ∧
    state.runner.depth.toNat < state.brackets.length
  away : state.yielded = true → state.runner.active ≠ some me ∧ 2 ≤ state.brackets.length
  nonempty : state.brackets ≠ []

/-- After a yield the brackets are not counted, but the token is held. -/
theorem Forgotten.holds (forgotten : Forgotten me state) : Holds me state where
  held inside := ⟨(forgotten.held inside).1, (forgotten.held inside).2.1⟩
  away outside := by
    apply (forgotten.away ?_).1
    by_contra notYielded
    exact outside ⟨forgotten.nonempty, by simpa using notYielded⟩

/-- A depth that is not 0 is positive. -/
theorem toNat_pos {depth : UInt32} (positive : depth ≠ 0) : 0 < depth.toNat := by
  apply Nat.pos_of_ne_zero
  intro zero
  exact positive (UInt32.toNat_inj.mp zero)

/-- Leaving a bracket gives the token up when the depth has run out, and an outer bracket is
still open then. -/
theorem Forgotten.leave (forgotten : Forgotten me state)
    (taken : bracketStep me state .leave = some next) :
    Forgotten me next ∨ ¬ Exclusive me next := by
  obtain ⟨before, bracket, brackets, after, -, runner⟩ := forgotten.holds.leave taken
  obtain ⟨mine, positive, short⟩ := forgotten.held ⟨forgotten.nonempty, before⟩
  have some := toNat_pos positive
  rw [brackets, List.length_cons] at short
  have nonempty : next.brackets ≠ [] := List.ne_nil_of_length_pos (by omega)
  by_cases last : state.runner.depth.toNat = 1
  · right
    intro exclusive
    have gone := exclusive.1 ⟨nonempty, after⟩
    rw [runner, countDown_last me last] at gone
    cases gone
  · left
    obtain ⟨active, down⟩ := countDown_more me (by omega : 1 < state.runner.depth.toNat)
    refine ⟨fun _ => ?_, by simp [after], nonempty⟩
    rw [runner, active, down]
    refine ⟨mine, fun zero => ?_, by omega⟩
    rw [zero, UInt32.toNat_zero] at down
    omega

/-- The others cannot give the session its brackets back; a retire while it holds the token
takes it. -/
theorem Forgotten.other (forgotten : Forgotten me state) {call : RunnerCall}
    (taken : bracketStep me state (.other call) = some next) :
    Forgotten me next ∨ ¬ Exclusive me next := by
  obtain ⟨byOthers, result, done, rfl⟩ := bracketStep_other taken
  by_cases retired : call = .retireSession me ∧ state.runner.active = some me
  · right
    obtain ⟨rfl, mine⟩ := retired
    cases done
    have notYielded : state.yielded = false := by
      by_contra yielded
      exact (forgotten.away (by simpa using yielded)).1 mine
    intro exclusive
    have gone := exclusive.1 ⟨forgotten.nonempty, notYielded⟩
    simp [CooperativeSessionRunner.after, retireSession, mine] at gone
  · left
    have keeps := perform_keepsToken byOthers (fun is holds => retired ⟨is, holds⟩) done
    refine ⟨fun inside => ?_, fun yielded => ?_, forgotten.nonempty⟩
    · obtain ⟨mine, positive, short⟩ := forgotten.held inside
      obtain ⟨active, depth⟩ := keeps.held mine
      rw [depth]
      exact ⟨active, positive, short⟩
    · obtain ⟨notMine, two⟩ := forgotten.away yielded
      exact ⟨keeps.notHeld notMine, two⟩

/-- The outer brackets stay forgotten until one of them is without the token. -/
theorem Forgotten.step (forgotten : Forgotten me state) (shallow : Shallow next)
    {action : BracketAction} (taken : bracketStep me state action = some next) :
    Forgotten me next ∨ ¬ Exclusive me next := by
  cases action with
  | enter bracket =>
      obtain ⟨before, after, -, brackets, mine, depth⟩ := forgotten.holds.enter taken
      obtain ⟨-, positive, short⟩ := forgotten.held ⟨forgotten.nonempty, before⟩
      simp only [Shallow, brackets, List.length_cons] at shallow
      rw [if_neg forgotten.nonempty] at depth
      have up := toNat_add_one (by omega : state.runner.depth.toNat + 1 < 2 ^ 32)
      refine .inl ⟨fun _ => ⟨mine, ?_, ?_⟩, by simp [after], by simp [brackets]⟩
      · rw [depth]
        intro zero
        rw [zero, UInt32.toNat_zero] at up
        omega
      · rw [depth, up, brackets, List.length_cons]
        omega
  | leave => exact forgotten.leave taken
  | yieldWaitingForInput =>
      obtain ⟨inside, after, brackets, -, active⟩ :=
        forgotten.holds.yieldWaitingForInput taken
      obtain ⟨-, positive, short⟩ := forgotten.held inside
      have some := toNat_pos positive
      refine .inl ⟨fun inside => ?_, fun _ => ⟨by simp [active], ?_⟩, ?_⟩
      · simp [BracketState.Inside, after] at inside
      · rw [brackets]
        omega
      · rw [brackets]
        exact forgotten.nonempty
  | acquireAfterInputWake =>
      obtain ⟨before, after, brackets, -, mine, depth⟩ :=
        forgotten.holds.acquireAfterInputWake taken
      obtain ⟨-, two⟩ := forgotten.away before
      refine .inl ⟨fun _ => ⟨mine, ?_, ?_⟩, by simp [after], ?_⟩
      · simp [depth]
      · rw [depth, brackets]
        exact two
      · rw [brackets]
        exact forgotten.nonempty
  | other call => exact forgotten.other taken

/-- A balanced history cannot end with brackets forgotten. -/
theorem Forgotten.not_always {actions : List BracketAction} {final : BracketState}
    (forgotten : Forgotten me state) (completed : run (bracketStep me) state actions = some final)
    (balanced : final.brackets = []) (shallow : Always (bracketStep me) Shallow state actions) :
    ¬ Always (bracketStep me) (Exclusive me) state actions := by
  induction actions generalizing state with
  | nil =>
      cases completed
      exact (forgotten.nonempty balanced).elim
  | cons action rest inductionHypothesis =>
      simp only [run, Option.bind_eq_some_iff] at completed
      obtain ⟨next, taken, completed⟩ := completed
      simp only [Always, taken] at shallow ⊢
      rintro ⟨-, exclusive⟩
      rcases forgotten.step shallow.2.start taken with forgotten | lost
      · exact inductionHypothesis forgotten completed shallow.2 exclusive
      · exact lost exclusive.start

/-- A step against the condition forgets brackets, or takes the token at once. -/
theorem Counted.not_outermost (counted : Counted me state) (shallow : Shallow next)
    {action : BracketAction} (nested : ¬ YieldsOutermost me state action)
    (taken : bracketStep me state action = some next) :
    Forgotten me next ∨ ¬ Exclusive me next := by
  cases action with
  | enter bracket =>
      obtain ⟨-, -, -, brackets, -⟩ := counted.holds.enter taken
      simp only [Shallow, brackets, List.length_cons] at shallow
      exact (nested shallow).elim
  | leave => exact (nested trivial).elim
  | acquireAfterInputWake => exact (nested trivial).elim
  | yieldWaitingForInput =>
      obtain ⟨inside, after, brackets, -, active⟩ :=
        counted.holds.yieldWaitingForInput taken
      have two : 2 ≤ state.brackets.length := by
        have := List.length_pos_iff.mpr inside.1
        have : state.brackets.length ≠ 1 := nested
        omega
      refine .inl ⟨fun inside => ?_, fun _ => ⟨by simp [active], by rwa [brackets]⟩, ?_⟩
      · simp [BracketState.Inside, after] at inside
      · rw [brackets]
        exact inside.1
  | other call =>
      obtain ⟨rfl, inside⟩ : call = .retireSession me ∧ state.Inside := by
        simpa [YieldsOutermost] using nested
      obtain ⟨-, result, done, rfl⟩ := bracketStep_other taken
      cases done
      right
      intro exclusive
      have gone := exclusive.1 inside
      simp [CooperativeSessionRunner.after, retireSession, (counted.held inside).1] at gone

/-- In a balanced run that stays exclusive, every yield is in the outermost bracket. -/
theorem Counted.eachStep {actions : List BracketAction} {final : BracketState}
    (counted : Counted me state) (completed : run (bracketStep me) state actions = some final)
    (balanced : final.brackets = []) (shallow : Always (bracketStep me) Shallow state actions)
    (exclusive : Always (bracketStep me) (Exclusive me) state actions) :
    EachStep (bracketStep me) (YieldsOutermost me) state actions := by
  induction actions generalizing state with
  | nil => trivial
  | cons action rest inductionHypothesis =>
      simp only [run, Option.bind_eq_some_iff] at completed
      obtain ⟨next, taken, completed⟩ := completed
      simp only [Always, EachStep, taken] at shallow exclusive ⊢
      by_cases outermost : YieldsOutermost me state action
      · have after := counted.step outermost taken
        exact ⟨outermost, inductionHypothesis after completed shallow.2 exclusive.2⟩
      · rcases counted.not_outermost shallow.2.start outermost taken with forgotten | lost
        · exact (forgotten.not_always completed balanced shallow.2 exclusive.2).elim
        · exact (lost exclusive.2.start).elim

/-- At the start there are no brackets. -/
theorem counted_start (me : SessionId) : Counted me {} where
  held inside := (inside.1 rfl).elim
  away _ := by simp
  outermost := by simp
  threw := rfl

end Steps

/-- In every history of one session's brackets, with yields anywhere and any calls of the
other sessions in between: the session holds the token inside all its brackets and no
release throws, as long as every yield happens in the outermost bracket, the session is not
retired while it holds the token, and the nesting stays below what the depth counter can
count. In a balanced history within that bound it is so only then. -/
theorem bracketStep_exclusive (me : SessionId) (actions : List BracketAction) :
    (EachStep (bracketStep me) (YieldsOutermost me) {} actions →
      Always (bracketStep me) (Exclusive me) {} actions) ∧
    ∀ final, run (bracketStep me) {} actions = some final → final.brackets = [] →
      Always (bracketStep me) Shallow {} actions →
      Always (bracketStep me) (Exclusive me) {} actions →
      EachStep (bracketStep me) (YieldsOutermost me) {} actions := by
  constructor
  · intro outermost
    have always := always_of_invariant Counted.step (counted_start me) outermost
    exact always.mono fun _ => Counted.exclusive
  · intro final completed balanced shallow exclusive
    exact (counted_start me).eachStep completed balanced shallow exclusive

/-- Session 1 nests a bracket, waits for input in the outermost one while session 2 runs, and
leaves. -/
def outermostYield : List BracketAction :=
  [.enter .runExclusive, .enter .acquire, .leave, .yieldWaitingForInput,
    .other (.acquire 2), .other (.resume 1), .other (.leaveExclusive 2),
    .acquireAfterInputWake, .enter .runExclusive, .leave, .leave]

/-- A yield in the outermost bracket, and input after it, leave the session alone. -/
theorem outermostYield_exclusive :
    (run (bracketStep 1) {} outermostYield).map (fun final => final.brackets) = some [] ∧
      Always (bracketStep 1) Shallow {} outermostYield ∧
      EachStep (bracketStep 1) (YieldsOutermost 1) {} outermostYield ∧
      Always (bracketStep 1) (Exclusive 1) {} outermostYield :=
  ⟨by decide +kernel, by decide +kernel, by decide +kernel,
    (bracketStep_exclusive 1 outermostYield).1 (by decide +kernel)⟩

/-- Session 1 waits for input inside its second bracket. -/
def nestedYield : List BracketAction :=
  [.enter .runExclusive, .enter .acquire, .yieldWaitingForInput, .other (.resume 1),
    .acquireAfterInputWake, .leave, .leave]

/-- The inner release gives the token up, and the history is otherwise complete. -/
theorem nestedYield_not_exclusive :
    (run (bracketStep 1) {} nestedYield).map (fun final => final.brackets) = some [] ∧
      Always (bracketStep 1) Shallow {} nestedYield ∧
      ¬ Always (bracketStep 1) (Exclusive 1) {} nestedYield := by
  decide +kernel

end Gemini.Daemon
