import Mathlib.Data.List.AList
import Gemini.Daemon.IpcProtocol
import Gemini.Data.RoundRobin

/-!
# The cooperative session runner

`CooperativeSessionRunner`: one execution token, counted re-entrantly, handed
round-robin to the runnable sessions. Every operation runs under the runner's
mutex and is one step here; the two that wait are steps only while their wait
predicate holds. An operation that throws leaves the runner as it was.
-/

namespace Gemini.Daemon

open Gemini.Data

instance : LinearOrder SessionId where
  le_refl := UInt32.le_refl
  le_trans _ _ _ := UInt32.le_trans
  lt_iff_le_not_ge _ _ := by
    simp only [UInt32.le_iff_toNat_le, UInt32.lt_iff_toNat_lt]
    omega
  le_antisymm _ _ := UInt32.le_antisymm
  le_total := UInt32.le_total
  toDecidableLE := inferInstance

/-- What a session is doing, as the runner knows it. -/
inductive SessionRunState where
  | Runnable
  | Running
  | WaitingForInput
deriving DecidableEq

/-- The token: who holds it, how deep, who had it last, and the states of the sessions. -/
structure CooperativeSessionRunner where
  active : Option SessionId := none
  depth : UInt32 := 0
  lastServed : SessionId := 0
  sessionStates : AList fun _ : SessionId => SessionRunState := ∅

namespace CooperativeSessionRunner

variable (runner : CooperativeSessionRunner)

/-- The run state of a session; one without an entry counts as runnable. -/
def stateLocked (id : SessionId) : SessionRunState :=
  (runner.sessionStates.lookup id).getD .Runnable

/-- The runner with a new state of a session. -/
def setState (id : SessionId) (state : SessionRunState) : CooperativeSessionRunner :=
  { runner with sessionStates := runner.sessionStates.insert id state }

/-- The candidates of the round-robin choice: the runnable entries, and the requester
when it is runnable without one. -/
def runnableSessions (requester : Option SessionId) : List SessionId :=
  let runnable := runner.sessionStates.entries.filterMap fun entry =>
    if entry.2 = .Runnable then some entry.1 else none
  match requester with
  | none => runnable
  | some id =>
      if runner.stateLocked id = .Runnable ∧ id ∉ runnable then runnable ++ [id] else runnable

/-- The session whose turn it is. -/
def nextRunnableSessionLocked (requester : Option SessionId) : Option SessionId :=
  roundRobin runner.lastServed (runner.runnableSessions requester)

/-- The wait predicate of `acquire`. -/
def canAcquireLocked (id : SessionId) : Bool :=
  if runner.active = some id then true
  else if runner.active.isSome ∨ runner.stateLocked id = .WaitingForInput then false
  else
    match runner.nextRunnableSessionLocked (some id) with
    | none => true
    | some next => next = id

/-- The wait predicate of `acquireAfterInputWake`. -/
def canAcquireAfterInputWakeLocked (id : SessionId) : Bool :=
  if runner.active = some id then true
  else runner.active.isNone ∧ runner.stateLocked id ≠ .WaitingForInput

/-- A session takes the token, or takes it once more. -/
def grantAcquireLocked (id : SessionId) : Except String CooperativeSessionRunner :=
  let runner :=
    if runner.active.isNone then { runner with active := some id, depth := 0 } else runner
  if runner.active ≠ some id then .error "cooperative session acquire failed"
  else .ok ({ runner with depth := runner.depth + 1 }.setState id .Running)

/-- The holder's count goes down by one; at zero the token is free again and the session
runnable. `release` and `runExclusive` share this. -/
def countDown (id : SessionId) : CooperativeSessionRunner :=
  let runner := { runner with depth := runner.depth - 1 }
  if runner.depth = 0 then
    { runner with lastServed := id, active := none }.setState id .Runnable
  else runner

/-- `release`. -/
def release (id : SessionId) : Except String CooperativeSessionRunner :=
  if runner.active ≠ some id then .error "release from non-holder session"
  else if runner.depth = 0 then .error "release with zero depth"
  else .ok (runner.countDown id)

/-- `yieldWaitingForInput`: the token is free, and the session waits. -/
def yieldWaitingForInput (id : SessionId) : Except String CooperativeSessionRunner :=
  if runner.active ≠ some id ∨ runner.depth = 0 then .error "yield from non-holder session"
  else
    .ok { runner with
      lastServed := id
      sessionStates := runner.sessionStates.insert id .WaitingForInput
      depth := 0
      active := none }

/-- `resume`. -/
def resume (id : SessionId) : CooperativeSessionRunner :=
  runner.setState id .Runnable

/-- `retireSession`: the session has no entry any more, and does not hold the token. -/
def retireSession (id : SessionId) : CooperativeSessionRunner :=
  let runner := { runner with sessionStates := runner.sessionStates.erase id }
  if runner.active = some id then { runner with lastServed := id, active := none, depth := 0 }
  else runner

/-- What `runExclusive` does after its callback has returned. -/
def leaveExclusive (id : SessionId) : CooperativeSessionRunner :=
  if runner.active = some id ∧ runner.depth ≠ 0 then runner.countDown id
  else if runner.active.isNone ∧ runner.stateLocked id = .WaitingForInput then
    runner.setState id .Runnable
  else runner

/-! ## Calls -/

end CooperativeSessionRunner

/-- A call of the runner; `leaveExclusive` is the end of a `runExclusive`. -/
inductive RunnerCall where
  | acquire (id : SessionId)
  | acquireAfterInputWake (id : SessionId)
  | release (id : SessionId)
  | yieldWaitingForInput (id : SessionId)
  | resume (id : SessionId)
  | retireSession (id : SessionId)
  | leaveExclusive (id : SessionId)
deriving DecidableEq

/-- The session that makes a call. -/
def RunnerCall.id : RunnerCall → SessionId
  | .acquire id => id
  | .acquireAfterInputWake id => id
  | .release id => id
  | .yieldWaitingForInput id => id
  | .resume id => id
  | .retireSession id => id
  | .leaveExclusive id => id

namespace CooperativeSessionRunner

/-- The result of a call; `none` while it has to wait. -/
def perform (runner : CooperativeSessionRunner) :
    RunnerCall → Option (Except String CooperativeSessionRunner)
  | .acquire id =>
      if runner.canAcquireLocked id then some (runner.grantAcquireLocked id) else none
  | .acquireAfterInputWake id =>
      if runner.canAcquireAfterInputWakeLocked id then some (runner.grantAcquireLocked id) else none
  | .release id => some (runner.release id)
  | .yieldWaitingForInput id => some (runner.yieldWaitingForInput id)
  | .resume id => some (.ok (runner.resume id))
  | .retireSession id => some (.ok (runner.retireSession id))
  | .leaveExclusive id => some (.ok (runner.leaveExclusive id))

/-- The runner after a call that may have thrown. -/
def after (runner : CooperativeSessionRunner) :
    Except String CooperativeSessionRunner → CooperativeSessionRunner
  | .ok next => next
  | .error _ => runner

/-! ## What the operations do -/

variable {runner : CooperativeSessionRunner} {id other : SessionId}

@[simp] theorem active_setState (state : SessionRunState) :
    (runner.setState id state).active = runner.active := rfl

@[simp] theorem depth_setState (state : SessionRunState) :
    (runner.setState id state).depth = runner.depth := rfl

@[simp] theorem lastServed_setState (state : SessionRunState) :
    (runner.setState id state).lastServed = runner.lastServed := rfl

@[simp] theorem lookup_setState (state : SessionRunState) :
    (runner.setState id state).sessionStates.lookup other =
      if other = id then some state else runner.sessionStates.lookup other := by
  by_cases same : other = id
  · subst same
    simp [setState]
  · simp [setState, same]

/-- A session that holds the token, or that finds it free, gets it. -/
theorem grantAcquireLocked_eq (admitted : runner.active = none ∨ runner.active = some id) :
    runner.grantAcquireLocked id =
      .ok ({ runner with
        active := some id
        depth := (if runner.active = none then 0 else runner.depth) + 1 }.setState id .Running) := by
  obtain ⟨active, depth, lastServed, sessionStates⟩ := runner
  rcases admitted with rfl | rfl <;> simp [grantAcquireLocked]

/-- The holder counts its brackets down. -/
theorem release_eq (holds : runner.active = some id) (positive : runner.depth ≠ 0) :
    runner.release id = .ok (runner.countDown id) := by
  simp [release, holds, positive]

/-- So does the end of `runExclusive`. -/
theorem leaveExclusive_eq (holds : runner.active = some id) (positive : runner.depth ≠ 0) :
    runner.leaveExclusive id = runner.countDown id := by
  simp [leaveExclusive, holds, positive]

/-- The wait predicate of `acquire`: the session has the token, or the token is free, the
session is not waiting for input and it is the round-robin choice. -/
theorem canAcquireLocked_iff :
    runner.canAcquireLocked id = true ↔
      runner.active = some id ∨
        (runner.active = none ∧ runner.stateLocked id ≠ .WaitingForInput ∧
          ∀ next ∈ runner.nextRunnableSessionLocked (some id), next = id) := by
  unfold canAcquireLocked
  cases known : runner.active with
  | none =>
      cases next : runner.nextRunnableSessionLocked (some id) <;>
        simp [and_comm]
  | some holder =>
      simp

/-- Who wakes up after input needs a free token, and no turn. -/
theorem canAcquireAfterInputWakeLocked_iff :
    runner.canAcquireAfterInputWakeLocked id = true ↔
      runner.active = some id ∨
        (runner.active = none ∧ runner.stateLocked id ≠ .WaitingForInput) := by
  unfold canAcquireAfterInputWakeLocked
  cases runner.active <;> simp

/-- A call of `acquire` that returns has found the token free or its own. -/
theorem of_perform_acquire {result : Except String CooperativeSessionRunner}
    (done : runner.perform (.acquire id) = some result) :
    (runner.active = none ∨ runner.active = some id) ∧ runner.grantAcquireLocked id = result := by
  simp only [perform] at done
  split at done
  · rename_i admitted
    have free := canAcquireLocked_iff.mp admitted
    exact ⟨(free.imp_right And.left).symm, Option.some.inj done⟩
  · cases done

/-- When a call after input returns, the token was free or its own. -/
theorem of_perform_acquireAfterInputWake {result : Except String CooperativeSessionRunner}
    (done : runner.perform (.acquireAfterInputWake id) = some result) :
    (runner.active = none ∨ runner.active = some id) ∧ runner.grantAcquireLocked id = result := by
  simp only [perform] at done
  split at done
  · rename_i admitted
    have free := canAcquireAfterInputWakeLocked_iff.mp admitted
    exact ⟨(free.imp_right And.left).symm, Option.some.inj done⟩
  · cases done

/-- A yield that returns was made by the holder, and leaves the token free. -/
theorem of_yieldWaitingForInput {next : CooperativeSessionRunner}
    (done : runner.yieldWaitingForInput id = .ok next) :
    runner.active = some id ∧ next =
      { runner.setState id .WaitingForInput with lastServed := id, depth := 0, active := none } := by
  simp only [yieldWaitingForInput] at done
  split at done
  · cases done
  · rename_i holds
    cases done
    exact ⟨not_not.mp (not_or.mp holds).1, rfl⟩

/-- Leaving the outermost bracket frees the token. -/
theorem leaveExclusive_outermost (holds : runner.active = some id) (last : runner.depth = 1) :
    runner.leaveExclusive id =
      { runner with depth := 0, lastServed := id, active := none }.setState id .Runnable := by
  rw [leaveExclusive_eq holds (by simp [last]), countDown, last]
  rfl

/-- A session without the token only loses its entry. -/
theorem retireSession_of_not_held (notHeld : runner.active ≠ some id) :
    runner.retireSession id = { runner with sessionStates := runner.sessionStates.erase id } := by
  simp [retireSession, notHeld]

/-- A session with the token gives it up. -/
theorem retireSession_of_held (holds : runner.active = some id) :
    runner.retireSession id =
      { lastServed := id, active := none, depth := 0
        sessionStates := runner.sessionStates.erase id } := by
  simp [retireSession, holds]

/-- Only the state that is set changes. -/
@[simp] theorem stateLocked_setState (state : SessionRunState) :
    (runner.setState id state).stateLocked other =
      if other = id then state else runner.stateLocked other := by
  simp only [stateLocked, lookup_setState]
  split <;> rfl

/-- The run state is read off the entries. -/
theorem stateLocked_congr {first second : CooperativeSessionRunner}
    (same : first.sessionStates.lookup id = second.sessionStates.lookup id) :
    first.stateLocked id = second.stateLocked id := by
  rw [stateLocked, stateLocked, same]

/-- Counting down changes no other session. -/
theorem lookup_countDown (different : other ≠ id) :
    (runner.countDown id).sessionStates.lookup other = runner.sessionStates.lookup other := by
  unfold countDown
  simp only
  split
  · simp [different]
  · rfl

/-- The end of `runExclusive` changes no other session. -/
theorem lookup_leaveExclusive (different : other ≠ id) :
    (runner.leaveExclusive id).sessionStates.lookup other =
      runner.sessionStates.lookup other := by
  unfold leaveExclusive
  split
  · exact lookup_countDown different
  · split
    · simp [different]
    · rfl

/-- A retired session has no entry, and the others keep theirs. -/
theorem lookup_retireSession :
    (runner.retireSession id).sessionStates.lookup other =
      if other = id then none else runner.sessionStates.lookup other := by
  have erased : (runner.retireSession id).sessionStates = runner.sessionStates.erase id := by
    unfold retireSession
    simp only
    split <;> rfl
  rw [erased]
  split
  · rename_i same
    rw [same, AList.lookup_erase]
  · rename_i different
    rw [AList.lookup_erase_ne different]

end CooperativeSessionRunner

end Gemini.Daemon
