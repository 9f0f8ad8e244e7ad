import Mathlib.Logic.Function.Basic
import Gemini.Daemon.CooperativeRunner
import Gemini.Semantics.Run

/-!
# Session workers

The threads of the daemon around the runner. A worker runs `host.runExclusive` with
the login or the REPL as its callback, again and again, and reads its input through
`IpcSessionChannel::readInputChar`; the IPC thread pushes input and then resumes the
session; a detach or a kill closes the channel, clears its scheduling and retires the
session. The queue is guarded by the channel's mutex and the run state by the
runner's, so `WorkerStage` has one stage for every point between two locked sections.

`workersStep_move` says what a step can do to the runner and to the roles of the
workers; the scheduling properties are proved from it.
-/

namespace Gemini.Daemon

/-- Where a session's worker thread stands. -/
inductive WorkerStage where
  /-- There is no thread. -/
  | absent
  /-- Before, between or after the `runExclusive` calls of the worker's loop. -/
  | between
  /-- In `runExclusive`, waiting in `acquire`. -/
  | acquiring
  /-- In the callback, outside `readInputChar`. -/
  | running
  /-- In `readInputChar`, at the head of its loop. -/
  | reading
  /-- In `readInputChar`, waiting for input on a channel without scheduling. -/
  | plainWait
  /-- In `readInputChar`, with the channel unlocked, before `yieldWaitingForInput`. -/
  | beforeYield
  /-- In `readInputChar`, waiting for input after the yield. -/
  | inputWait
  /-- In `readInputChar`, waiting in `acquireAfterInputWake`. -/
  | wakeAcquiring
  /-- In `readInputChar`, with the token, before the byte is taken off the queue. -/
  | taking
deriving DecidableEq

/-- A session: its worker and the input side of its channel. -/
structure Session where
  stage : WorkerStage := .absent
  inputQueue : Bytes := []
  closed : Bool := false
  scheduled : Bool := false

/-- The runner, the sessions with their workers, and a resume that is still to come. -/
structure Workers where
  runner : CooperativeSessionRunner := {}
  sessions : SessionId → Session := fun _ => {}
  /-- The session whose `pushInput` has enqueued its bytes and is still to resume it. -/
  pendingResume : Option SessionId := none

/-- What workers and the IPC thread do, a step for each locked part. -/
inductive WorkerAction where
  /-- `attachSession`: a new channel, bound to the runner, and a new worker. -/
  | attach (id : SessionId)
  | enter (id : SessionId)
  | acquire (id : SessionId)
  | read (id : SessionId)
  /-- The locked head of the loop of `readInputChar`. -/
  | test (id : SessionId)
  | plainWake (id : SessionId)
  | yieldWaitingForInput (id : SessionId)
  /-- The wait for input after the yield ends. -/
  | wake (id : SessionId)
  | acquireAfterInputWake (id : SessionId)
  | take (id : SessionId)
  /-- The callback returns, and `runExclusive` with it. -/
  | leave (id : SessionId)
  /-- The worker's function returns and retires the session. -/
  | exit (id : SessionId)
  /-- `pushInput` up to its notification. -/
  | push (id : SessionId) (bytes : Bytes)
  /-- The rest of `pushInput`. -/
  | resume
  | close (id : SessionId)
  | clearSessionScheduling (id : SessionId)
  | retireSession (id : SessionId)
deriving DecidableEq

/-- The session an action is about; a resume is about the session it is pending for. -/
def WorkerAction.session (action : WorkerAction) : Option SessionId :=
  match action with
  | .attach id | .enter id | .acquire id | .read id | .test id | .plainWake id
  | .yieldWaitingForInput id | .wake id | .acquireAfterInputWake id | .take id | .leave id
  | .exit id | .push id _ | .close id | .clearSessionScheduling id | .retireSession id => some id
  | .resume => none

namespace Workers

/-- The workers with another session. -/
def set (state : Workers) (id : SessionId) (session : Session) : Workers :=
  { state with sessions := Function.update state.sessions id session }

/-- How far the worker of a session has come. -/
def stage (state : Workers) (id : SessionId) : WorkerStage := (state.sessions id).stage

/-- A worker moves on. -/
def goto (state : Workers) (id : SessionId) (stage : WorkerStage) : Workers :=
  state.set id { state.sessions id with stage := stage }

/-- A step of the worker from one stage to another. -/
def move (state : Workers) (id : SessionId) (source target : WorkerStage) : Option Workers :=
  if state.stage id = source then some (state.goto id target) else none

/-- The locked head of the loop: a byte, the end of file, a wait without scheduling, or
the way to the yield. -/
def testInput (state : Workers) (id : SessionId) : Workers :=
  let session := state.sessions id
  match session.inputQueue with
  | _ :: rest => state.set id { session with inputQueue := rest, stage := .running }
  | [] =>
      if session.closed then state.goto id .running
      else if !session.scheduled then state.goto id .plainWait
      else state.goto id .beforeYield

/-- A call for the token by a session in `source`. -/
def claimToken (state : Workers) (call : RunnerCall) (source target : WorkerStage) :
    Option Workers :=
  if state.stage call.id = source then
    match state.runner.perform call with
    | some (.ok runner) => some ({ state with runner := runner }.goto call.id target)
    | _ => none
  else none

end Workers

/-- One step; none when it cannot happen. -/
def workersStep (state : Workers) : WorkerAction → Option Workers
  | .attach id =>
      if state.stage id = .absent ∧ state.pendingResume = none then
        some (state.set id { stage := .between, scheduled := true })
      else none
  | .enter id => state.move id .between .acquiring
  | .acquire id => state.claimToken (.acquire id) .acquiring .running
  | .read id => state.move id .running .reading
  | .test id => if state.stage id = .reading then some (state.testInput id) else none
  | .plainWake id =>
      if (state.sessions id).closed ∨ (state.sessions id).inputQueue ≠ [] then
        state.move id .plainWait .reading
      else none
  | .yieldWaitingForInput id =>
      if state.stage id = .beforeYield then
        match state.runner.yieldWaitingForInput id with
        | .ok runner => some ({ state with runner := runner }.goto id .inputWait)
        -- The stream buffer throws, and the stream's read turns that into a failed read.
        | .error _ => some (state.goto id .running)
      else none
  | .wake id =>
      if (state.sessions id).inputQueue ≠ [] then state.move id .inputWait .wakeAcquiring
      else if (state.sessions id).closed then state.move id .inputWait .running
      else none
  | .acquireAfterInputWake id =>
      state.claimToken (.acquireAfterInputWake id) .wakeAcquiring .taking
  | .take id =>
      if state.stage id = .taking then
        some (state.set id { state.sessions id with
          inputQueue := (state.sessions id).inputQueue.tail, stage := .running })
      else none
  | .leave id =>
      if state.stage id = .running then
        some ({ state with runner := state.runner.leaveExclusive id }.goto id .between)
      else none
  | .exit id =>
      if state.stage id = .between then
        some ({ state with runner := state.runner.retireSession id }.goto id .absent)
      else none
  | .push id bytes =>
      if state.pendingResume = none then
        if bytes = [] ∨ (state.sessions id).closed then some state
        else
          some { state.set id { state.sessions id with
                  inputQueue := (state.sessions id).inputQueue ++ bytes } with
            pendingResume := some id }
      else none
  | .resume =>
      match state.pendingResume with
      | none => none
      | some id =>
          if (state.sessions id).scheduled then
            some { state with runner := state.runner.resume id, pendingResume := none }
          else some { state with pendingResume := none }
  | .close id => some (state.set id { state.sessions id with closed := true })
  | .clearSessionScheduling id => some (state.set id { state.sessions id with scheduled := false })
  | .retireSession id => some { state with runner := state.runner.retireSession id }

/-! ## What a step can do -/

/-- What a worker's stage is to the runner: outside its brackets, blocked in a call for the
token, in the callback and not waiting, or in the wait of `readInputChar` after a yield. A
worker in the plain wait has not given the token up. -/
inductive WorkerRole where
  | outside
  | blocked
  | holding
  | away
deriving DecidableEq

/-- What a stage has to do with the token. -/
def WorkerStage.role : WorkerStage → WorkerRole
  | .absent => .outside
  | .between => .outside
  | .acquiring => .blocked
  | .running => .holding
  | .reading => .holding
  | .plainWait => .holding
  | .beforeYield => .holding
  | .inputWait => .away
  | .wakeAcquiring => .blocked
  | .taking => .holding

/-- What a worker has to do with the token. -/
def Workers.role (state : Workers) (id : SessionId) : WorkerRole := (state.stage id).role

namespace Workers

variable {state : Workers} {id other : SessionId}

/-- Only the stage of the session that is set changes. -/
@[simp] theorem stage_set (session : Session) :
    (state.set id session).stage other = if other = id then session.stage else state.stage other := by
  by_cases same : other = id
  · subst same
    simp [set, stage]
  · simp [set, stage, same]

/-- Only the worker that moves changes its stage. -/
@[simp] theorem stage_goto (target : WorkerStage) :
    (state.goto id target).stage other = if other = id then target else state.stage other := by
  simp [goto]

theorem sessions_set_self (state : Workers) (id : SessionId) (session : Session) :
    (state.set id session).sessions id = session :=
  Function.update_self _ _ _

theorem sessions_set_of_ne (different : other ≠ id) (session : Session) :
    (state.set id session).sessions other = state.sessions other :=
  Function.update_of_ne different _ _

theorem sessions_goto_self (target : WorkerStage) :
    (state.goto id target).sessions id = { state.sessions id with stage := target } :=
  sessions_set_self _ _ _

theorem sessions_goto_of_ne (different : other ≠ id) (target : WorkerStage) :
    (state.goto id target).sessions other = state.sessions other :=
  sessions_set_of_ne different _

theorem sessions_testInput_of_ne (different : other ≠ id) :
    (state.testInput id).sessions other = state.sessions other := by
  unfold testInput
  simp only
  split
  · exact sessions_set_of_ne different _
  · split
    · exact sessions_goto_of_ne different _
    · split <;> exact sessions_goto_of_ne different _

/-- Only the role of the session that is set changes. -/
@[simp] theorem role_set (session : Session) :
    (state.set id session).role other =
      if other = id then session.stage.role else state.role other := by
  simp only [role, stage_set]
  split <;> rfl

/-- Only the worker that moves changes its role. -/
@[simp] theorem role_goto (target : WorkerStage) :
    (state.goto id target).role other = if other = id then target.role else state.role other := by
  simp [goto]

/-- A worker that changes its stage within a role leaves all roles as they were. -/
theorem role_goto_same {target : WorkerStage} (same : target.role = state.role id)
    (other : SessionId) :
    (state.goto id target).role other = state.role other := by
  rw [role_goto]
  split
  · rename_i is
    rw [is, same]
  · rfl

/-- A change within a role changes no role. -/
theorem role_set_same {session : Session} (same : session.stage.role = state.role id)
    (other : SessionId) : (state.set id session).role other = state.role other := by
  rw [role_set]
  split
  · rename_i is
    rw [is, same]
  · rfl

end Workers

/-- What a step does to the runner and to the roles of the workers. -/
inductive Move (state next : Workers) : WorkerAction → Prop where
  | quiet {action : WorkerAction} (runner : next.runner = state.runner)
      (roles : ∀ other, next.role other = state.role other) : Move state next action
  | blocks {action : WorkerAction} (id : SessionId) (runner : next.runner = state.runner)
      (own : action.session = some id)
      (before : state.role id = .outside ∨ state.role id = .away)
      (roles : ∀ other, next.role other = if other = id then .blocked else state.role other) :
      Move state next action
  /-- The wait for input ends on a closed channel with nothing queued. -/
  | endOfFile (id : SessionId) (runner : next.runner = state.runner)
      (before : state.role id = .away) (empty : (state.sessions id).inputQueue = [])
      (roles : ∀ other, next.role other = if other = id then .holding else state.role other) :
      Move state next (.wake id)
  | granted {action : WorkerAction} (id : SessionId) (own : action.session = some id)
      (before : state.role id = .blocked)
      (free : state.runner.active = none ∨ state.runner.active = some id)
      (runner : state.runner.grantAcquireLocked id = .ok next.runner)
      (roles : ∀ other, next.role other = if other = id then .holding else state.role other) :
      Move state next action
  | yielded (id : SessionId) (before : state.role id = .holding)
      (runner : state.runner.yieldWaitingForInput id = .ok next.runner)
      (roles : ∀ other, next.role other = if other = id then .away else state.role other) :
      Move state next (.yieldWaitingForInput id)
  | left (id : SessionId) (before : state.role id = .holding)
      (runner : next.runner = state.runner.leaveExclusive id)
      (roles : ∀ other, next.role other = if other = id then .outside else state.role other) :
      Move state next (.leave id)
  | exited (id : SessionId) (before : state.role id = .outside)
      (runner : next.runner = state.runner.retireSession id)
      (roles : ∀ other, next.role other = state.role other) : Move state next (.exit id)
  | retired (id : SessionId) (runner : next.runner = state.runner.retireSession id)
      (roles : ∀ other, next.role other = state.role other) : Move state next (.retireSession id)
  | resumed (id : SessionId) (pending : state.pendingResume = some id)
      (runner : next.runner = state.runner.resume id)
      (roles : ∀ other, next.role other = state.role other) : Move state next .resume

section Moves

variable {state next : Workers} {id : SessionId}

/-- The role of a worker, by its stage. -/
theorem Workers.role_eq {stage : WorkerStage} (known : state.stage id = stage) :
    state.role id = stage.role := by
  rw [Workers.role, known]

/-- A move starts at its source and ends at its target. -/
theorem Workers.move_eq {source target : WorkerStage}
    (taken : state.move id source target = some next) :
    state.stage id = source ∧ next = state.goto id target := by
  simp only [Workers.move] at taken
  split at taken
  · rename_i known
    cases taken
    exact ⟨known, rfl⟩
  · cases taken

/-- A step of a worker within its role. -/
theorem Workers.move_quiet {source target : WorkerStage} {action : WorkerAction}
    (taken : state.move id source target = some next) (same : target.role = source.role) :
    Move state next action := by
  obtain ⟨known, rfl⟩ := Workers.move_eq taken
  exact .quiet rfl (Workers.role_goto_same (same.trans (Workers.role_eq known).symm))

/-- A claim of the token moves the worker when the runner grants it. -/
theorem Workers.claimToken_eq {call : RunnerCall} {source target : WorkerStage}
    (taken : state.claimToken call source target = some next) :
    state.stage call.id = source ∧ ∃ runner, state.runner.perform call = some (.ok runner) ∧
      next = { state with runner := runner }.goto call.id target := by
  simp only [Workers.claimToken] at taken
  split at taken
  · rename_i known
    split at taken
    · rename_i runner done
      cases taken
      exact ⟨known, runner, done, rfl⟩
    · cases taken
  · cases taken

/-- The test of the queue is inside the callback, whatever it finds. -/
theorem Workers.testInput_quiet {action : WorkerAction} (before : state.role id = .holding) :
    Move state (state.testInput id) action := by
  unfold Workers.testInput
  simp only
  split
  · exact .quiet rfl (Workers.role_set_same before.symm)
  · split
    · exact .quiet rfl (Workers.role_goto_same before.symm)
    · split
      · exact .quiet rfl (Workers.role_goto_same before.symm)
      · exact .quiet rfl (Workers.role_goto_same before.symm)

open CooperativeSessionRunner in
/-- Every step is one of the moves. -/
theorem workersStep_move {action : WorkerAction} (taken : workersStep state action = some next) :
    Move state next action := by
  cases action with
  | attach id =>
      simp only [workersStep, Option.ite_none_right_eq_some, Option.some.injEq] at taken
      obtain ⟨free, rfl⟩ := taken
      exact .quiet rfl (Workers.role_set_same (Workers.role_eq free.1).symm)
  | enter id =>
      obtain ⟨known, rfl⟩ := Workers.move_eq taken
      exact .blocks id rfl rfl (.inl (Workers.role_eq known)) fun _ => Workers.role_goto _
  | acquire id =>
      obtain ⟨known, runner, done, rfl⟩ := Workers.claimToken_eq taken
      obtain ⟨free, granted⟩ := of_perform_acquire done
      exact .granted id rfl (Workers.role_eq known) free granted fun _ => Workers.role_goto _
  | read id =>
      have moved : state.move id .running .reading = some next := taken
      exact Workers.move_quiet moved rfl
  | test id =>
      simp only [workersStep, Option.ite_none_right_eq_some, Option.some.injEq] at taken
      obtain ⟨known, rfl⟩ := taken
      exact Workers.testInput_quiet (Workers.role_eq known)
  | plainWake id =>
      simp only [workersStep, Option.ite_none_right_eq_some] at taken
      exact Workers.move_quiet taken.2 rfl
  | yieldWaitingForInput id =>
      simp only [workersStep] at taken
      split at taken
      · rename_i known
        have before : state.role id = .holding := Workers.role_eq known
        split at taken
        · rename_i runner done
          cases taken
          exact .yielded id before done fun _ => Workers.role_goto _
        · cases taken
          exact .quiet rfl (Workers.role_goto_same before.symm)
      · cases taken
  | wake id =>
      simp only [workersStep] at taken
      split at taken
      · obtain ⟨known, rfl⟩ := Workers.move_eq taken
        exact .blocks id rfl rfl (.inr (Workers.role_eq known)) fun _ => Workers.role_goto _
      · rename_i empty
        split at taken
        · obtain ⟨known, rfl⟩ := Workers.move_eq taken
          exact .endOfFile id rfl (Workers.role_eq known) (not_not.mp empty)
            fun _ => Workers.role_goto _
        · cases taken
  | acquireAfterInputWake id =>
      obtain ⟨known, runner, done, rfl⟩ := Workers.claimToken_eq taken
      obtain ⟨free, granted⟩ := of_perform_acquireAfterInputWake done
      exact .granted id rfl (Workers.role_eq known) free granted fun _ => Workers.role_goto _
  | take id =>
      simp only [workersStep, Option.ite_none_right_eq_some, Option.some.injEq] at taken
      obtain ⟨known, rfl⟩ := taken
      exact .quiet rfl (Workers.role_set_same (Workers.role_eq known).symm)
  | leave id =>
      simp only [workersStep, Option.ite_none_right_eq_some, Option.some.injEq] at taken
      obtain ⟨known, rfl⟩ := taken
      exact .left id (Workers.role_eq known) rfl fun _ => Workers.role_goto _
  | exit id =>
      simp only [workersStep, Option.ite_none_right_eq_some, Option.some.injEq] at taken
      obtain ⟨known, rfl⟩ := taken
      have before : state.role id = .outside := Workers.role_eq known
      exact .exited id before rfl (Workers.role_goto_same before.symm)
  | push id bytes =>
      simp only [workersStep] at taken
      split at taken
      · split at taken
        · cases taken
          exact .quiet rfl fun _ => rfl
        · cases taken
          exact .quiet rfl (Workers.role_set_same rfl)
      · cases taken
  | resume =>
      simp only [workersStep] at taken
      split at taken
      · cases taken
      · rename_i id pending
        split at taken
        · cases taken
          exact .resumed id pending rfl fun _ => rfl
        · cases taken
          exact .quiet rfl fun _ => rfl
  | close id =>
      cases taken
      exact .quiet rfl (Workers.role_set_same rfl)
  | clearSessionScheduling id =>
      cases taken
      exact .quiet rfl (Workers.role_set_same rfl)
  | retireSession id =>
      cases taken
      exact .retired id rfl fun _ => rfl

end Moves

/-! ## What a step leaves alone -/

section Foreign

open CooperativeSessionRunner Gemini.Semantics

variable {id : SessionId} {state next : Workers} {action : WorkerAction}

/-- The worker and the channel of a session change in its own steps only. -/
theorem sessions_foreign (foreign : action.session ≠ some id)
    (taken : workersStep state action = some next) : next.sessions id = state.sessions id := by
  have different : ∀ other, action.session = some other → id ≠ other := by
    rintro other own rfl
    exact foreign own
  cases action with
  | acquire other =>
      obtain ⟨-, runner, -, rfl⟩ := Workers.claimToken_eq taken
      exact Workers.sessions_goto_of_ne (different other rfl) _
  | acquireAfterInputWake other =>
      obtain ⟨-, runner, -, rfl⟩ := Workers.claimToken_eq taken
      exact Workers.sessions_goto_of_ne (different other rfl) _
  | _ =>
      simp only [workersStep, Workers.move] at taken
      repeat' split at taken
      all_goals cases taken
      all_goals first
        | rfl
        | exact Workers.sessions_goto_of_ne (different _ rfl) _
        | exact Workers.sessions_set_of_ne (different _ rfl) _
        | exact Workers.sessions_testInput_of_ne (different _ rfl)

/-- The run state of a session changes in its own steps and by a resume only. -/
theorem lookup_foreign (foreign : action.session ≠ some id) (notResume : action ≠ .resume)
    (taken : workersStep state action = some next) :
    next.runner.sessionStates.lookup id = state.runner.sessionStates.lookup id := by
  cases workersStep_move taken with
  | quiet runner roles => rw [runner]
  | blocks other runner own before roles => rw [runner]
  | endOfFile other runner before empty roles => rw [runner]
  | granted other own before free runner roles =>
      have different : id ≠ other := by
        rintro rfl
        exact foreign own
      rw [grantAcquireLocked_eq free, Except.ok.injEq] at runner
      simp [← runner, different]
  | yielded other before runner roles =>
      have different : id ≠ other := by
        rintro rfl
        exact foreign rfl
      rw [(of_yieldWaitingForInput runner).2]
      simp [different]
  | left other before runner roles =>
      rw [runner]
      apply lookup_leaveExclusive
      rintro rfl
      exact foreign rfl
  | exited other before runner roles =>
      rw [runner, lookup_retireSession, if_neg]
      rintro rfl
      exact foreign rfl
  | retired other runner roles =>
      rw [runner, lookup_retireSession, if_neg]
      rintro rfl
      exact foreign rfl
  | resumed other pending runner roles => exact (notResume rfl).elim

/-- A run without steps of a session leaves its worker and its channel as they were. -/
theorem run_sessions_foreign {actions : List WorkerAction} {final : Workers}
    (foreign : ∀ action ∈ actions, action.session ≠ some id)
    (completed : run workersStep state actions = some final) :
    final.sessions id = state.sessions id := by
  induction actions generalizing state with
  | nil =>
      cases completed
      rfl
  | cons action rest inductionHypothesis =>
      simp only [run, Option.bind_eq_some_iff] at completed
      obtain ⟨next, taken, completed⟩ := completed
      rw [inductionHypothesis (fun other member => foreign other (.tail _ member)) completed]
      exact sessions_foreign (foreign action (.head _)) taken

end Foreign

/-! ## One interpreter at a time -/

/-- In the callback and not inside the wait of `readInputChar`. -/
def WorkerStage.executing (stage : WorkerStage) : Bool :=
  stage.role = .holding ∧ stage ≠ .plainWait

/-- A worker that executes callback code is the runner's active session, so no two do. -/
def OneInterpreter (state : Workers) : Prop :=
  (∀ id, (state.stage id).executing → state.runner.active = some id) ∧
    ∀ first second, (state.stage first).executing → (state.stage second).executing →
      first = second

/-- The condition on a step: no wait for input ends on a closed channel with nothing
queued, and no session is retired while its worker is in the callback. -/
def ReacquiresToken (state : Workers) : WorkerAction → Prop
  | .wake id => (state.sessions id).inputQueue ≠ []
  | .retireSession id => state.role id ≠ .holding
  | _ => True

/-- The token is with the one worker that is in its callback, at depth one. -/
structure TokenHeld (state : Workers) : Prop where
  holder : ∀ id, state.role id = .holding ↔ state.runner.active = some id
  depth : state.runner.active ≠ none → state.runner.depth = 1

/-- When interpreters hold the token, there is one at most. -/
theorem TokenHeld.oneInterpreter {state : Workers} (held : TokenHeld state) :
    OneInterpreter state := by
  have active : ∀ id, (state.stage id).executing → state.runner.active = some id := by
    intro id executing
    simp only [WorkerStage.executing, decide_eq_true_eq] at executing
    exact (held.holder id).mp executing.1
  refine ⟨active, fun first second one two => ?_⟩
  have same := (active first one).symm.trans (active second two)
  exact Option.some.inj same

open CooperativeSessionRunner

/-- A step that leaves the token and the roles alone. -/
theorem TokenHeld.same {state next : Workers} (held : TokenHeld state)
    (active : next.runner.active = state.runner.active)
    (depth : next.runner.depth = state.runner.depth)
    (roles : ∀ other, next.role other = state.role other) : TokenHeld next where
  holder other := by
    rw [roles, active]
    exact held.holder other
  depth := by
    rw [active, depth]
    exact held.depth

/-- A step in which only `id` has or had the token. -/
theorem TokenHeld.passed {state next : Workers} {id : SessionId} {role : WorkerRole}
    (held : TokenHeld state)
    (roles : ∀ other, next.role other = if other = id then role else state.role other)
    (before : state.runner.active = none ∨ state.runner.active = some id)
    (after : next.runner.active = none ∧ role ≠ .holding ∨
      next.runner.active = some id ∧ role = .holding ∧ next.runner.depth = 1) :
    TokenHeld next where
  holder other := by
    rw [roles]
    split
    · rename_i same
      subst same
      rcases after with ⟨free, notHolding⟩ | ⟨mine, holding, -⟩
      · simp [free, notHolding]
      · simp [mine, holding]
    · rename_i different
      rw [held.holder]
      rcases before with before | before <;> rcases after with ⟨after, -⟩ | ⟨after, -⟩ <;>
        simp [before, after, Ne.symm different]
  depth := by
    rcases after with ⟨free, -⟩ | ⟨-, -, one⟩
    · simp [free]
    · simp [one]

/-- A step that meets the condition keeps interpreters to the token. -/
theorem TokenHeld.step {state next : Workers} {action : WorkerAction} (held : TokenHeld state)
    (reacquires : ReacquiresToken state action) (taken : workersStep state action = some next) :
    TokenHeld next := by
  have active {id : SessionId} (notHolding : state.role id ≠ .holding) :
      state.runner.active ≠ some id := by
    rwa [Ne, ← held.holder]
  cases workersStep_move taken with
  | quiet runner roles => exact held.same (by rw [runner]) (by rw [runner]) roles
  | blocks id runner own before roles =>
      have notHeld : state.runner.active ≠ some id := by
        apply active
        rcases before with before | before <;> simp [before]
      refine ⟨fun other => ?_, by rw [runner]; exact held.depth⟩
      rw [roles, runner]
      split
      · rename_i same
        simp [same, notHeld]
      · exact held.holder other
  | endOfFile id runner before empty roles => exact (reacquires empty).elim
  | granted id own before free runner roles =>
      have none := free.resolve_right (active (by simp [before]))
      rw [grantAcquireLocked_eq free, Except.ok.injEq] at runner
      refine held.passed roles free (.inr ⟨?_, rfl, ?_⟩)
      · simp [← runner]
      · simp [← runner, none]
  | yielded id before runner roles =>
      obtain ⟨mine, after⟩ := of_yieldWaitingForInput runner
      exact held.passed roles (.inr mine) (.inl ⟨by simp [after], by decide⟩)
  | left id before runner roles =>
      have mine := (held.holder id).mp before
      have one := held.depth (by simp [mine])
      rw [leaveExclusive_outermost mine one] at runner
      exact held.passed roles (.inr mine) (.inl ⟨by simp [runner], by decide⟩)
  | exited id before runner roles =>
      rw [retireSession_of_not_held (active (by simp [before]))] at runner
      exact held.same (by rw [runner]) (by rw [runner]) roles
  | retired id runner roles =>
      rw [retireSession_of_not_held (active reacquires)] at runner
      exact held.same (by rw [runner]) (by rw [runner]) roles
  | resumed id pending runner roles =>
      exact held.same (by rw [runner]; rfl) (by rw [runner]; rfl) roles

/-- At the start no worker runs. -/
theorem tokenHeld_start : TokenHeld {} :=
  ⟨fun _ => by simp [Workers.role, Workers.stage, WorkerStage.role], fun some => (some rfl).elim⟩

open Gemini.Semantics

instance (state : Workers) : (action : WorkerAction) → Decidable (ReacquiresToken state action)
  | .wake _ => inferInstanceAs (Decidable (_ ≠ _))
  | .retireSession _ => inferInstanceAs (Decidable (_ ≠ _))
  | .attach _ | .enter _ | .acquire _ | .read _ | .test _ | .plainWake _
  | .yieldWaitingForInput _ | .acquireAfterInputWake _ | .take _ | .leave _ | .exit _
  | .push _ _ | .resume | .close _ | .clearSessionScheduling _ => isTrue trivial

/-- In every run of the daemon's workers, the pushes, the detaches and the kills, at most one
interpreter runs and it is the active session, as long as no wait ends on a closed and
empty channel and no session is retired in its callback. -/
theorem workers_oneInterpreter (actions : List WorkerAction)
    (reacquires : EachStep workersStep ReacquiresToken {} actions) :
    Always workersStep OneInterpreter {} actions :=
  (always_of_invariant TokenHeld.step tokenHeld_start reacquires).mono
    fun _ => TokenHeld.oneInterpreter

/-- Session 1 reads a byte that arrives after its yield, while session 2 runs. -/
def readAcrossSessions : List WorkerAction :=
  [.attach 1, .attach 2, .enter 1, .acquire 1, .enter 2, .read 1, .test 1,
    .yieldWaitingForInput 1, .acquire 2, .push 1 [0x41], .resume, .wake 1, .leave 2,
    .acquireAfterInputWake 1, .take 1, .leave 1, .exit 1]

/-- Two sessions that read in turn run one at a time. -/
theorem readAcrossSessions_oneInterpreter :
    (run workersStep {} readAcrossSessions).isSome ∧
      EachStep workersStep ReacquiresToken {} readAcrossSessions ∧
      Always workersStep OneInterpreter {} readAcrossSessions :=
  ⟨by decide +kernel, by decide +kernel,
    workers_oneInterpreter readAcrossSessions (by decide +kernel)⟩

/-- Session 1 is closed while it waits for input and session 2 runs. -/
def closedWhileWaiting : List WorkerAction :=
  [.attach 1, .attach 2, .enter 1, .acquire 1, .enter 2, .read 1, .test 1,
    .yieldWaitingForInput 1, .acquire 2, .close 1, .wake 1]

/-- The wait of session 1 ends without the token. -/
theorem closedWhileWaiting_two_interpreters :
    ¬ ∀ actions, Always workersStep OneInterpreter {} actions := by
  intro always
  have stages : (run workersStep {} closedWhileWaiting).map
      (fun final => ((final.stage 1).executing, (final.stage 2).executing)) =
        some (true, true) := by decide +kernel
  obtain ⟨final, completed, stages⟩ := Option.map_eq_some_iff.mp stages
  obtain ⟨first, second⟩ := Prod.mk.injEq .. ▸ stages
  have same := ((always closedWhileWaiting).finish completed).2 1 2 first second
  exact absurd same (by decide)

end Gemini.Daemon
