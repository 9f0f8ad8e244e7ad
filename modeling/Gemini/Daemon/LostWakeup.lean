import Gemini.Daemon.SessionWorkers

/-!
# Wakeups of a reading session

Input for a waiting session is enqueued under the channel's mutex and then resumes
the session under the runner's. The reader tests the queue under the first mutex and
yields under the second, and between the two it holds neither: a resume that falls
there is overwritten by the yield, and the session waits for the token in a run state
that nothing will change. `WakeupPending` is the invariant that every other order
keeps.
-/

namespace Gemini.Daemon

open Gemini.Semantics CooperativeSessionRunner

/-- The reader waits for the token with bytes in its queue, its run state is
`WaitingForInput` and no resume is on its way. -/
def LostWakeup (id : SessionId) (state : Workers) : Prop :=
  state.stage id = .wakeAcquiring ∧ (state.sessions id).inputQueue ≠ [] ∧
    state.pendingResume ≠ some id ∧ state.runner.stateLocked id = .WaitingForInput

instance (id : SessionId) (state : Workers) : Decidable (LostWakeup id state) :=
  inferInstanceAs (Decidable (_ ∧ _))

/-- The condition on a step: the channel stays bound to the runner, and no resume of the
session is delivered between the reader's test of the queue and its yield. -/
def KeepsWakeup (id : SessionId) (state : Workers) : WorkerAction → Prop
  | .resume => state.pendingResume = some id → state.stage id ≠ .beforeYield
  | .clearSessionScheduling other => other ≠ id
  | _ => True

/-- Whenever the session has bytes and is about to wait, or waits, as `WaitingForInput`, a
resume is on its way. -/
structure WakeupPending (id : SessionId) (state : Workers) : Prop where
  bound : state.stage id ≠ .absent → (state.sessions id).scheduled = true
  beforeYield : state.stage id = .beforeYield → (state.sessions id).inputQueue ≠ [] →
    state.pendingResume = some id
  waiting : state.stage id = .inputWait → (state.sessions id).inputQueue ≠ [] →
    state.runner.stateLocked id = .WaitingForInput → state.pendingResume = some id
  acquiring : state.stage id = .wakeAcquiring →
    state.runner.stateLocked id = .WaitingForInput → state.pendingResume = some id

/-- Where a wakeup is pending, none is lost. -/
theorem WakeupPending.not_lost {id : SessionId} {state : Workers}
    (pending : WakeupPending id state) : ¬ LostWakeup id state := by
  rintro ⟨stage, -, none, waiting⟩
  exact none (pending.acquiring stage waiting)

section Steps

variable {id : SessionId} {state next : Workers} {action : WorkerAction}

/-- Nothing but its delivery takes a pending resume away. -/
theorem pendingResume_kept (notResume : action ≠ .resume)
    (taken : workersStep state action = some next) (pending : state.pendingResume = some id) :
    next.pendingResume = some id := by
  cases action with
  | resume => exact (notResume rfl).elim
  | acquire other =>
      obtain ⟨-, runner, -, rfl⟩ := Workers.claimToken_eq taken
      exact pending
  | acquireAfterInputWake other =>
      obtain ⟨-, runner, -, rfl⟩ := Workers.claimToken_eq taken
      exact pending
  | push other bytes => simp [workersStep, pending] at taken
  | test other =>
      simp only [workersStep] at taken
      split at taken <;> cases taken
      unfold Workers.testInput
      simp only
      repeat' split
      all_goals exact pending
  | _ =>
      simp only [workersStep, Workers.move] at taken
      repeat' split at taken
      all_goals cases taken
      all_goals exact pending

/-- A step that leaves the session alone, and a pending resume pending. -/
theorem WakeupPending.frame (before : WakeupPending id state)
    (sessions : next.sessions id = state.sessions id)
    (runState : next.runner.stateLocked id = .WaitingForInput →
      state.runner.stateLocked id = .WaitingForInput)
    (kept : state.pendingResume = some id → next.pendingResume = some id) :
    WakeupPending id next := by
  have stage : next.stage id = state.stage id := by rw [Workers.stage, Workers.stage, sessions]
  refine ⟨?_, ?_, ?_, ?_⟩
  · rw [stage, sessions]
    exact before.bound
  · rw [stage, sessions]
    exact fun at' bytes => kept (before.beforeYield at' bytes)
  · rw [stage, sessions]
    exact fun at' bytes waiting => kept (before.waiting at' bytes (runState waiting))
  · rw [stage]
    exact fun at' waiting => kept (before.acquiring at' (runState waiting))

/-- A stage in which the session cannot miss a resume. -/
def WorkerStage.safe : WorkerStage → Bool
  | .beforeYield => false
  | .inputWait => false
  | .wakeAcquiring => false
  | _ => true

/-- A worker that does not wait has no wakeup to lose. -/
theorem WakeupPending.of_safe (safe : (next.stage id).safe = true)
    (bound : next.stage id ≠ .absent → (next.sessions id).scheduled = true) :
    WakeupPending id next where
  bound := bound
  beforeYield at' := by simp [at', WorkerStage.safe] at safe
  waiting at' := by simp [at', WorkerStage.safe] at safe
  acquiring at' := by simp [at', WorkerStage.safe] at safe

/-- The worker goes on to a stage in which it cannot miss a resume. -/
theorem WakeupPending.goto_safe (before : WakeupPending id state)
    (present : state.stage id ≠ .absent)
    {target : WorkerStage} (safe : target.safe = true)
    (session : next.sessions id = { state.sessions id with stage := target }) :
    WakeupPending id next := by
  have stage : next.stage id = target := by rw [Workers.stage, session]
  apply WakeupPending.of_safe
  · rw [stage]
    exact safe
  · intro _
    rw [session]
    exact before.bound present

/-- A worker that moves on to a safe stage has no wakeup to lose. -/
theorem WakeupPending.move_safe (before : WakeupPending id state) {source target : WorkerStage}
    (present : source ≠ .absent) (safe : target.safe = true)
    (taken : state.move id source target = some next) : WakeupPending id next := by
  obtain ⟨known, rfl⟩ := Workers.move_eq taken
  exact before.goto_safe (by rwa [known]) safe (Workers.sessions_goto_self _)

/-- The worker gets the token it has asked for. -/
theorem WakeupPending.claimToken (before : WakeupPending id state) {call : RunnerCall}
    (own : call.id = id) {source target : WorkerStage} (present : source ≠ .absent)
    (safe : target.safe = true) (taken : state.claimToken call source target = some next) :
    WakeupPending id next := by
  subst own
  obtain ⟨known, runner, -, rfl⟩ := Workers.claimToken_eq taken
  exact before.goto_safe (by rwa [known]) safe (Workers.sessions_goto_self _)

/-- A change of the channel alone keeps it bound. -/
theorem bound_set (before : WakeupPending id state) {session : Session}
    (stage : session.stage = state.stage id)
    (scheduled : session.scheduled = (state.sessions id).scheduled) :
    (state.set id session).stage id ≠ .absent →
      ((state.set id session).sessions id).scheduled = true := by
  rw [Workers.stage, Workers.sessions_set_self, stage, scheduled]
  exact before.bound

/-- The reader's locked test leads to the yield only when the queue is empty. -/
theorem WakeupPending.test (before : WakeupPending id state)
    (taken : workersStep state (.test id) = some next) : WakeupPending id next := by
  simp only [workersStep] at taken
  split at taken
  · rename_i known
    have present : state.stage id ≠ .absent := by simp [known]
    cases taken
    unfold Workers.testInput
    simp only
    split
    · apply WakeupPending.of_safe
      · simp [WorkerStage.safe]
      · intro _
        rw [Workers.sessions_set_self]
        exact before.bound present
    · rename_i empty
      split
      · exact before.goto_safe present rfl (Workers.sessions_goto_self _)
      · split
        · exact before.goto_safe present rfl (Workers.sessions_goto_self _)
        · refine ⟨fun _ => ?_, fun _ bytes => ?_, by simp, by simp⟩
          · rw [Workers.sessions_goto_self]
            exact before.bound present
          · rw [Workers.sessions_goto_self] at bytes
            exact (bytes empty).elim
  · cases taken

/-- A yield keeps the wakeup pending. -/
theorem WakeupPending.yieldWaitingForInput (before : WakeupPending id state)
    (taken : workersStep state (.yieldWaitingForInput id) = some next) :
    WakeupPending id next := by
  simp only [workersStep] at taken
  split at taken
  · rename_i known
    have present : state.stage id ≠ .absent := by simp [known]
    split at taken
    · cases taken
      refine ⟨fun _ => ?_, by simp, fun _ bytes _ => ?_, by simp⟩
      · rw [Workers.sessions_goto_self]
        exact before.bound present
      · rw [Workers.sessions_goto_self] at bytes
        exact before.beforeYield known bytes
    · cases taken
      exact before.goto_safe present rfl (Workers.sessions_goto_self _)
  · cases taken

/-- So does a wake. -/
theorem WakeupPending.wake (before : WakeupPending id state)
    (taken : workersStep state (.wake id) = some next) : WakeupPending id next := by
  simp only [workersStep] at taken
  split at taken
  · rename_i bytes
    obtain ⟨known, rfl⟩ := Workers.move_eq taken
    refine ⟨fun _ => ?_, by simp, by simp, fun _ waiting => ?_⟩
    · rw [Workers.sessions_goto_self]
      exact before.bound (by simp [known])
    · exact before.waiting known bytes waiting
  · split at taken
    · exact before.move_safe (by decide) rfl taken
    · cases taken

/-- Bytes are enqueued, and the resume they cause is pending. -/
theorem WakeupPending.push (before : WakeupPending id state) {bytes : Bytes}
    (taken : workersStep state (.push id bytes) = some next) : WakeupPending id next := by
  simp only [workersStep] at taken
  split at taken
  · split at taken
    · cases taken
      exact before
    · cases taken
      exact ⟨bound_set before rfl rfl, fun _ _ => rfl, fun _ _ _ => rfl, fun _ _ => rfl⟩
  · cases taken

/-- So does the end of the channel. -/
theorem WakeupPending.close (before : WakeupPending id state) :
    WakeupPending id (state.set id { state.sessions id with closed := true }) := by
  have session := Workers.sessions_set_self state id { state.sessions id with closed := true }
  have stage : (state.set id { state.sessions id with closed := true }).stage id =
      state.stage id := by
    rw [Workers.stage, session]
    rfl
  refine ⟨bound_set before rfl rfl, ?_, ?_, ?_⟩
  · rw [stage, session]
    exact before.beforeYield
  · rw [stage, session]
    exact before.waiting
  · rw [stage]
    exact before.acquiring

/-- Delivering the session's own resume, outside the window before the yield. -/
theorem WakeupPending.resume (before : WakeupPending id state)
    (keeps : KeepsWakeup id state .resume) (taken : workersStep state .resume = some next) :
    WakeupPending id next := by
  simp only [workersStep] at taken
  split at taken
  · cases taken
  · rename_i other pending
    by_cases same : other = id
    · subst same
      by_cases absent : state.stage other = .absent
      · have stays : next.stage other = .absent := by
          split at taken <;> cases taken <;> exact absent
        exact .of_safe (by rw [stays]; rfl) (fun present => (present stays).elim)
      · rw [if_pos (before.bound absent)] at taken
        cases taken
        have runnable : ¬ (state.runner.resume other).stateLocked other = .WaitingForInput := by
          simp [CooperativeSessionRunner.resume]
        exact ⟨before.bound, fun at' _ => (keeps pending at').elim,
          fun _ _ waiting => (runnable waiting).elim, fun _ waiting => (runnable waiting).elim⟩
    · -- Another session's resume: this one had none pending.
      have none : state.pendingResume ≠ some id := by
        rw [pending]
        simpa using same
      split at taken
      · cases taken
        refine before.frame rfl (fun waiting => ?_) fun mine => (none mine).elim
        simpa [CooperativeSessionRunner.resume, Ne.symm same] using waiting
      · cases taken
        exact before.frame rfl (fun waiting => waiting) fun mine => (none mine).elim

/-- Every step that meets the condition keeps the wakeup pending. -/
theorem WakeupPending.step (before : WakeupPending id state)
    (keeps : KeepsWakeup id state action) (taken : workersStep state action = some next) :
    WakeupPending id next := by
  by_cases resumes : action = .resume
  · subst resumes
    exact before.resume keeps taken
  by_cases foreign : action.session ≠ some id
  · refine before.frame (sessions_foreign foreign taken) (fun waiting => ?_)
      (pendingResume_kept resumes taken)
    rwa [stateLocked_congr (lookup_foreign foreign resumes taken)] at waiting
  have own := not_not.mp foreign
  cases action with
  | resume => exact (resumes rfl).elim
  | attach other =>
      cases own
      simp only [workersStep, Option.ite_none_right_eq_some, Option.some.injEq] at taken
      obtain ⟨-, rfl⟩ := taken
      exact .of_safe (by simp [WorkerStage.safe]) fun _ => by rw [Workers.sessions_set_self]
  | enter other =>
      cases own
      exact before.move_safe (by decide) rfl taken
  | acquire other =>
      cases own
      exact before.claimToken rfl (by decide) rfl taken
  | read other =>
      cases own
      exact before.move_safe (by decide) rfl taken
  | test other =>
      cases own
      exact before.test taken
  | plainWake other =>
      cases own
      simp only [workersStep, Option.ite_none_right_eq_some] at taken
      exact before.move_safe (by decide) rfl taken.2
  | yieldWaitingForInput other =>
      cases own
      exact before.yieldWaitingForInput taken
  | wake other =>
      cases own
      exact before.wake taken
  | acquireAfterInputWake other =>
      cases own
      exact before.claimToken rfl (by decide) rfl taken
  | take other =>
      cases own
      simp only [workersStep, Option.ite_none_right_eq_some, Option.some.injEq] at taken
      obtain ⟨known, rfl⟩ := taken
      apply WakeupPending.of_safe
      · simp [WorkerStage.safe]
      · intro _
        rw [Workers.sessions_set_self]
        exact before.bound (by simp [known])
  | leave other =>
      cases own
      simp only [workersStep, Option.ite_none_right_eq_some, Option.some.injEq] at taken
      obtain ⟨known, rfl⟩ := taken
      exact before.goto_safe (by simp [known]) rfl (Workers.sessions_goto_self _)
  | exit other =>
      cases own
      simp only [workersStep, Option.ite_none_right_eq_some, Option.some.injEq] at taken
      obtain ⟨known, rfl⟩ := taken
      exact before.goto_safe (by simp [known]) rfl (Workers.sessions_goto_self _)
  | push other bytes =>
      cases own
      exact before.push taken
  | close other =>
      cases own
      cases taken
      exact before.close
  | clearSessionScheduling other =>
      cases own
      exact (keeps rfl).elim
  | retireSession other =>
      cases own
      cases taken
      refine before.frame rfl (fun waiting => ?_) (fun pending => pending)
      simp [stateLocked, lookup_retireSession] at waiting

end Steps

/-- Before the first worker there is no wakeup to lose. -/
theorem wakeupPending_start (id : SessionId) : WakeupPending id {} :=
  .of_safe rfl fun present => (present rfl).elim

instance (id : SessionId) (state : Workers) : (action : WorkerAction) →
    Decidable (KeepsWakeup id state action)
  | .resume => inferInstanceAs (Decidable (_ → _))
  | .clearSessionScheduling _ => inferInstanceAs (Decidable (_ ≠ _))
  | .attach _ | .enter _ | .acquire _ | .read _ | .test _ | .plainWake _
  | .yieldWaitingForInput _ | .wake _ | .acquireAfterInputWake _ | .take _ | .leave _ | .exit _
  | .push _ _ | .close _ | .retireSession _ => isTrue trivial

/-- In every interleaving of a session's reader with the pushes of the IPC thread and with
the other sessions, no wakeup is lost, as long as the channel stays bound and no resume of
the session falls between its test of the queue and its yield. -/
theorem workers_noLostWakeup (id : SessionId) (actions : List WorkerAction)
    (keeps : EachStep workersStep (KeepsWakeup id) {} actions) :
    Always workersStep (fun state => ¬ LostWakeup id state) {} actions :=
  (always_of_invariant WakeupPending.step (wakeupPending_start id) keeps).mono
    fun _ => WakeupPending.not_lost

/-- The byte is enqueued before the yield and resumes the session after it. -/
def resumedAfterYield : List WorkerAction :=
  [.attach 1, .enter 1, .acquire 1, .read 1, .test 1, .push 1 [0x41],
    .yieldWaitingForInput 1, .wake 1, .resume, .acquireAfterInputWake 1, .take 1]

/-- Input that comes after the yield wakes the worker. -/
theorem resumedAfterYield_noLostWakeup :
    (run workersStep {} resumedAfterYield).isSome ∧
      EachStep workersStep (KeepsWakeup 1) {} resumedAfterYield ∧
      Always workersStep (fun state => ¬ LostWakeup 1 state) {} resumedAfterYield :=
  ⟨by decide +kernel, by decide +kernel,
    workers_noLostWakeup 1 resumedAfterYield (by decide +kernel)⟩

/-- The byte is enqueued and resumes the session before the yield. -/
def resumedBeforeYield : List WorkerAction :=
  [.attach 1, .enter 1, .acquire 1, .read 1, .test 1, .push 1 [0x41], .resume,
    .yieldWaitingForInput 1, .wake 1]

/-- The reader waits for the token as `WaitingForInput`, with the byte in its queue. -/
theorem resumedBeforeYield_lost :
    ¬ ∀ id actions, Always workersStep (fun state => ¬ LostWakeup id state) {} actions := by
  intro always
  exact absurd (always 1 resumedBeforeYield) (by decide +kernel)

end Gemini.Daemon
