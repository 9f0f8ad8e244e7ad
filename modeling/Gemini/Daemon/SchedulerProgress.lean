import Gemini.Daemon.SessionWorkers

/-!
# Where the scheduler gets stuck

The round-robin choice is made over the entries of `sessionStates_`, and an entry can
say `Runnable` while no thread of that session waits for the token: after a worker has
left its `runExclusive`, after its exit when late input resumes the session, or
before a resumed reader has come to its wait. Such a phantom does no harm while no
worker is ready for the token, nor behind one that is; when it comes before all of
them, the token is reserved for it and nobody gets it.

`notStuck_iff` says so of a state, by the cyclic order of the choice. `KeepsTurn` is what
it takes of a step, and `workers_notStuck_iff` that a run stays clear of stuck states
exactly when all its steps meet it.
-/

namespace Gemini.Daemon

open Gemini.Semantics Gemini.Data CooperativeSessionRunner

/-- The wait predicate of the call a worker is blocked in. -/
def Workers.waitPredicate (state : Workers) (id : SessionId) : Bool :=
  match state.stage id with
  | .acquiring => state.runner.canAcquireLocked id
  | .wakeAcquiring => state.runner.canAcquireAfterInputWakeLocked id
  | _ => false

/-- A worker blocked in a call for the token with its run state `Runnable`. -/
def Workers.Ready (state : Workers) (id : SessionId) : Prop :=
  state.role id = .blocked ∧ state.runner.stateLocked id = .Runnable

instance (state : Workers) (id : SessionId) : Decidable (state.Ready id) :=
  inferInstanceAs (Decidable (_ ∧ _))

/-- When the token is free and some worker is ready, the wait predicate of a ready worker
is true. -/
def NotStuck (state : Workers) : Prop :=
  state.runner.active = none → (∃ id, state.Ready id) →
    ∃ id, state.Ready id ∧ state.waitPredicate id = true

/-- An entry is runnable. -/
def Workers.RunnableEntry (state : Workers) (id : SessionId) : Prop :=
  state.runner.sessionStates.lookup id = some .Runnable

/-- A session whose entry is runnable while its worker is not blocked in a call for the token. -/
def Workers.Phantom (state : Workers) (id : SessionId) : Prop :=
  state.RunnableEntry id ∧ state.role id ≠ .blocked

/-- A worker in `acquireAfterInputWake`, which does not wait for the round-robin choice. -/
def Workers.Woken (state : Workers) (id : SessionId) : Prop :=
  state.stage id = .wakeAcquiring

/-- The token is given up by `id`: no worker is ready, or one of the ready workers is in
`acquireAfterInputWake` or comes before every phantom in the order behind `id`. -/
def Workers.PassesOn (state : Workers) (id : SessionId) : Prop :=
  (∃ other, state.Ready other) → InTurn id state.Ready state.Woken state.Phantom

/-- A worker becomes ready in `acquire`: the token is taken, another worker is ready, or the
session comes before every phantom. -/
def Workers.JoinsFirst (state : Workers) (id : SessionId) : Prop :=
  state.runner.active = none → (∀ other, ¬ state.Ready other) →
    ∀ other, state.Phantom other → Precedes state.runner.lastServed id other

/-- A session becomes runnable without a blocked worker: the token is taken, no worker is ready,
or one of the ready workers is in `acquireAfterInputWake` or comes before that session. -/
def Workers.JoinsBehind (state : Workers) (id : SessionId) : Prop :=
  state.runner.active = none → (∃ other, state.Ready other) →
    ∃ other, state.Ready other ∧
      (state.Woken other ∨ Precedes state.runner.lastServed other id)

/-- The condition on a step: it does not put a phantom before all the workers that are ready.
A step does that when it gives the token up, when it makes the first worker ready, and when it
makes a phantom. -/
def KeepsTurn (state : Workers) : WorkerAction → Prop
  | .yieldWaitingForInput id =>
      state.stage id = .beforeYield → state.runner.active = some id → state.PassesOn id
  | .enter id =>
      state.stage id = .between → state.runner.stateLocked id = .Runnable → state.JoinsFirst id
  | .leave id =>
      state.stage id = .running →
        (state.runner.active = some id → state.PassesOn id) ∧
          (state.runner.stateLocked id = .WaitingForInput → state.JoinsBehind id)
  | .resume =>
      ∀ id ∈ state.pendingResume, (state.sessions id).scheduled = true →
        (state.stage id = .acquiring → state.JoinsFirst id) ∧
          (state.role id ≠ .blocked → state.JoinsBehind id)
  | .retireSession id =>
      (state.runner.active = some id → state.PassesOn id) ∧
        (state.stage id = .acquiring → state.JoinsFirst id)
  | _ => True

/-! ## The candidates -/

/-- The candidates are the runnable entries and the requester when it is runnable. -/
theorem mem_runnableSessions {runner : CooperativeSessionRunner} {id other : SessionId} :
    other ∈ runner.runnableSessions (some id) ↔
      runner.sessionStates.lookup other = some .Runnable ∨
        (other = id ∧ runner.stateLocked id = .Runnable) := by
  have entries : other ∈ (runner.sessionStates.entries.filterMap fun entry =>
      if entry.2 = .Runnable then some entry.1 else none) ↔
        runner.sessionStates.lookup other = some .Runnable := by
    rw [← Option.mem_def, AList.mem_lookup_iff, List.mem_filterMap]
    constructor
    · rintro ⟨⟨key, value⟩, member, chosen⟩
      simp only [Option.ite_none_right_eq_some, Option.some.injEq] at chosen
      obtain ⟨rfl, rfl⟩ := chosen
      exact member
    · intro member
      exact ⟨⟨other, .Runnable⟩, member, by simp⟩
  unfold runnableSessions
  simp only
  split
  · rename_i added
    rw [List.mem_append, entries, List.mem_singleton]
    simp [added.1]
  · rename_i known
    rw [entries]
    refine ⟨.inl, fun either => either.elim (fun runnable => runnable) ?_⟩
    rintro ⟨rfl, runnable⟩
    by_contra missing
    exact known ⟨runnable, fun member => missing (entries.mp member)⟩

/-- A ready worker that is the round-robin choice can go on. -/
theorem Workers.waitPredicate_of_choice {state : Workers} {id : SessionId}
    (free : state.runner.active = none) (ready : state.Ready id)
    (choice : state.runner.nextRunnableSessionLocked (some id) = some id) :
    state.waitPredicate id = true := by
  have runnable : state.runner.stateLocked id ≠ .WaitingForInput := by simp [ready.2]
  have blocked := ready.1
  unfold Workers.waitPredicate
  cases stage : state.stage id <;> simp [Workers.role, stage, WorkerStage.role] at blocked
  · exact canAcquireLocked_iff.mpr (.inr ⟨free, runnable, by simp [choice]⟩)
  · exact canAcquireAfterInputWakeLocked_iff.mpr (.inr ⟨free, runnable⟩)

/-- The choice of a ready worker that no phantom precedes is a ready worker, and it can go on. -/
theorem Workers.goesOn_of_first {state : Workers} {id : SessionId}
    (free : state.runner.active = none) (ready : state.Ready id)
    (first : ∀ other, state.Phantom other → Precedes state.runner.lastServed id other) :
    ∃ next, state.Ready next ∧ state.waitPredicate next = true := by
  have candidate : id ∈ state.runner.runnableSessions (some id) :=
    mem_runnableSessions.mpr (.inr ⟨rfl, ready.2⟩)
  cases choice : state.runner.nextRunnableSessionLocked (some id) with
  | none =>
      rw [nextRunnableSessionLocked, roundRobin_eq_none] at choice
      simp [choice] at candidate
  | some next =>
      by_cases own : next = id
      · subst own
        exact ⟨next, ready, Workers.waitPredicate_of_choice free ready choice⟩
      · -- Another session is the choice; its entry is runnable, and it is no phantom.
        have entry : state.RunnableEntry next := by
          rcases mem_runnableSessions.mp (roundRobin_mem choice) with entry | ⟨same, -⟩
          · exact entry
          · exact (own same).elim
        have blocked : state.role next = .blocked := by
          by_contra notBlocked
          have precedes := roundRobin_precedes choice candidate
          exact own (precedes.antisymm (first next ⟨entry, notBlocked⟩))
        have readyNext : state.Ready next := ⟨blocked, by
          have known : state.runner.sessionStates.lookup next = some .Runnable := entry
          simp [stateLocked, known]⟩
        refine ⟨next, readyNext, Workers.waitPredicate_of_choice free readyNext ?_⟩
        -- It comes before all entries, so it is its own choice as well.
        apply roundRobin_eq_some
        · exact mem_runnableSessions.mpr (.inl entry)
        · intro other member
          apply roundRobin_precedes choice
          rcases mem_runnableSessions.mp member with known | ⟨rfl, -⟩
          · exact mem_runnableSessions.mpr (.inl known)
          · exact mem_runnableSessions.mpr (.inl entry)

/-- A ready worker that goes on is in `acquireAfterInputWake`, or no phantom precedes it. -/
theorem Workers.first_of_goesOn {state : Workers} {id : SessionId}
    (free : state.runner.active = none) (ready : state.Ready id)
    (goesOn : state.waitPredicate id = true) :
    state.Woken id ∨
      ∀ other, state.Phantom other → Precedes state.runner.lastServed id other := by
  unfold Workers.waitPredicate at goesOn
  split at goesOn
  · right
    intro other phantom
    rcases canAcquireLocked_iff.mp goesOn with held | ⟨-, -, chosen⟩
    · simp [free] at held
    · have candidate : id ∈ state.runner.runnableSessions (some id) :=
        mem_runnableSessions.mpr (.inr ⟨rfl, ready.2⟩)
      cases choice : state.runner.nextRunnableSessionLocked (some id) with
      | none =>
          rw [nextRunnableSessionLocked, roundRobin_eq_none] at choice
          simp [choice] at candidate
      | some next =>
          obtain rfl := chosen next choice
          exact roundRobin_precedes choice (mem_runnableSessions.mpr (.inl phantom.1))
  · rename_i woken
    exact .inl woken
  · cases goesOn

/-- When a state is not stuck. -/
theorem notStuck_iff {state : Workers} : NotStuck state ↔
    (state.runner.active = none → (∃ id, state.Ready id) →
      InTurn state.runner.lastServed state.Ready state.Woken state.Phantom) := by
  constructor
  · intro notStuck free someReady
    obtain ⟨id, ready, goesOn⟩ := notStuck free someReady
    exact ⟨id, ready, Workers.first_of_goesOn free ready goesOn⟩
  · intro served free someReady
    obtain ⟨id, ready, woken | first⟩ := served free someReady
    · refine ⟨id, ready, ?_⟩
      have stage : state.stage id = .wakeAcquiring := woken
      have runnable : state.runner.stateLocked id ≠ .WaitingForInput := by simp [ready.2]
      rw [Workers.waitPredicate, stage]
      exact canAcquireAfterInputWakeLocked_iff.mpr (.inr ⟨free, runnable⟩)
    · exact Workers.goesOn_of_first free ready first

/-! ## One step -/

section Steps

variable {state next : Workers} {action : WorkerAction} {id : SessionId}

/-- A worker is ready after the step, in `acquireAfterInputWake`. -/
theorem notStuck_of_woken (woken : next.Woken id)
    (runnable : next.runner.stateLocked id = .Runnable) : NotStuck next := by
  have stage : next.stage id = .wakeAcquiring := woken
  rw [notStuck_iff]
  intro _ _
  refine ⟨id, ⟨?_, runnable⟩, .inl woken⟩
  rw [Workers.role, stage]
  rfl

/-- The workers and the entries of all sessions but `id` are as they were. -/
structure OnlyOf (state next : Workers) (id : SessionId) : Prop where
  stages : ∀ other, other ≠ id → next.stage other = state.stage other
  entries : ∀ other, other ≠ id →
    next.runner.sessionStates.lookup other = state.runner.sessionStates.lookup other

/-- A step of a session leaves the others alone. -/
theorem onlyOf_step (own : action.session = some id)
    (taken : workersStep state action = some next) : OnlyOf state next id := by
  have foreign (other : SessionId) (different : other ≠ id) : action.session ≠ some other := by
    rw [own]
    exact fun same => different (Option.some.inj same).symm
  have notResume : action ≠ .resume := by
    rintro rfl
    cases own
  exact
    { stages := fun other different => by
        rw [Workers.stage, Workers.stage, sessions_foreign (foreign other different) taken]
      entries := fun other different => lookup_foreign (foreign other different) notResume taken }

namespace OnlyOf

variable (only : OnlyOf state next id)
include only

/-- Who else is ready stays the same. -/
theorem ready_iff {other : SessionId} (different : other ≠ id) :
    next.Ready other ↔ state.Ready other := by
  simp only [Workers.Ready, Workers.role, only.stages other different, stateLocked,
    only.entries other different]

/-- Who else is in `acquireAfterInputWake` stays the same. -/
theorem woken_iff {other : SessionId} (different : other ≠ id) :
    next.Woken other ↔ state.Woken other := by
  simp only [Workers.Woken, only.stages other different]

/-- Who else is a phantom stays the same. -/
theorem phantom_iff {other : SessionId} (different : other ≠ id) :
    next.Phantom other ↔ state.Phantom other := by
  simp only [Workers.Phantom, Workers.RunnableEntry, Workers.role, only.stages other different,
    only.entries other different]

/-- Nothing changes in who is ready, when `id` is ready neither before nor after. -/
theorem ready_iff_of_not (before : ¬ state.Ready id) (after : ¬ next.Ready id)
    (other : SessionId) : next.Ready other ↔ state.Ready other := by
  by_cases same : other = id
  · rw [same]
    exact iff_of_false after before
  · exact only.ready_iff same

/-- One of those who are ready is in turn after the step as before it. -/
theorem inTurn_iff (before : ¬ state.Ready id) (after : ¬ next.Ready id) (last : SessionId)
    (phantoms : SessionId → Prop) :
    InTurn last next.Ready next.Woken phantoms ↔ InTurn last state.Ready state.Woken phantoms := by
  refine exists_congr fun other => ?_
  by_cases same : other = id
  · rw [same]
    exact iff_of_false (fun both => after both.1) (fun both => before both.1)
  · rw [only.ready_iff same, only.woken_iff same]

/-- The step changes neither who is ready nor who is a phantom. -/
theorem notStuck_of_same (before : ¬ state.Ready id) (after : ¬ next.Ready id)
    (phantom : next.Phantom id → state.Phantom id)
    (active : next.runner.active = none → state.runner.active = none)
    (lastServed : next.runner.lastServed = state.runner.lastServed) (notStuck : NotStuck state) :
    NotStuck next := by
  rw [notStuck_iff] at notStuck ⊢
  intro free someReady
  rw [lastServed, only.inTurn_iff before after]
  refine (notStuck (active free) ?_).mono fun other member => ?_
  · obtain ⟨other, ready⟩ := someReady
    exact ⟨other, (only.ready_iff_of_not before after other).mp ready⟩
  · by_cases same : other = id
    · exact same ▸ phantom (same ▸ member)
    · exact (only.phantom_iff same).mp member

/-- The token is given up by `id`. -/
theorem notStuck_iff_passesOn (before : ¬ state.Ready id) (after : ¬ next.Ready id)
    (free : next.runner.active = none) (lastServed : next.runner.lastServed = id) :
    NotStuck next ↔ state.PassesOn id := by
  rw [notStuck_iff, lastServed, only.inTurn_iff before after,
    inTurn_congr_of_last fun other different => only.phantom_iff different]
  simp only [free, true_imp_iff, only.ready_iff_of_not before after, Workers.PassesOn]

/-- A session becomes runnable while its worker is not blocked. -/
theorem notStuck_iff_joinsBehind (before : state.role id ≠ .blocked)
    (after : next.role id ≠ .blocked) (runnable : next.RunnableEntry id)
    (active : next.runner.active = state.runner.active)
    (lastServed : next.runner.lastServed = state.runner.lastServed) (notStuck : NotStuck state) :
    NotStuck next ↔ state.JoinsBehind id := by
  have notReady : ¬ state.Ready id := fun ready => before ready.1
  have notReadyAfter : ¬ next.Ready id := fun ready => after ready.1
  have phantoms : next.Phantom = fun other => state.Phantom other ∨ other = id := by
    funext other
    by_cases same : other = id
    · simp only [same, or_true, eq_iff_iff, iff_true]
      exact ⟨runnable, after⟩
    · simp [only.phantom_iff same, same]
  rw [notStuck_iff] at notStuck ⊢
  simp only [active, lastServed, only.inTurn_iff notReady notReadyAfter,
    only.ready_iff_of_not notReady notReadyAfter, phantoms, Workers.JoinsBehind]
  exact forall_congr' fun free => forall_congr' fun someReady =>
    inTurn_insert_iff (notStuck free someReady)

/-- A worker in `acquire` becomes ready. -/
theorem notStuck_iff_joinsFirst (acquiring : next.stage id = .acquiring)
    (runnable : next.runner.stateLocked id = .Runnable) (notWoken : ¬ state.Woken id)
    (active : next.runner.active = state.runner.active)
    (lastServed : next.runner.lastServed = state.runner.lastServed) (notStuck : NotStuck state) :
    NotStuck next ↔ state.JoinsFirst id := by
  have blocked : next.role id = .blocked := Workers.role_eq acquiring
  have ready : next.Ready id := ⟨blocked, runnable⟩
  have fewer (other : SessionId) (phantom : next.Phantom other) : state.Phantom other := by
    refine (only.phantom_iff ?_).mp phantom
    rintro rfl
    exact phantom.2 blocked
  rw [notStuck_iff] at notStuck ⊢
  rw [active, lastServed]
  constructor
  · intro inTurn free noneReady other phantom
    obtain ⟨first, readyFirst, chosen⟩ := inTurn free ⟨id, ready⟩
    have same : first = id := by
      by_contra different
      exact noneReady first ((only.ready_iff different).mp readyFirst)
    subst same
    rcases chosen with woken | precedes
    · rw [Workers.Woken, acquiring] at woken
      cases woken
    · by_cases own : other = first
      · rw [own]
        exact .refl _ _
      · exact precedes other ((only.phantom_iff own).mpr phantom)
  · intro joinsFirst free _
    by_cases someReady : ∃ other, state.Ready other
    · obtain ⟨first, readyFirst, chosen⟩ := (notStuck free someReady).mono fewer
      by_cases same : first = id
      · subst same
        exact ⟨first, ready, .inr (chosen.resolve_left notWoken)⟩
      · exact ⟨first, (only.ready_iff same).mpr readyFirst,
          chosen.imp_left (only.woken_iff same).mpr⟩
    · refine ⟨id, ready, .inr fun other phantom => ?_⟩
      exact joinsFirst free (not_exists.mp someReady) other (fewer other phantom)

end OnlyOf

/-! ## The holder -/

/-- The session that has the token is in its callback, at depth one. -/
def HolderBusy (state : Workers) : Prop :=
  ∀ id, state.runner.active = some id → state.role id = .holding ∧ state.runner.depth = 1

/-- Every step keeps it, also those that leave a worker in its callback without the token. -/
theorem HolderBusy.step (busy : HolderBusy state) (taken : workersStep state action = some next) :
    HolderBusy next := by
  intro holder active
  cases workersStep_move taken with
  | quiet runner roles =>
      rw [roles, runner]
      rw [runner] at active
      exact busy holder active
  | blocks id runner own before roles =>
      rw [runner] at active
      have holding := busy holder active
      have different : holder ≠ id := by
        rintro rfl
        rcases before with before | before <;> simp [before] at holding
      rw [roles, if_neg different, runner]
      exact holding
  | endOfFile id runner before empty roles =>
      rw [runner] at active
      have holding := busy holder active
      have different : holder ≠ id := by
        rintro rfl
        simp [before] at holding
      rw [roles, if_neg different, runner]
      exact holding
  | granted id own before free runner roles =>
      have none : state.runner.active = none := by
        refine free.resolve_right fun mine => ?_
        have holding := (busy id mine).1
        simp [before] at holding
      rw [grantAcquireLocked_eq free, Except.ok.injEq] at runner
      have mine : holder = id := by simpa [← runner, eq_comm] using active
      simp [roles, mine, ← runner, none]
  | yielded id before runner roles =>
      rw [(of_yieldWaitingForInput runner).2] at active
      cases active
  | left id before runner roles =>
      by_cases mine : state.runner.active = some id
      · rw [runner, leaveExclusive_outermost mine (busy id mine).2] at active
        cases active
      · have kept : next.runner.active = state.runner.active ∧
            next.runner.depth = state.runner.depth := by
          rw [runner, leaveExclusive, if_neg fun held => mine held.1]
          split <;> exact ⟨rfl, rfl⟩
        rw [kept.1] at active
        have different : holder ≠ id := by
          rintro rfl
          exact mine active
        rw [roles, if_neg different, kept.2]
        exact busy holder active
  | exited id before runner roles =>
      have notHeld : state.runner.active ≠ some id := by
        intro mine
        have holding := (busy id mine).1
        simp [before] at holding
      rw [runner, retireSession_of_not_held notHeld] at active ⊢
      rw [roles]
      exact busy holder active
  | retired id runner roles =>
      by_cases mine : state.runner.active = some id
      · rw [runner, retireSession_of_held mine] at active
        cases active
      · rw [runner, retireSession_of_not_held mine] at active ⊢
        rw [roles]
        exact busy holder active
  | resumed id pending runner roles =>
      rw [runner] at active ⊢
      rw [roles]
      exact busy holder active

/-! ## The steps that lose the turn -/

/-- A state is stuck by its runner and its stages. -/
theorem notStuck_congr (runner : next.runner = state.runner)
    (stages : ∀ other, next.stage other = state.stage other) : NotStuck next ↔ NotStuck state := by
  simp only [NotStuck, Workers.Ready, Workers.waitPredicate, Workers.role, runner, stages]

/-- A step that takes the token. -/
theorem notStuck_of_held (held : next.runner.active = some id) : NotStuck next := by
  intro free
  rw [held] at free
  cases free

/-- A call for the token that is granted. -/
theorem notStuck_of_granted {runner : CooperativeSessionRunner}
    (free : state.runner.active = none ∨ state.runner.active = some id)
    (granted : state.runner.grantAcquireLocked id = .ok runner) (after : next.runner = runner) :
    NotStuck next := by
  rw [grantAcquireLocked_eq free, Except.ok.injEq] at granted
  have held : next.runner.active = some id := by
    rw [after, ← granted]
    rfl
  exact notStuck_of_held held

/-- A step outside of the calls for the token that leaves the runner alone. -/
theorem notStuck_of_outside (own : action.session = some id)
    (taken : workersStep state action = some next) (runner : next.runner = state.runner)
    (before : state.role id ≠ .blocked) (after : next.role id ≠ .blocked)
    (notStuck : NotStuck state) : NotStuck next := by
  refine (onlyOf_step own taken).notStuck_of_same (fun ready => before ready.1)
    (fun ready => after ready.1) (fun phantom => ⟨?_, before⟩) ?_ ?_ notStuck
  · rw [Workers.RunnableEntry, ← runner]
    exact phantom.1
  · rw [runner]
    exact fun free => free
  · rw [runner]

/-- A worker goes on outside of the calls for the token. -/
theorem notStuck_of_move {source target : WorkerStage}
    (moved : state.move id source target = some next) (own : action.session = some id)
    (taken : workersStep state action = some next) (before : source.role ≠ .blocked)
    (after : target.role ≠ .blocked) (notStuck : NotStuck state) : NotStuck next := by
  obtain ⟨known, rfl⟩ := Workers.move_eq moved
  refine notStuck_of_outside own taken rfl ?_ ?_ notStuck
  · rwa [Workers.role_eq known]
  · simpa using after

/-- A change of a session's channel. -/
theorem notStuck_of_channel {session : Session} (notStuck : NotStuck state)
    (sessions : next.sessions = (state.set id session).sessions)
    (runner : next.runner = state.runner) (stage : session.stage = state.stage id) :
    NotStuck next := by
  refine (notStuck_congr runner fun other => ?_).mpr notStuck
  have changed : next.stage other = (state.set id session).stage other := by
    rw [Workers.stage, sessions, Workers.stage]
  rw [changed, Workers.stage_set]
  split
  · rename_i is
    rw [is, stage]
  · rfl

/-- A worker enters `acquire`. -/
theorem notStuck_iff_enter (notStuck : NotStuck state)
    (taken : workersStep state (.enter id) = some next) :
    NotStuck next ↔ KeepsTurn state (.enter id) := by
  have only : OnlyOf state next id := onlyOf_step rfl taken
  obtain ⟨known, rfl⟩ := Workers.move_eq taken
  have before : state.role id = .outside := Workers.role_eq known
  have notBlocked : state.role id ≠ .blocked := by simp [before]
  have acquiring : (state.goto id .acquiring).stage id = .acquiring := by simp
  have condition : KeepsTurn state (.enter id) ↔
      (state.runner.stateLocked id = .Runnable → state.JoinsFirst id) :=
    ⟨fun keeps => keeps known, fun joins _ => joins⟩
  rw [condition]
  by_cases runnable : state.runner.stateLocked id = .Runnable
  · rw [only.notStuck_iff_joinsFirst acquiring runnable (by simp [Workers.Woken, known]) rfl rfl
      notStuck]
    simp [runnable]
  · refine iff_of_true ?_ fun is => absurd is runnable
    refine only.notStuck_of_same (fun ready => notBlocked ready.1) (fun ready => runnable ready.2)
      (fun phantom => ?_) (fun free => free) rfl notStuck
    exact (phantom.2 (Workers.role_eq acquiring)).elim

/-- A reader is woken by input, or by the end of its channel. -/
theorem notStuck_wake (notStuck : NotStuck state)
    (taken : workersStep state (.wake id) = some next) : NotStuck next := by
  have only : OnlyOf state next id := onlyOf_step rfl taken
  have known : state.stage id = .inputWait := by
    simp only [workersStep] at taken
    split at taken
    · exact (Workers.move_eq taken).1
    · simp only [Option.ite_none_right_eq_some] at taken
      exact (Workers.move_eq taken.2).1
  have before : state.role id ≠ .blocked := by simp [Workers.role_eq known, WorkerStage.role]
  cases workersStep_move taken with
  | quiet runner roles =>
      exact notStuck_of_outside rfl taken runner before (by rwa [roles]) notStuck
  | endOfFile _ runner _ _ roles =>
      exact notStuck_of_outside rfl taken runner before (by simp [roles]) notStuck
  | granted other own blocked free runner roles =>
      cases own
      exact absurd blocked before
  | blocks other runner own away roles =>
      cases own
      have blocked : next.role id = .blocked := by simp [roles]
      by_cases runnable : state.runner.stateLocked id = .Runnable
      · have woken : next.Woken id := by
          simp only [workersStep] at taken
          split at taken
          · obtain ⟨-, rfl⟩ := Workers.move_eq taken
            simp [Workers.Woken]
          · simp only [Option.ite_none_right_eq_some] at taken
            obtain ⟨-, rfl⟩ := Workers.move_eq taken.2
            simp [WorkerStage.role] at blocked
        exact notStuck_of_woken woken (by rwa [runner])
      · refine only.notStuck_of_same (fun ready => before ready.1)
          (fun ready => runnable (by rw [← runner]; exact ready.2))
          (fun phantom => (phantom.2 blocked).elim) ?_ ?_ notStuck
        · rw [runner]
          exact fun free => free
        · rw [runner]

/-- A worker gives the token up to wait for input. -/
theorem notStuck_iff_yield (busy : HolderBusy state) (notStuck : NotStuck state)
    (taken : workersStep state (.yieldWaitingForInput id) = some next) :
    NotStuck next ↔ KeepsTurn state (.yieldWaitingForInput id) := by
  have only : OnlyOf state next id := onlyOf_step rfl taken
  have known : state.stage id = .beforeYield := by
    simp only [workersStep, Option.ite_none_right_eq_some] at taken
    exact taken.1
  have before : state.role id ≠ .blocked := by simp [Workers.role_eq known, WorkerStage.role]
  have condition : KeepsTurn state (.yieldWaitingForInput id) ↔
      (state.runner.active = some id → state.PassesOn id) :=
    ⟨fun keeps => keeps known, fun passes _ => passes⟩
  rw [condition]
  simp only [workersStep, known, if_true] at taken
  split at taken
  · rename_i runner done
    cases taken
    obtain ⟨mine, rfl⟩ := of_yieldWaitingForInput done
    rw [only.notStuck_iff_passesOn (fun ready => before ready.1)
      (fun ready => by simp [Workers.Ready, WorkerStage.role] at ready) rfl rfl]
    simp [mine]
  · rename_i failed
    cases taken
    have notMine : state.runner.active ≠ some id := by
      intro mine
      simp [CooperativeSessionRunner.yieldWaitingForInput, mine, (busy id mine).2] at failed
    refine iff_of_true ?_ fun mine => absurd mine notMine
    refine only.notStuck_of_same (fun ready => before ready.1)
      (fun ready => ?_) (fun phantom => ⟨phantom.1, before⟩) (fun free => free) rfl notStuck
    simp [Workers.Ready, WorkerStage.role] at ready

/-- A worker comes to the end of its `runExclusive`. -/
theorem notStuck_iff_leave (busy : HolderBusy state) (notStuck : NotStuck state)
    (taken : workersStep state (.leave id) = some next) :
    NotStuck next ↔ KeepsTurn state (.leave id) := by
  have only : OnlyOf state next id := onlyOf_step rfl taken
  simp only [workersStep, Option.ite_none_right_eq_some, Option.some.injEq] at taken
  obtain ⟨known, rfl⟩ := taken
  have before : state.role id ≠ .blocked := by simp [Workers.role_eq known, WorkerStage.role]
  have after : ({ state with runner := state.runner.leaveExclusive id }.goto id
      .between).role id ≠ .blocked := by simp [WorkerStage.role]
  have condition : KeepsTurn state (.leave id) ↔
      (state.runner.active = some id → state.PassesOn id) ∧
        (state.runner.stateLocked id = .WaitingForInput → state.JoinsBehind id) :=
    ⟨fun keeps => keeps known, fun both _ => both⟩
  rw [condition]
  by_cases mine : state.runner.active = some id
  · have runner := leaveExclusive_outermost mine (busy id mine).2
    rw [only.notStuck_iff_passesOn (fun ready => before ready.1) (fun ready => after ready.1)
      (by simp [Workers.goto, Workers.set, runner]) (by simp [Workers.goto, Workers.set, runner])]
    simp [mine, Workers.JoinsBehind]
  · by_cases waiting : state.runner.active = none ∧ state.runner.stateLocked id = .WaitingForInput
    · have runner : state.runner.leaveExclusive id = state.runner.setState id .Runnable := by
        rw [leaveExclusive, if_neg fun held => mine held.1, if_pos (by simp [waiting])]
      rw [only.notStuck_iff_joinsBehind before after
        (by simp [Workers.RunnableEntry, Workers.goto, Workers.set, runner])
        (by simp [Workers.goto, Workers.set, runner])
        (by simp [Workers.goto, Workers.set, runner]) notStuck]
      simp [waiting]
    · have runner : state.runner.leaveExclusive id = state.runner := by
        rw [leaveExclusive, if_neg fun held => mine held.1, if_neg]
        simpa using waiting
      refine iff_of_true ?_ ⟨fun is => absurd is mine, fun is free => absurd ⟨free, is⟩ waiting⟩
      refine only.notStuck_of_same (fun ready => before ready.1) (fun ready => after ready.1)
        (fun phantom => ⟨?_, before⟩) ?_ ?_ notStuck
      · simpa [Workers.RunnableEntry, Workers.goto, Workers.set, runner] using phantom.1
      · simp [Workers.goto, Workers.set, runner]
      · simp [Workers.goto, Workers.set, runner]

/-- A blocked worker is in one of the two calls for the token. -/
theorem woken_or_acquiring (blocked : state.role id = .blocked) :
    state.Woken id ∨ state.stage id = .acquiring := by
  unfold Workers.Woken
  cases stage : state.stage id <;> simp_all [Workers.role, WorkerStage.role]

/-- Late or awaited input resumes its session. -/
theorem notStuck_iff_resume (notStuck : NotStuck state)
    (taken : workersStep state .resume = some next) : NotStuck next ↔ KeepsTurn state .resume := by
  simp only [workersStep] at taken
  split at taken
  · cases taken
  · rename_i id pending
    have condition : KeepsTurn state .resume ↔ ((state.sessions id).scheduled = true →
        (state.stage id = .acquiring → state.JoinsFirst id) ∧
          (state.role id ≠ .blocked → state.JoinsBehind id)) := by
      constructor
      · exact fun keeps => keeps id pending
      · intro both other isPending
        cases Option.some.inj (pending.symm.trans isPending)
        exact both
    rw [condition]
    split at taken
    · rename_i scheduled
      cases taken
      have only : OnlyOf state { state with runner := state.runner.resume id
                                            pendingResume := none } id :=
        { stages := fun _ _ => rfl
          entries := fun other different => by simp [CooperativeSessionRunner.resume, different] }
      have runnable : (state.runner.resume id).stateLocked id = .Runnable := by
        simp [CooperativeSessionRunner.resume]
      simp only [scheduled, true_imp_iff]
      by_cases blocked : state.role id = .blocked
      · by_cases acquiring : state.stage id = .acquiring
        · rw [only.notStuck_iff_joinsFirst acquiring runnable (by simp [Workers.Woken, acquiring])
            rfl rfl notStuck]
          simp [blocked, acquiring]
        · have woken : state.Woken id := (woken_or_acquiring blocked).resolve_right acquiring
          exact iff_of_true (notStuck_of_woken woken runnable)
            ⟨fun is => absurd is acquiring, fun not => absurd blocked not⟩
      · have notAcquiring : state.stage id ≠ .acquiring := by
          intro is
          exact blocked (Workers.role_eq is)
        rw [only.notStuck_iff_joinsBehind blocked blocked
          (by simp [Workers.RunnableEntry, CooperativeSessionRunner.resume]) rfl rfl notStuck]
        simp [blocked, notAcquiring]
    · rename_i unscheduled
      cases taken
      exact iff_of_true ((notStuck_congr rfl fun _ => rfl).mpr notStuck)
        fun scheduled => absurd scheduled unscheduled

/-- The entry of a session is erased. -/
theorem notStuck_iff_retired (busy : HolderBusy state) (notStuck : NotStuck state)
    (only : OnlyOf state next id) (runner : next.runner = state.runner.retireSession id)
    (stage : next.stage id = state.stage id ∨ next.role id = .outside ∧ state.role id = .outside) :
    NotStuck next ↔ (state.runner.active = some id → state.PassesOn id) ∧
      (state.stage id = .acquiring → state.JoinsFirst id) := by
  have runnable : next.runner.stateLocked id = .Runnable := by
    rw [runner, stateLocked, lookup_retireSession, if_pos rfl]
    rfl
  have noEntry : ¬ next.RunnableEntry id := by
    rw [Workers.RunnableEntry, runner, lookup_retireSession, if_pos rfl]
    exact fun is => by cases is
  by_cases blocked : state.role id = .blocked
  · -- It waits for the token, and is ready from now on.
    have sameStage : next.stage id = state.stage id :=
      stage.resolve_right fun both => by simp [blocked] at both
    have notMine : state.runner.active ≠ some id := by
      intro mine
      exact absurd (busy id mine).1 (by simp [blocked])
    rw [retireSession_of_not_held notMine] at runner
    by_cases acquiring : state.stage id = .acquiring
    · rw [only.notStuck_iff_joinsFirst (sameStage.trans acquiring) runnable
        (by simp [Workers.Woken, acquiring]) (by rw [runner]) (by rw [runner]) notStuck]
      simp [notMine, acquiring]
    · have woken : next.Woken id :=
        sameStage.trans ((woken_or_acquiring blocked).resolve_right acquiring)
      exact iff_of_true (notStuck_of_woken woken runnable)
        ⟨fun is => absurd is notMine, fun is => absurd is acquiring⟩
  · have after : next.role id ≠ .blocked := by
      rcases stage with same | ⟨outside, -⟩
      · rwa [Workers.role, same]
      · simp [outside]
    have notAcquiring : state.stage id ≠ .acquiring := fun is => blocked (Workers.role_eq is)
    simp only [notAcquiring, false_imp_iff, and_true]
    by_cases mine : state.runner.active = some id
    · rw [retireSession_of_held mine] at runner
      rw [only.notStuck_iff_passesOn (fun ready => blocked ready.1) (fun ready => after ready.1)
        (by rw [runner]) (by rw [runner])]
      simp [mine]
    · rw [retireSession_of_not_held mine] at runner
      refine iff_of_true ?_ fun is => absurd is mine
      refine only.notStuck_of_same (fun ready => blocked ready.1) (fun ready => after ready.1)
        (fun phantom => absurd phantom.1 noEntry) ?_ ?_ notStuck
      · rw [runner]
        exact fun free => free
      · rw [runner]

/-- A step of a run keeps the scheduler going exactly when it meets the condition. -/
theorem notStuck_step_iff (busy : HolderBusy state) (notStuck : NotStuck state)
    (taken : workersStep state action = some next) :
    NotStuck next ↔ KeepsTurn state action := by
  cases action with
  | enter id => exact notStuck_iff_enter notStuck taken
  | yieldWaitingForInput id => exact notStuck_iff_yield busy notStuck taken
  | leave id => exact notStuck_iff_leave busy notStuck taken
  | resume => exact notStuck_iff_resume notStuck taken
  | retireSession id =>
      have only : OnlyOf state next id := onlyOf_step rfl taken
      cases taken
      exact notStuck_iff_retired busy notStuck only rfl (.inl rfl)
  | exit id =>
      have only : OnlyOf state next id := onlyOf_step rfl taken
      simp only [workersStep, Option.ite_none_right_eq_some, Option.some.injEq] at taken
      obtain ⟨known, rfl⟩ := taken
      have before : state.role id = .outside := Workers.role_eq known
      have notMine : state.runner.active ≠ some id := by
        intro mine
        have holding := (busy id mine).1
        simp [before] at holding
      refine iff_of_true ((notStuck_iff_retired busy notStuck only rfl ?_).mpr ?_) trivial
      · exact .inr ⟨by simp [WorkerStage.role], before⟩
      · exact ⟨fun is => absurd is notMine, fun is => by simp [known] at is⟩
  | acquire id =>
      obtain ⟨-, runner, done, rfl⟩ := Workers.claimToken_eq taken
      obtain ⟨free, granted⟩ := of_perform_acquire done
      exact iff_of_true (notStuck_of_granted free granted rfl) trivial
  | acquireAfterInputWake id =>
      obtain ⟨-, runner, done, rfl⟩ := Workers.claimToken_eq taken
      obtain ⟨free, granted⟩ := of_perform_acquireAfterInputWake done
      exact iff_of_true (notStuck_of_granted free granted rfl) trivial
  | wake id => exact iff_of_true (notStuck_wake notStuck taken) trivial
  | push id bytes =>
      simp only [workersStep] at taken
      repeat' split at taken
      all_goals cases taken
      · exact iff_of_true notStuck trivial
      · exact iff_of_true (notStuck_of_channel notStuck rfl rfl rfl) trivial
  | close id =>
      cases taken
      exact iff_of_true (notStuck_of_channel notStuck rfl rfl rfl) trivial
  | clearSessionScheduling id =>
      cases taken
      exact iff_of_true (notStuck_of_channel notStuck rfl rfl rfl) trivial
  | attach id =>
      have own := taken
      simp only [workersStep, Option.ite_none_right_eq_some, Option.some.injEq] at taken
      obtain ⟨⟨known, -⟩, rfl⟩ := taken
      refine iff_of_true (notStuck_of_outside rfl own rfl ?_ ?_ notStuck) trivial
      · simp [Workers.role_eq known, WorkerStage.role]
      · simp [WorkerStage.role]
  | read id =>
      have moved : state.move id .running .reading = some next := taken
      exact iff_of_true (notStuck_of_move moved rfl taken (by decide) (by decide) notStuck) trivial
  | plainWake id =>
      have moved := taken
      simp only [workersStep, Option.ite_none_right_eq_some] at moved
      refine iff_of_true ?_ trivial
      exact notStuck_of_move moved.2 rfl taken (by decide) (by decide) notStuck
  | test id =>
      have own := taken
      simp only [workersStep, Option.ite_none_right_eq_some, Option.some.injEq] at taken
      obtain ⟨known, rfl⟩ := taken
      have before : state.role id ≠ .blocked := by simp [Workers.role_eq known, WorkerStage.role]
      refine iff_of_true (notStuck_of_outside rfl own ?_ before ?_ notStuck) trivial
      · unfold Workers.testInput
        simp only
        repeat' split
        all_goals rfl
      · unfold Workers.testInput
        simp only
        repeat' split
        all_goals simp [WorkerStage.role]
  | take id =>
      have own := taken
      simp only [workersStep, Option.ite_none_right_eq_some, Option.some.injEq] at taken
      obtain ⟨known, rfl⟩ := taken
      refine iff_of_true (notStuck_of_outside rfl own rfl ?_ ?_ notStuck) trivial
      · simp [Workers.role_eq known, WorkerStage.role]
      · simp [WorkerStage.role]

end Steps

/-- Nothing is refused by the condition but steps that are taken. -/
theorem keepsTurn_of_refused {state : Workers} {action : WorkerAction}
    (refused : workersStep state action = none) : KeepsTurn state action := by
  cases action with
  | enter id =>
      intro known
      simp [workersStep, Workers.move, known] at refused
  | yieldWaitingForInput id =>
      intro known
      simp only [workersStep, known, if_true] at refused
      split at refused <;> cases refused
  | leave id =>
      intro known
      simp [workersStep, known] at refused
  | resume =>
      intro id pending
      simp only [workersStep, Option.mem_def.mp pending] at refused
      split at refused <;> cases refused
  | retireSession id => cases refused
  | _ => trivial

/-- At the start nobody has the token. -/
theorem holderBusy_start : HolderBusy {} := by
  intro id active
  cases active

/-- At the start nobody waits for the token. -/
theorem notStuck_start : NotStuck {} := by
  rintro - ⟨id, ready⟩
  cases ready.1

/-- In every run of the workers, the pushes and the kills, a free token with a ready worker
is one that a ready worker can take, in every state, exactly when no step puts a session without
a blocked worker before all the workers that are ready. -/
theorem workers_notStuck_iff (actions : List WorkerAction) :
    Always workersStep NotStuck {} actions ↔ EachStep workersStep KeepsTurn {} actions :=
  always_iff_eachStep HolderBusy.step keepsTurn_of_refused notStuck_step_iff holderBusy_start
    notStuck_start

/-- The worker of session 2 has exited when a last line of its client arrives; session 1
runs and waits for input, and session 3 asks for the token. -/
def inputAfterExit : List WorkerAction :=
  [.attach 1, .attach 2, .attach 3, .enter 2, .acquire 2, .leave 2, .exit 2,
    .push 2 [0x41], .resume, .enter 1, .acquire 1, .read 1, .test 1,
    .yieldWaitingForInput 1, .enter 3]

/-- The token is reserved for session 2, which has no thread. -/
theorem inputAfterExit_stuck : ¬ ∀ actions, Always workersStep NotStuck {} actions := by
  intro always
  have facts : (run workersStep {} inputAfterExit).map (fun final =>
      (final.runner.active, decide (final.Ready 3), final.waitPredicate 1, final.waitPredicate 2,
        final.waitPredicate 3)) = some (none, true, false, false, false) := by decide +kernel
  obtain ⟨final, completed, facts⟩ := Option.map_eq_some_iff.mp facts
  simp only [Prod.mk.injEq, decide_eq_true_eq] at facts
  obtain ⟨free, ready, first, second, third⟩ := facts
  obtain ⟨id, -, goesOn⟩ := (always inputAfterExit).finish completed free ⟨3, ready⟩
  by_cases known : id = 1 ∨ id = 2 ∨ id = 3
  · rcases known with rfl | rfl | rfl <;> simp_all
  · -- No other session has a worker.
    have named : ∀ action ∈ inputAfterExit,
        action.session ∈ [none, some 1, some 2, some 3] := by decide
    have foreign : ∀ action ∈ inputAfterExit, action.session ≠ some id := by
      intro action member is
      apply known
      simpa [is] using named action member
    have absent : final.stage id = .absent := by
      rw [Workers.stage, run_sessions_foreign foreign completed]
    simp [Workers.waitPredicate, absent] at goesOn

end Gemini.Daemon
