import Gemini.PickFS.Changes
import Gemini.PickShell.SessionTable

/-!
# Who owns the locks

The locks of a daemon belong to its live, logged-in sessions. A session's lock id is made
of its port, so no two sessions share one, and on every way out of an account (`LOGOFF`,
`LOGTO`, the end of the session) the locks are given up under the id they were taken with.

`Passes` says once what a session may do to the locks: what is left after it is either its
own, under its present id, or was there before and was not its own.
-/

namespace Gemini.PickShell

open Gemini.Semantics Gemini.Locking Gemini.PickFS Program
open Gemini.Daemon (SessionId)

/-! ## A session's lock id -/

/-- Two ports have different numbers. -/
theorem portNumber_injective {first second : SessionId}
    (same : portNumber first = portNumber second) : first = second :=
  UInt32.toBitVec_inj.mp (BitVec.toInt_inj.mp same)

/-- A lock id is not empty. -/
theorem makeSessionLockId_ne_empty (port : Int) (account username : String) :
    makeSessionLockId port account username ≠ "" := by
  intro empty
  have texts := congrArg String.toList empty
  rw [toList_makeSessionLockId] at texts
  cases texts

/-- A session of the table as its port and its login leave it. -/
structure Bound (port : SessionId) (session : GeminiSession) : Prop where
  whoPort : session.whoPort = portNumber port
  assigned : session.daemonPortAssigned = true
  shared : session.lockTable = true
  lockId : session.sessionLockId =
    if session.loggedIn then
      makeSessionLockId (portNumber port) session.sessionAccount session.sessionUsername
    else ""
  synced : session.fileSystem.lockSessionId = session.sessionLockId

namespace Bound

variable {port : SessionId} {session : GeminiSession}

/-- A session is logged in when it has a lock id. -/
theorem loggedIn_iff (bound : Bound port session) :
    session.loggedIn = true ↔ session.sessionLockId ≠ "" := by
  rw [bound.lockId]
  split
  · rename_i loggedIn
    simp only [loggedIn, true_iff]
    exact makeSessionLockId_ne_empty _ _ _
  · rename_i loggedOff
    simpa using loggedOff

/-- Sessions at different ports have different ids. -/
theorem sessionLockId_ne {other : SessionId} {second : GeminiSession} (first : Bound port session)
    (also : Bound other second) (different : port ≠ other) (loggedIn : session.loggedIn = true)
    (secondLoggedIn : second.loggedIn = true) : session.sessionLockId ≠ second.sessionLockId := by
  rw [first.lockId, also.lockId, if_pos loggedIn, if_pos secondLoggedIn]
  exact makeSessionLockId_ne (fun same => different (portNumber_injective same)) _ _ _ _

end Bound

/-! ## What a session does to the locks -/

/-- From one session and world to the next: a lock that is there afterwards is the
session's own, or it was there before and was not the session's. -/
structure Passes (port : SessionId) (session : GeminiSession) (world : World)
    (after : GeminiSession) (worldAfter : World) : Prop where
  bound : Bound port after
  owners : ∀ fileName recordName entry, worldAfter.locks.lookup fileName recordName = some entry →
    (after.loggedIn = true ∧ entry.ownerSessionId = after.sessionLockId) ∨
    (world.locks.lookup fileName recordName = some entry ∧
      (session.loggedIn = true → entry.ownerSessionId ≠ session.sessionLockId))

variable {port : SessionId} {session : GeminiSession}

/-- A file operation of the session. -/
theorem Bound.perform (bound : Bound port session) (operation : FileOperation)
    (faults : List Bool) (world : World) :
    Passes port session world session (FileAction.outcome
      { session := session.fileSystem, operation := operation, faults := faults } world).2 where
  bound := bound
  owners := by
    intro fileName recordName entry found
    have changes : Changes session.fileSystem (operation.deletes = some ·)
        { world with faults := faults } (FileAction.outcome
          { session := session.fileSystem, operation := operation, faults := faults } world).2 := by
      have ensured := perform_changes session.fileSystem operation { world with faults := faults }
        { world with faults := faults } .refl
      unfold FileAction.outcome
      split at ensured
      · rename_i ended
        rw [ended]
        exact ensured.1
      · rename_i ended
        rw [ended]
        exact ensured
    rcases changes_owner changes found with ⟨known, own⟩ | earlier
    · rw [bound.synced] at known own
      exact .inl ⟨bound.loggedIn_iff.mpr known, own⟩
    · by_cases own : session.loggedIn = true ∧ entry.ownerSessionId = session.sessionLockId
      · exact .inl own
      · exact .inr ⟨earlier, fun loggedIn same => own ⟨loggedIn, same⟩⟩

/-- The locks a session leaves when it gives up its own. -/
theorem Bound.releaseSessionLocks (bound : Bound port session) (world : World)
    {fileName recordName : String} {entry : LockEntry}
    (found : (session.releaseSessionLocks world).locks.lookup fileName recordName = some entry) :
    world.locks.lookup fileName recordName = some entry ∧
      (session.loggedIn = true → entry.ownerSessionId ≠ session.sessionLockId) := by
  unfold GeminiSession.releaseSessionLocks at found
  by_cases loggedIn : session.loggedIn = true
  · have known := bound.loggedIn_iff.mp loggedIn
    rw [if_pos (by simp [bound.shared, known])] at found
    simp only [LockTable.lookup_releaseAllForSession known] at found
    obtain ⟨earlier, present, foreign⟩ := Option.bind_eq_some_iff.mp found
    simp only [LockTable.foreign, Option.ite_none_left_eq_some, Option.some.injEq] at foreign
    obtain ⟨notOwn, rfl⟩ := foreign
    exact ⟨present, fun _ => notOwn⟩
  · have unknown : session.sessionLockId = "" := by
      refine of_not_not fun known => loggedIn (bound.loggedIn_iff.mpr known)
    rw [if_neg (by simp [unknown])] at found
    exact ⟨found, fun yes => absurd yes loggedIn⟩

/-- A reset gives up the session's locks. -/
theorem Bound.reset (bound : Bound port session) (world : World) :
    Passes port session world (session.reset world).1 (session.reset world).2 where
  bound := bound
  owners := by
    intro fileName recordName entry found
    exact .inr (bound.releaseSessionLocks world found)

/-- A logoff gives up the session's locks and its id. -/
theorem Bound.detach (bound : Bound port session) (world : World) :
    Passes port session world (session.detach world).1 (session.detach world).2 where
  bound := by
    simp only [GeminiSession.detach, GeminiSession.bindLockSession,
      GeminiSession.syncLockContextToFileSystem, ne_eq, not_true_eq_false, decide_false,
      Bool.and_false, Bool.false_eq_true, if_false]
    exact {
      whoPort := by rw [bound.assigned, if_pos rfl, bound.whoPort]
      assigned := bound.assigned
      shared := bound.shared
      lockId := rfl
      synced := rfl }
  owners := by
    intro fileName recordName entry found
    exact .inr (bound.releaseSessionLocks world found)

/-- After a logoff nobody is logged in. -/
theorem loggedIn_detach (world : World) : (session.detach world).1.loggedIn = false := rfl

/-- A session that is destroyed leaves no locks of its own. -/
theorem Bound.destroy (bound : Bound port session) (world : World) {fileName recordName : String}
    {entry : LockEntry}
    (found : (session.destroy world).2.locks.lookup fileName recordName = some entry) :
    world.locks.lookup fileName recordName = some entry ∧
      (session.loggedIn = true → entry.ownerSessionId ≠ session.sessionLockId) := by
  by_cases loggedIn : session.loggedIn = true
  · have detached := bound.detach world
    simp only [GeminiSession.destroy, if_pos loggedIn, GeminiSession.reset] at found
    obtain ⟨remaining, -⟩ := detached.bound.releaseSessionLocks (session.detach world).2 found
    rcases detached.owners fileName recordName entry remaining with own | earlier
    · rw [loggedIn_detach] at own
      exact absurd own.1 (by simp)
    · exact earlier
  · simp only [GeminiSession.destroy, if_neg loggedIn, GeminiSession.reset] at found
    exact bound.releaseSessionLocks world found

/-- Reading the default data file leaves the locks. -/
theorem locks_loadDefaultDataFileFromMd (fileSystem : FileSystem) (world : World) :
    (loadDefaultDataFileFromMd fileSystem world).2.locks = world.locks := by
  have steady : Steady fun other : World => other.locks = world.locks := fun _ same => same
  have read := @read_ensures fileSystem _ steady "MD" "DEFDATA" world rfl
  unfold loadDefaultDataFileFromMd
  split at read
  · rename_i value after ended
    rw [ended]
    cases value with
    | none => exact read.1
    | some record => exact read.1
  · rename_i ended
    rw [ended]
    exact read

/-- Another root changes no binding, and loading its default file locks nothing. -/
theorem Bound.setFileSystemRoot (bound : Bound port session) (root : Root) (world : World) :
    Bound port (session.setFileSystemRoot root world).1 ∧
      (session.setFileSystemRoot root world).1.loggedIn = session.loggedIn ∧
      (session.setFileSystemRoot root world).1.sessionLockId = session.sessionLockId ∧
      (session.setFileSystemRoot root world).2.locks = world.locks := by
  simp only [GeminiSession.setFileSystemRoot, GeminiSession.syncLockContextToFileSystem,
    bound.shared, Bool.true_and]
  refine ⟨?_, ?_, ?_, locks_loadDefaultDataFileFromMd _ world⟩
  · split
    · exact { bound with shared := rfl, synced := rfl }
    · rename_i unknown
      simp only [ne_eq, decide_not, Bool.not_eq_true', decide_eq_false_iff_not, not_not] at unknown
      exact { bound with shared := rfl, synced := unknown.symm }
  · split <;> rfl
  · split <;> rfl

/-- A login releases the locks of the login before and binds the new id. -/
theorem Bound.attach (bound : Bound port session) (user : UserSession) (userNo : String)
    (world : World) :
    Passes port session world (session.attach user userNo world).1
      (session.attach user userNo world).2 := by
  obtain ⟨rooted, loggedIn, lockId, locks⟩ := bound.setFileSystemRoot user.pickRoot world
  refine ⟨?_, ?_⟩
  · simp only [GeminiSession.attach, GeminiSession.reset, GeminiSession.bindLockSession,
      GeminiSession.syncLockContextToFileSystem, rooted.assigned, rooted.whoPort, rooted.shared,
      makeSessionLockId_ne_empty, ne_eq, not_false_eq_true, decide_true, Bool.and_true, if_true]
    exact {
      whoPort := rfl
      assigned := rfl
      shared := rfl
      lockId := rfl
      synced := rfl }
  · intro fileName recordName entry found
    obtain ⟨remaining, notOwn⟩ := rooted.releaseSessionLocks
      (session.setFileSystemRoot user.pickRoot world).2 found
    rw [locks] at remaining
    rw [loggedIn, lockId] at notOwn
    exact .inr ⟨remaining, notOwn⟩

/-! ## The table -/

/-- `port` is that of a live session that is logged in under the lock id `owner`. -/
def LoggedInAs (host : SessionHost) (port : SessionId) (owner : String) : Prop :=
  ∃ session, host.table.sessions.lookup port = some session ∧ session.loggedIn = true ∧
    session.sessionLockId = owner

/-- No lock is an orphan's, and no two sessions share an id. -/
structure OwnersLive (host : SessionHost) : Prop where
  live : ∀ fileName recordName entry,
    host.world.locks.lookup fileName recordName = some entry →
      ∃ port, LoggedInAs host port entry.ownerSessionId
  distinct : ∀ first second owner, LoggedInAs host first owner → LoggedInAs host second owner →
    first = second

/-- What every step keeps: sessions bound to their ports, and locks of live sessions. -/
structure OwnersBound (host : SessionHost) : Prop where
  bound : ∀ port session, host.table.sessions.lookup port = some session → Bound port session
  live : ∀ fileName recordName entry,
    host.world.locks.lookup fileName recordName = some entry →
      ∃ port, LoggedInAs host port entry.ownerSessionId

/-- Locks of bound sessions have live owners, and no two sessions share an id. -/
theorem OwnersBound.ownersLive {host : SessionHost} (owners : OwnersBound host) :
    OwnersLive host where
  live := owners.live
  distinct := by
    rintro first second owner ⟨session, found, loggedIn, rfl⟩ ⟨other, otherFound, otherIn, same⟩
    refine by_contra fun different => ?_
    exact (owners.bound _ _ found).sessionLockId_ne (owners.bound _ _ otherFound) different
      loggedIn otherIn same.symm

/-- A change of one session that passes its locks on keeps the owners bound. -/
theorem OwnersBound.update {host : SessionHost} (owners : OwnersBound host) (port : SessionId)
    {change : GeminiSession → World → GeminiSession × World}
    (passes : ∀ session, Bound port session →
      Passes port session host.world (change session host.world).1
        (change session host.world).2) :
    OwnersBound (host.update port change) := by
  unfold SessionHost.update
  split
  · exact owners
  · rename_i session found
    have passed := passes session (owners.bound port session found)
    refine ⟨?_, ?_⟩
    · intro other otherSession otherFound
      by_cases same : other = port
      · subst same
        simp only [AList.lookup_insert, Option.some.injEq] at otherFound
        exact otherFound ▸ passed.bound
      · simp only [AList.lookup_insert_ne same] at otherFound
        exact owners.bound other otherSession otherFound
    · intro fileName recordName entry locked
      rcases passed.owners fileName recordName entry locked with ⟨loggedIn, own⟩ | ⟨earlier, notOwn⟩
      · exact ⟨port, _, AList.lookup_insert _, loggedIn, own.symm⟩
      · -- The owner is another session, which is as it was.
        obtain ⟨owner, ownerSession, ownerFound, ownerIn, ownerId⟩ :=
          owners.live fileName recordName entry earlier
        refine ⟨owner, ownerSession, ?_, ownerIn, ownerId⟩
        have other : owner ≠ port := by
          rintro rfl
          rw [found, Option.some.injEq] at ownerFound
          subst ownerFound
          exact notOwn ownerIn ownerId.symm
        simpa only [AList.lookup_insert_ne other] using ownerFound

/-- A session that ends leaves no lock. -/
theorem OwnersBound.destroySession {host : SessionHost} (owners : OwnersBound host)
    (port : SessionId) : OwnersBound (host.destroySession port) := by
  unfold SessionHost.destroySession
  split
  · exact owners
  · rename_i session found
    have bound := owners.bound port session found
    refine ⟨?_, ?_⟩
    · intro other otherSession otherFound
      by_cases same : other = port
      · subst same
        simp at otherFound
      · simp only [AList.lookup_erase_ne same] at otherFound
        exact owners.bound other otherSession otherFound
    · intro fileName recordName entry locked
      obtain ⟨earlier, notOwn⟩ := bound.destroy host.world locked
      obtain ⟨owner, ownerSession, ownerFound, ownerIn, ownerId⟩ :=
        owners.live fileName recordName entry earlier
      refine ⟨owner, ownerSession, ?_, ownerIn, ownerId⟩
      have other : owner ≠ port := by
        rintro rfl
        rw [found, Option.some.injEq] at ownerFound
        subst ownerFound
        exact notOwn ownerIn ownerId.symm
      simpa only [AList.lookup_erase_ne other] using ownerFound

/-- A new session is bound to its port. -/
theorem bound_newSession (port : SessionId) : Bound port (SessionHost.newSession port) where
  whoPort := rfl
  assigned := rfl
  shared := rfl
  lockId := rfl
  synced := rfl

/-- A new session leaves the others bound. -/
theorem OwnersBound.createSession {host : SessionHost} (owners : OwnersBound host) :
    OwnersBound host.createSession.2 := by
  unfold SessionHost.createSession
  split
  · exact owners
  · split
    · exact ⟨owners.bound, owners.live⟩
    · rename_i port portManager _
      by_cases present : port ∈ host.table.sessions
      · simp only [if_pos present]
        exact ⟨owners.bound, owners.live⟩
      · simp only [if_neg present]
        have absent : host.table.sessions.lookup port = none := AList.lookup_eq_none.mpr present
        refine ⟨?_, ?_⟩
        · intro other session found
          by_cases same : other = port
          · subst same
            simp only [AList.lookup_insert, Option.some.injEq] at found
            exact found ▸ bound_newSession other
          · simp only [AList.lookup_insert_ne same] at found
            exact owners.bound other session found
        · intro fileName recordName entry locked
          obtain ⟨owner, session, found, loggedIn, ownerId⟩ :=
            owners.live fileName recordName entry locked
          refine ⟨owner, session, ?_, loggedIn, ownerId⟩
          have other : owner ≠ port := by
            rintro rfl
            rw [absent] at found
            cases found
          simpa only [AList.lookup_insert_ne other] using found

/-- One action keeps the owners bound. -/
theorem OwnersBound.step {host next : SessionHost} {action : SessionAction}
    (owners : OwnersBound host) (taken : sessionStep host action = some next) :
    OwnersBound next := by
  cases action with
  | create =>
      cases taken
      exact owners.createSession
  | destroy port =>
      cases taken
      exact owners.destroySession port
  | attach port user userNo faults =>
      cases taken
      refine owners.update port fun session bound => ?_
      -- The failures of the system calls are no part of the locks.
      exact { bound.attach user userNo { host.world with faults := faults } with }
  | detach port =>
      cases taken
      exact owners.update port fun session bound => bound.detach host.world
  | reset port =>
      cases taken
      exact owners.update port fun session bound => bound.reset host.world
  | perform port operation faults =>
      cases taken
      exact owners.update port fun session bound => bound.perform operation faults host.world

/-- In every state of every run of a daemon, each lock is that of a live logged-in session,
and no two live logged-in sessions have the same lock id. -/
theorem owners_live (maxPorts maxSessions : Nat) (disk : Root → Directory)
    (actions : List SessionAction) :
    Always sessionStep OwnersLive (.start maxPorts maxSessions { disk := disk }) actions := by
  have start : OwnersBound (.start maxPorts maxSessions { disk := disk }) := by
    refine ⟨?_, ?_⟩
    · intro port session found
      simp [SessionHost.start] at found
    · intro fileName recordName entry found
      simp [SessionHost.start, LockTable.lookup] at found
  have anyStep : EachStep sessionStep (fun _ _ => True)
      (.start maxPorts maxSessions { disk := disk }) actions :=
    eachStep_of_forall (fun _ _ => trivial) _
  exact (always_of_invariant (fun owners _ taken => owners.step taken) start anyStep).mono
    fun _ owners => owners.ownersLive

end Gemini.PickShell
