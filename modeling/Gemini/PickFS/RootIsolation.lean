import Gemini.Semantics.Run
import Gemini.PickFS.Comparison
import Gemini.PickShell.GeminiSession

/-!
# Sessions at different account roots

Two sessions whose files lie under different roots share nothing but the lock table,
which knows a record by its file name and id alone. Here the run of both sessions is
compared with the run in which the second session does nothing. The first session sees
the same as long as it does not come to a lock that the other holds on a record of the
same name, and the other does not delete a file of a name under which the first holds
locks.
-/

namespace Gemini.PickFS

open Gemini.Semantics Gemini.Locking Gemini.PickShell Program

/-! ## Two worlds as one session sees them -/

/-- The worlds have the same files under the session's root and the same locks of the
session; the right one has no other locks. -/
structure Beside (session : FileSystem) (left right : World) : Prop where
  disk : left.disk session.root = right.disk session.root
  locks : ∀ fileName recordName, right.locks.lookup fileName recordName =
    (left.locks.lookup fileName recordName).bind (LockTable.own session.lockSessionId)

/-- The worlds while an operation of the session is under way; `checked` is the record whose
lock it checks. -/
structure Level (session : FileSystem) (checked : Option (String × String)) (left right : World) :
    Prop where
  beside : Beside session left right
  faults : left.faults = right.faults
  lock : ∀ fileName recordName, checked = some (fileName, recordName) →
    left.locks.lookup fileName recordName = right.locks.lookup fileName recordName

section Agreement

variable {session : FileSystem} {checked : Option (String × String)} {left right : World}
  {Value : Type}

/-- A system call answers a session the same in both worlds. -/
theorem systemCall_agrees (level : Level session checked left right)
    (call : Directory → Value × Directory) :
    Agrees (Level session checked) (systemCall session.root call) left right := by
  refine Agrees.modifyGet ?_ ?_
  · simp only [level.faults, level.beside.disk]
    split <;> rfl
  · simp only [level.faults, level.beside.disk]
    split
    · exact ⟨⟨level.beside.disk, level.beside.locks⟩, rfl, level.lock⟩
    · exact ⟨⟨by simp, level.beside.locks⟩, rfl, level.lock⟩

/-- A call of the lock table that answers the same in both worlds and does the same to the
session's own locks. -/
theorem lockCall_agrees (level : Level session checked left right)
    {call : LockTable → Value × LockTable} (same : (call left.locks).1 = (call right.locks).1)
    (locks : ∀ fileName recordName, (call right.locks).2.lookup fileName recordName =
      ((call left.locks).2.lookup fileName recordName).bind
        (LockTable.own session.lockSessionId))
    (lock : ∀ fileName recordName, checked = some (fileName, recordName) →
      (call left.locks).2.lookup fileName recordName =
        (call right.locks).2.lookup fileName recordName) :
    Agrees (Level session checked) (lockCall call) left right :=
  Agrees.modifyGet same ⟨⟨level.beside.disk, locks⟩, level.faults, lock⟩

/-- The order in which own and foreign locks are filtered out does not matter. -/
theorem own_bind_foreign (sessionId : String) (found : Option LockEntry) :
    (found.bind (LockTable.own sessionId)).bind (LockTable.foreign sessionId) =
      (found.bind (LockTable.foreign sessionId)).bind (LockTable.own sessionId) := by
  cases found with
  | none => rfl
  | some entry =>
      by_cases owned : entry.ownerSessionId = sessionId <;>
        simp [LockTable.own, LockTable.foreign, owned]

/-- The own locks among the own locks are the own locks. -/
theorem own_bind_own (sessionId : String) (found : Option LockEntry) :
    (found.bind (LockTable.own sessionId)).bind (LockTable.own sessionId) =
      found.bind (LockTable.own sessionId) := by
  cases found with
  | none => rfl
  | some entry =>
      by_cases owned : entry.ownerSessionId = sessionId <;> simp [LockTable.own, owned]

/-- The lock that the session checks is the same in both worlds. -/
theorem lookup_agrees {fileName recordName : String}
    (level : Level session (some (fileName, recordName)) left right) :
    Agrees (Level session (some (fileName, recordName)))
      (lockCall fun locks => (locks.lookup fileName recordName, locks)) left right :=
  lockCall_agrees level (level.lock _ _ rfl) level.beside.locks level.lock

/-- A session releases a lock in both worlds alike. -/
theorem releaseLock_agrees (level : Level session checked left right)
    (fileName recordName : String) :
    Agrees (Level session checked) (session.releaseLock fileName recordName) left right := by
  unfold FileSystem.releaseLock
  split
  · exact .pure _ level
  · rename_i enabled
    have known : session.lockSessionId ≠ "" := lockSessionId_ne (by simpa using enabled)
    refine lockCall_agrees level ?_ (fun file record => ?_) fun file record isChecked => ?_
    · rw [LockTable.release_fst known, LockTable.release_fst known, level.beside.locks,
        own_bind_own]
    · rw [LockTable.lookup_release known, LockTable.lookup_release known, level.beside.locks]
      split
      · exact own_bind_foreign _ _
      · rfl
    · rw [LockTable.lookup_release known, LockTable.lookup_release known,
        level.lock file record isChecked]

/-- So it does with the locks of a file. -/
theorem releaseFileLocks_agrees (level : Level session checked left right) (fileName : String) :
    Agrees (Level session checked) (session.releaseFileLocks fileName) left right := by
  unfold FileSystem.releaseFileLocks
  split
  · refine lockCall_agrees level rfl (fun file record => ?_) fun file record isChecked => ?_
    · rw [LockTable.lookup_releaseAllForFile, LockTable.lookup_releaseAllForFile,
        level.beside.locks]
      split <;> rfl
    · rw [LockTable.lookup_releaseAllForFile, LockTable.lookup_releaseAllForFile,
        level.lock file record isChecked]
  · exact .pure _ level

/-- So it does with all its locks. -/
theorem releaseSessionLocks_agrees (level : Level session checked left right) :
    Agrees (Level session checked) session.releaseSessionLocks left right := by
  unfold FileSystem.releaseSessionLocks
  split
  · rename_i enabled
    have known := lockSessionId_ne enabled
    refine lockCall_agrees level rfl (fun file record => ?_) fun file record isChecked => ?_
    · rw [LockTable.lookup_releaseAllForSession known, LockTable.lookup_releaseAllForSession known,
        level.beside.locks]
      exact own_bind_foreign _ _
    · rw [LockTable.lookup_releaseAllForSession known, LockTable.lookup_releaseAllForSession known,
        level.lock file record isChecked]
  · exact .pure _ level

/-- A lock that is the same in both worlds is acquired in both or in neither. -/
theorem acquireRecordLock_agrees {fileName recordName : String}
    (level : Level session (some (fileName, recordName)) left right) (lockType : LockType) :
    Agrees (Level session (some (fileName, recordName)))
      (session.acquireRecordLock fileName recordName lockType) left right := by
  unfold FileSystem.acquireRecordLock
  split
  · exact .pure _ level
  · refine .bind ?_ fun {conflict _ _} _ level => ?_
    · rcases LockTable.tryAcquire_alike (level.lock _ _ rfl) lockType with
        ⟨conflict, refused, refusedRight⟩ | ⟨valid, validRecord, granted, grantedRight⟩
      · refine lockCall_agrees level ?_ (fun file record => ?_) fun file record isChecked => ?_
        · rw [refused, refusedRight]
        · rw [refused, refusedRight]
          exact level.beside.locks file record
        · rw [refused, refusedRight]
          exact level.lock file record isChecked
      · refine lockCall_agrees level ?_ (fun file record => ?_) fun file record isChecked => ?_
        · rw [granted, grantedRight]
        · rw [granted, grantedRight]
          simp only [LockTable.lookup_setLock valid validRecord]
          split
          · simp [LockTable.own]
          · exact level.beside.locks file record
        · rw [granted, grantedRight]
          simp only [LockTable.lookup_setLock valid validRecord, level.lock file record isChecked]
    · cases conflict with
      | none => exact .pure _ level
      | some conflict => exact .throw _ level

/-- The check of the compared record passes in both worlds or in neither. -/
theorem assertRecordAccessible_agrees {fileName recordName : String}
    (level : Level session (some (fileName, recordName)) left right) :
    Agrees (Level session (some (fileName, recordName)))
      (session.assertRecordAccessible fileName recordName) left right := by
  unfold FileSystem.assertRecordAccessible
  split
  · exact .pure _ level
  · refine .bind (lookup_agrees level) fun {found _ _} _ level => ?_
    cases found with
    | none => exact .pure _ level
    | some entry =>
        dsimp only
        split
        · exact .pure _ level
        · exact .throw _ level

/-- The calls of the session in both worlds, as long as the lock it checks is the same. -/
theorem level_respects : Respects session checked (Level session checked) where
  systemCall call _ _ level := systemCall_agrees level call
  acquireRecordLock isChecked lockType _ _ level := by
    subst isChecked
    exact acquireRecordLock_agrees level lockType
  assertRecordAccessible isChecked _ _ level := by
    subst isChecked
    exact assertRecordAccessible_agrees level
  releaseLock fileName recordName _ _ level := releaseLock_agrees level fileName recordName
  releaseFileLocks fileName _ _ level := releaseFileLocks_agrees level fileName
  releaseSessionLocks level := releaseSessionLocks_agrees level

end Agreement

/-! ## The other session's operations -/

section Other

variable {session other : FileSystem} {deletes : String → Prop} {left after right : World}

/-- A session's own lock is a lock that it owns. -/
theorem bind_own_eq_some {sessionId : String} {found : Option LockEntry} {entry : LockEntry} :
    found.bind (LockTable.own sessionId) = some entry ↔
      found = some entry ∧ entry.ownerSessionId = sessionId := by
  cases found <;> grind [LockTable.own]

/-- A permitted change of a session at another root, which deletes no file that the first
session has locks in, is not seen by the first session. -/
theorem Beside.change (beside : Beside session left right) (roots : session.root ≠ other.root)
    (ids : session.lockSessionId ≠ other.lockSessionId)
    (spared : ∀ fileName, deletes fileName →
      ∀ recordName, right.locks.lookup fileName recordName = none)
    (change : Change other deletes left after) : Beside session after right := by
  cases change with
  | faults => exact ⟨beside.disk, beside.locks⟩
  | directory changed =>
      refine ⟨?_, beside.locks⟩
      rw [← beside.disk]
      exact Function.update_of_ne roots _ _
  | locks changed =>
      refine ⟨beside.disk, fun fileName recordName => ?_⟩
      rw [beside.locks]
      ext entry
      rw [bind_own_eq_some, bind_own_eq_some]
      refine and_congr_left fun owned => (changed.foreign_iff (owned ▸ ids) ?_).symm
      intro deleted found
      have kept : right.locks.lookup fileName recordName = some entry := by
        rw [beside.locks, bind_own_eq_some]
        exact ⟨found, owned⟩
      simp [spared fileName deleted recordName] at kept

/-- Another session's changes keep the worlds beside each other. -/
theorem Beside.changes (beside : Beside session left right) (roots : session.root ≠ other.root)
    (ids : session.lockSessionId ≠ other.lockSessionId)
    (spared : ∀ fileName, deletes fileName →
      ∀ recordName, right.locks.lookup fileName recordName = none)
    (changes : Changes other deletes left after) : Beside session after right := by
  induction changes with
  | refl => exact beside
  | tail _ change inductionHypothesis => exact inductionHypothesis.change roots ids spared change

end Other

/-! ## The two runs -/

/-- The step meets no lock of a session by another's: an operation of the session checks no
lock that another session has, and another session's deletes no file the session has locks
in. -/
def KeepsApart (session : FileSystem) (world : World) (action : FileAction) : Prop :=
  if action.session = session then
    ∀ record ∈ checkedRecord session { world with faults := action.faults } action.operation,
      ∀ entry ∈ world.locks.lookup record.1 record.2,
        entry.ownerSessionId = session.lockSessionId
  else ∀ fileName ∈ action.operation.deletes,
    world.locks.holdsIn session.lockSessionId fileName = false

instance (session : FileSystem) (world : World) (action : FileAction) :
    Decidable (KeepsApart session world action) := by
  delta KeepsApart
  infer_instance

/-- What the operations of one session return or throw in a run. -/
def results (session : FileSystem) : World → List FileAction → List (Except String FileResult)
  | _, [] => []
  | world, action :: rest =>
      if action.session = session then
        (action.outcome world).1 :: results session (action.outcome world).2 rest
      else results session (action.outcome world).2 rest

/-- The world after all actions. -/
def finalWorld (world : World) (actions : List FileAction) : World :=
  actions.foldl (fun world action => (action.outcome world).2) world

/-- The lock on a record, when the session has it. -/
def heldLock (session : FileSystem) (world : World) (fileName recordName : String) :
    Option LockEntry :=
  (world.locks.lookup fileName recordName).bind (LockTable.own session.lockSessionId)

section Runs

variable {session : FileSystem} {left right : World} {action : FileAction}

/-- An operation of the session itself. -/
theorem Beside.own_step (beside : Beside session left right) (mine : action.session = session)
    (apart : KeepsApart session left action) :
    (action.outcome left).1 = (action.outcome right).1 ∧
      Beside session (action.outcome left).2 (action.outcome right).2 := by
  subst mine
  have level : Level action.session
      (checkedRecord action.session { left with faults := action.faults } action.operation)
      { left with faults := action.faults } { right with faults := action.faults } := by
    refine ⟨⟨beside.disk, beside.locks⟩, rfl, fun fileName recordName isChecked => ?_⟩
    rw [KeepsApart, if_pos rfl] at apart
    have unshared := apart _ isChecked
    rw [beside.locks]
    cases found : left.locks.lookup fileName recordName with
    | none => rfl
    | some entry =>
        have owned := unshared entry found
        simp [LockTable.own, owned]
  obtain ⟨same, after⟩ := Respects.perform action.operation level_respects level
  exact ⟨same, after.beside⟩

/-- An operation of a session at another root. -/
theorem Beside.other_step (beside : Beside session left right)
    (roots : session.root ≠ action.session.root)
    (ids : session.lockSessionId ≠ action.session.lockSessionId)
    (apart : KeepsApart session left action) : Beside session (action.outcome left).2 right := by
  have theirs : action.session ≠ session := fun same => roots (same ▸ rfl)
  have started : Beside session { left with faults := action.faults } right :=
    ⟨beside.disk, beside.locks⟩
  have spared (fileName : String) (deleted : action.operation.deletes = some fileName)
      (recordName : String) : right.locks.lookup fileName recordName = none := by
    rw [KeepsApart, if_neg theirs] at apart
    have free := apart fileName deleted
    rw [beside.locks]
    refine Option.eq_none_iff_forall_ne_some.mpr fun entry held => ?_
    rw [bind_own_eq_some] at held
    exact LockTable.not_holdsIn free held.1 held.2
  have performed := perform_changes action.session action.operation
    { left with faults := action.faults } _ .refl
  unfold FileAction.outcome
  split at performed
  · rename_i result final done
    rw [done]
    exact started.changes roots ids spared performed.1
  · rename_i error final failed
    rw [failed]
    exact started.changes roots ids spared performed

/-- The run of both sessions beside the run of one. -/
theorem Beside.run {other : FileSystem} (roots : session.root ≠ other.root)
    (ids : session.lockSessionId ≠ other.lockSessionId) {actions : List FileAction}
    (parties : ∀ action ∈ actions, action.session = session ∨ action.session = other)
    (beside : Beside session left right)
    (apart : EachStep fileStep (KeepsApart session) left actions) :
    results session left actions =
        results session right (actions.filter fun action => action.session = session) ∧
      Beside session (finalWorld left actions)
        (finalWorld right (actions.filter fun action => action.session = session)) := by
  induction actions generalizing left right with
  | nil => exact ⟨rfl, beside⟩
  | cons action rest inductionHypothesis =>
      obtain ⟨here, later⟩ := apart
      have restParties : ∀ action ∈ rest, action.session = session ∨ action.session = other :=
        fun later member => parties later (List.mem_cons_of_mem _ member)
      by_cases mine : action.session = session
      · obtain ⟨same, after⟩ := beside.own_step mine here
        obtain ⟨results, final⟩ := inductionHypothesis restParties after later
        rw [List.filter_cons_of_pos (by simpa using mine)]
        exact ⟨by simp only [PickFS.results, mine, if_true, same, results], final⟩
      · have theirs := (parties action List.mem_cons_self).resolve_left mine
        have after := beside.other_step (theirs ▸ roots) (theirs ▸ ids) here
        obtain ⟨results, final⟩ := inductionHypothesis restParties after later
        rw [List.filter_cons_of_neg (by simpa using mine)]
        exact ⟨by simp only [PickFS.results, mine, if_false, results], final⟩

end Runs

/-- Two sessions attached to different roots, on different ports. In every run whose steps
keep apart, the first session's results and locks are those of the run without the second
session. -/
theorem sessions_isolated (first second : UserSession) (ports : first.port ≠ second.port)
    (roots : first.pickRoot ≠ second.pickRoot) (world : World)
    (ownLocks : ∀ fileName recordName entry, world.locks.lookup fileName recordName = some entry →
      entry.ownerSessionId = first.attach.lockSessionId)
    (actions : List FileAction)
    (parties : ∀ action ∈ actions,
      action.session = first.attach ∨ action.session = second.attach)
    (apart : EachStep fileStep (KeepsApart first.attach) world actions) :
    let alone := actions.filter fun action => action.session = first.attach
    results first.attach world actions = results first.attach world alone ∧
      ∀ fileName recordName,
        heldLock first.attach (finalWorld world actions) fileName recordName =
          heldLock first.attach (finalWorld world alone) fileName recordName := by
  have beside : Beside first.attach world world := by
    refine ⟨rfl, fun fileName recordName => ?_⟩
    cases found : world.locks.lookup fileName recordName with
    | none => rfl
    | some entry => simp [LockTable.own, ownLocks _ _ _ found]
  have ids : first.attach.lockSessionId ≠ second.attach.lockSessionId :=
    makeSessionLockId_ne ports _ _ _ _
  obtain ⟨same, final⟩ := Beside.run roots ids parties beside apart
  refine ⟨same, fun fileName recordName => ?_⟩
  rw [heldLock, heldLock, final.locks, own_bind_own]

/-! ### Two runs of two accounts -/

/-- A user of the first account. -/
def salesSession : UserSession where
  pickRoot := "sales"
  username := "USER1"
  accountName := "SALES"
  port := 1

/-- A user of the second account. -/
def stockSession : UserSession where
  pickRoot := "stock"
  username := "USER2"
  accountName := "STOCK"
  port := 2

/-- Both accounts have a file of the same name, and lock different records of it. -/
def differentRecords : List FileAction :=
  [{ session := salesSession.attach, operation := .createFile "DATA" },
    { session := stockSession.attach, operation := .createFile "DATA" },
    { session := salesSession.attach, operation := .writeU "DATA" (.ofText "R1" "sales") },
    { session := stockSession.attach, operation := .writeU "DATA" (.ofText "R2" "stock") },
    { session := stockSession.attach, operation := .deleteRecord "DATA" "R2" },
    { session := salesSession.attach, operation := .readU "DATA" "R2" }]

/-- Two accounts that use different records do not meet. -/
theorem differentRecords_isolated :
    EachStep fileStep (KeepsApart salesSession.attach) {} differentRecords ∧
      results salesSession.attach {} differentRecords =
        results salesSession.attach {}
          (differentRecords.filter fun action => action.session = salesSession.attach) :=
  have apart : EachStep fileStep (KeepsApart salesSession.attach) {} differentRecords := by
    decide +kernel
  ⟨apart, (sessions_isolated salesSession stockSession (by decide) (by decide) {}
    (by simp [LockTable.lookup]) differentRecords (by decide +kernel) apart).1⟩

/-- The second session reads a record for update, the first its own record of that name. -/
def sameRecord : List FileAction :=
  [{ session := salesSession.attach, operation := .createFile "DATA" },
    { session := stockSession.attach, operation := .readU "DATA" "R1" },
    { session := salesSession.attach, operation := .read "DATA" "R1" }]

/-- The first session finds its record locked, and free when the second is not there. -/
theorem sameRecord_not_isolated :
    results salesSession.attach {} sameRecord ≠
      results salesSession.attach {}
        (sameRecord.filter fun action => action.session = salesSession.attach) := by
  intro same
  have locked : (results salesSession.attach {} sameRecord).map Except.toOption =
      [some .done, none] := by decide +kernel
  have free : (results salesSession.attach {}
      (sameRecord.filter fun action => action.session = salesSession.attach)).map
        Except.toOption = [some .done, some (.record none)] := by decide +kernel
  rw [same, free] at locked
  simp at locked

end Gemini.PickFS
