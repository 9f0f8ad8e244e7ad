import Gemini.PickFS.RecordLocking
import Gemini.PickFS.RecordStore

/-!
# What a failed operation leaves behind

An operation that fails is to leave the records and the locks as they were. The plain ones do:
they check everything before they change anything. A read or a write for update takes the lock
before it looks for the file, and the deletion of a file releases the locks on it before it
looks whether there is such a file.
-/

namespace Gemini.PickFS

open Gemini.Semantics Gemini.Locking Program

/-- The files with their records and the locks are what they were. -/
structure Unchanged (before after : World) : Prop where
  files : ∀ root fileName,
    (after.disk root).lookup fileName = (before.disk root).lookup fileName
  locks : ∀ fileName recordName,
    after.locks.lookup fileName recordName = before.locks.lookup fileName recordName

/-- A world has not changed from itself. -/
theorem Unchanged.refl (world : World) : Unchanged world world where
  files _ _ := rfl
  locks _ _ := rfl

/-- Where only the locks may have changed, the locks decide. -/
theorem unchanged_locks_iff (world : World) (locks : LockTable) :
    Unchanged world { world with locks } ↔ ∀ fileName recordName,
      locks.lookup fileName recordName = world.locks.lookup fileName recordName := by
  constructor
  · intro unchanged
    exact unchanged.locks
  · intro same
    exact ⟨fun _ _ => rfl, same⟩

/-- What is true of a world after a failure. -/
def FailsWith (world : World) {Value : Type} (program : FileM Value) (left : World → Prop) : Prop :=
  Ensures (· = world) program (fun _ _ => True) left

section Failures

variable {session : FileSystem} {world : World}

/-- On a host that does not fail a world stays the same over a system call. -/
theorem steady_same (faithful : world.faults = []) : Steady (· = world) := by
  intro after same
  subst same
  rw [faithful, List.tail_nil, ← faithful]

/-! ## The plain operations -/

/-- A write that fails leaves the world as it was. -/
theorem write_failsWith (session : FileSystem) (faithful : world.faults = []) (fileName : String)
    (record : Record) :
    FailsWith world (session.write fileName record) (· = world) := by
  have steady := steady_same faithful
  refine (openFile_ensures steady fileName).bind fun handle => .assume fun _ => ?_
  unfold FileSystem.writeRecord
  split
  · exact Ensures.throw fun _ same => same
  · refine ((assertRecordAccessible_ensures handle.name record.name).weakenPost
      fun _ _ => And.left).bind fun _ => ?_
    refine ((resolveRecordPath_ensures steady handle record.name).weakenPost
      fun _ _ => And.left).bind fun file => ?_
    refine (inspect_keeps steady _ _).bind ?_
    rintro (_ | _ | _)
    · exact Ensures.throw fun _ same => same
    · exact Ensures.throw fun _ same => same
    · refine (inspect_keeps steady _ _).bind ?_
      rintro (_ | _)
      · exact Ensures.throw fun _ same => same
      · -- The record is put in place by the last call, which either fails or is the end.
        refine Ensures.bind (@systemCall_ensures _ _ steady _ _
          (fun renamed after => renamed = none → after = world) (fun _ same _ => same)
          (fun _ _ => nofun)) ?_
        rintro (_ | _)
        · exact Ensures.throw fun _ same => same rfl
        · exact Ensures.pure fun _ _ => trivial

/-- Nothing is erased where there is nothing. -/
theorem lookup_eraseContent_of_missing {directory : Directory} {fileName : String}
    {file : RecordFile} (missing : directory.content fileName file = none) (other : String) :
    (directory.eraseContent fileName file).lookup other = directory.lookup other := by
  unfold Directory.eraseContent
  cases known : directory.records fileName with
  | none => rfl
  | some records =>
      have absent : records.lookup file = none := by
        rwa [Directory.content, known, Option.bind_some] at missing
      have kept : records.erase file = records := by
        refine AList.ext (List.kerase_of_notMem_keys ?_)
        exact AList.lookup_eq_none.mp absent
      have stored : directory.lookup fileName = some (.directory records) := by
        unfold Directory.records at known
        split at known
        · next found =>
            cases known
            exact found
        · cases known
      dsimp only
      rw [kept]
      by_cases same : other = fileName
      · subst same
        rw [AList.lookup_insert, stored]
      · rw [AList.lookup_insert_ne same]

/-- A release does not fail. -/
theorem releaseLock_returns {pre thrown : World → Prop} (fileName recordName : String) :
    Ensures pre (session.releaseLock fileName recordName) (fun _ _ => True) thrown := by
  unfold FileSystem.releaseLock
  split
  · exact Ensures.pure fun _ _ => trivial
  · exact Ensures.modifyGet fun _ _ => trivial

/-- A deletion of a record that fails leaves the world as it was. -/
theorem deleteRecord_failsWith (session : FileSystem) (faithful : world.faults = [])
    (handle : FileHandle) (recordName : String) :
    FailsWith world (session.deleteRecord handle recordName) (Unchanged world) := by
  have steady := steady_same faithful
  have same : ∀ after, after = world → Unchanged world after := by
    rintro after rfl
    exact .refl after
  unfold FileSystem.deleteRecord
  split
  · exact Ensures.throw same
  · refine ((assertRecordAccessible_ensures handle.name recordName).weakenPost
      fun _ _ => And.left).weakenThrown same |>.bind fun _ => ?_
    refine ((resolveRecordPath_ensures steady handle recordName).weakenPost
      fun _ _ => And.left).weakenThrown same |>.bind fun file => ?_
    refine Ensures.bind ((@systemCall_ensures _ _ steady _ _
      (fun removed after => removed.join ≠ some true → Unchanged world after)
      (fun after is _ => same after is) ?_).weakenThrown same) ?_
    · rintro after rfl notRemoved
      constructor
      · intro root fileName
        by_cases here : root = handle.root
        · subst here
          dsimp only
          rw [Function.update_self]
          cases known : (after.disk handle.root).lookup handle.name with
          | none =>
              have missing : (after.disk handle.root).content handle.name file = none := by
                simp [Directory.content, Directory.records, known]
              exact lookup_eraseContent_of_missing missing fileName
          | some storage =>
              cases storage with
              | other => rfl
              | directory records =>
                  rw [known] at notRemoved
                  have missing : (after.disk handle.root).content handle.name file = none := by
                    simpa using notRemoved
                  exact lookup_eraseContent_of_missing missing fileName
        · dsimp only
          rw [Function.update_of_ne here]
      · exact fun _ _ => rfl
    · intro removed
      rcases removed.join with _ | _ | _
      · exact Ensures.throw fun _ unchanged => unchanged (by decide)
      · exact Ensures.throw fun _ unchanged => unchanged (by decide)
      · exact (releaseLock_returns handle.name recordName).bind fun _ =>
          Ensures.pure fun _ _ => trivial

/-! ## The operations that lock -/

/-- The session gets the lock that it asks for. -/
structure TakesLock (session : FileSystem) (world : World) (fileName recordName : String) : Prop where
  enabled : session.lockingEnabled = true
  file : fileName ≠ ""
  record : recordName ≠ ""
  free : ∀ entry, world.locks.lookup fileName recordName = some entry →
    entry.ownerSessionId = session.lockSessionId

open Classical in
/-- The world after the session has asked for a lock. -/
noncomputable def lockedWorld (session : FileSystem) (world : World) (fileName recordName : String)
    (lockType : LockType) : World :=
  if TakesLock session world fileName recordName then
    { world with
      locks := world.locks.setLock fileName recordName ⟨session.lockSessionId, lockType⟩ }
  else world

/-- Where no lock is taken the world stays the same. -/
theorem lockedWorld_of_not {fileName recordName : String} {lockType : LockType}
    (notTaken : ¬ TakesLock session world fileName recordName) :
    lockedWorld session world fileName recordName lockType = world := by
  rw [lockedWorld, if_neg notTaken]

/-- Taking a lock makes no system call fail. -/
theorem faithful_lockedWorld {fileName recordName : String} {lockType : LockType}
    (faithful : world.faults = []) :
    (lockedWorld session world fileName recordName lockType).faults = [] := by
  unfold lockedWorld
  split <;> exact faithful

/-- No foreign lock is found when whatever is found is the session's own. -/
theorem bind_foreign_eq_none_iff {found : Option LockEntry} {sessionId : String} :
    found.bind (LockTable.foreign sessionId) = none ↔
      ∀ entry, found = some entry → entry.ownerSessionId = sessionId := by
  cases found with
  | none => simp
  | some entry => simp [LockTable.foreign]

/-- The lock table grants a lock exactly when the session gets it. -/
theorem tryAcquire_eq_ok_iff {fileName recordName : String} {lockType : LockType}
    (enabled : session.lockingEnabled = true) {locks : LockTable} :
    world.locks.tryAcquire session.lockSessionId fileName recordName lockType = .ok locks ↔
      TakesLock session world fileName recordName ∧
        locks = world.locks.setLock fileName recordName ⟨session.lockSessionId, lockType⟩ := by
  rw [LockTable.tryAcquire_eq]
  constructor
  · intro granted
    split at granted
    · cases granted
    · next valid =>
        obtain ⟨-, valid⟩ := not_or.mp valid
        obtain ⟨file, record⟩ := not_or.mp valid
        split at granted
        · cases granted
        · next unlocked =>
            cases granted
            exact ⟨⟨enabled, file, record, bind_foreign_eq_none_iff.mp unlocked⟩, rfl⟩
  · rintro ⟨takes, rfl⟩
    have valid : ¬ (session.lockSessionId = "" ∨ fileName = "" ∨ recordName = "") := by
      simp [lockSessionId_ne enabled, takes.file, takes.record]
    rw [if_neg valid, bind_foreign_eq_none_iff.mpr takes.free]

/-- A lock is taken, or the world is as it was. -/
theorem acquireRecordLock_ensures (fileName recordName : String) (lockType : LockType) :
    Ensures (· = world) (session.acquireRecordLock fileName recordName lockType)
      (fun _ after => after = lockedWorld session world fileName recordName lockType)
      (· = lockedWorld session world fileName recordName lockType) := by
  rintro before rfl
  unfold FileSystem.acquireRecordLock
  by_cases enabled : session.lockingEnabled = true
  · simp only [enabled, Bool.not_true, Bool.false_eq_true, if_false]
    rw [exec_bind, exec_lockCall]
    cases granted : before.locks.tryAcquire session.lockSessionId fileName recordName lockType with
    | ok locks =>
        obtain ⟨takes, rfl⟩ := (tryAcquire_eq_ok_iff enabled).mp granted
        rw [lockedWorld, if_pos takes]
        rfl
    | error conflict =>
        have notTaken : ¬ TakesLock session before fileName recordName := by
          intro takes
          rw [(tryAcquire_eq_ok_iff enabled).mpr ⟨takes, rfl⟩] at granted
          cases granted
        rw [lockedWorld_of_not notTaken]
        rfl
  · have notTaken : ¬ TakesLock session before fileName recordName := fun takes =>
      enabled takes.enabled
    simp only [enabled, Bool.not_false, if_true]
    exact (lockedWorld_of_not notTaken).symm

/-- A read for update that fails leaves its lock, if it got one. -/
theorem readU_failsWith (session : FileSystem) (faithful : world.faults = [])
    (fileName recordName : String) :
    FailsWith world (session.readU fileName recordName)
      (· = lockedWorld session world fileName recordName .ReadU) := by
  refine (acquireRecordLock_ensures fileName recordName .ReadU).bind fun _ => ?_
  exact (read_ensures (steady_same (faithful_lockedWorld faithful)) fileName recordName).weakenPost
    fun _ _ _ => trivial

/-- So does a write for update. -/
theorem writeU_failsWith (session : FileSystem) (faithful : world.faults = []) (fileName : String)
    (record : Record) :
    FailsWith world (session.writeU fileName record)
      (· = lockedWorld session world fileName record.name .WriteU) := by
  refine (acquireRecordLock_ensures fileName record.name .WriteU).bind fun _ => ?_
  exact write_failsWith session (faithful_lockedWorld faithful) fileName record

/-- A lock that the session gets is a change, unless it is the one it had. -/
theorem unchanged_lockedWorld_iff (fileName recordName : String) (lockType : LockType) :
    Unchanged world (lockedWorld session world fileName recordName lockType) ↔
      (TakesLock session world fileName recordName →
        world.locks.lookup fileName recordName = some ⟨session.lockSessionId, lockType⟩) := by
  by_cases takes : TakesLock session world fileName recordName
  · rw [lockedWorld, if_pos takes, unchanged_locks_iff]
    simp only [LockTable.lookup_setLock takes.file takes.record]
    constructor
    · intro same _
      have here := same fileName recordName
      rw [if_pos ⟨rfl, rfl⟩] at here
      exact here.symm
    · intro had otherFile otherRecord
      split
      · next same => rw [same.1, same.2, had takes]
      · rfl
  · rw [lockedWorld_of_not takes]
    exact iff_of_true (.refl world) (absurd · takes)

/-! ## The deletion of a file -/

/-- The world after the locks on a file have been released. -/
def unlockedWorld (session : FileSystem) (world : World) (fileName : String) : World :=
  if isValidName fileName && session.lockTable then
    { world with locks := (world.locks.releaseAllForFile fileName).2 }
  else world

/-- A deletion of a file that fails has released the locks of the file. -/
theorem deleteFile_failsWith (session : FileSystem) (faithful : world.faults = []) (fileName : String) :
    FailsWith world (session.deleteFile fileName) (· = unlockedWorld session world fileName) := by
  rintro before rfl
  unfold FileSystem.deleteFile
  by_cases valid : isValidName fileName = true
  · have released : exec (session.releaseFileLocks fileName) before =
        (.ok (), unlockedWorld session before fileName) := by
      unfold FileSystem.releaseFileLocks unlockedWorld
      by_cases bound : session.lockTable = true
      · simp only [valid, bound, Bool.and_true, if_true]
        rfl
      · simp only [bound, Bool.and_false, Bool.false_eq_true, if_false]
        rfl
    have faithfulAfter : (unlockedWorld session before fileName).faults = [] := by
      unfold unlockedWorld
      split <;> exact faithful
    simp only [valid, Bool.not_true, Bool.false_eq_true, if_false]
    rw [exec_bind, released]
    simp only [exec_bind, exec_requireDirectory faithfulAfter]
    cases known : ((unlockedWorld session before fileName).disk session.root).lookup fileName with
    | none => rfl
    | some storage =>
        cases storage with
        | other => rfl
        | directory records =>
            obtain ⟨after, -, -, removed⟩ := exec_removeEntries faithfulAfter session.root fileName
              records.keys
            simp only [removeAll, exec_bind, exec_inspect faithfulAfter, Directory.records, known,
              Option.map_some, removed]
            trivial
  · have same : unlockedWorld session before fileName = before := by
      simp [unlockedWorld, valid]
    simp only [valid, Bool.not_false, if_true]
    exact same.symm

/-- It has changed nothing when the file had no lock. -/
theorem unchanged_unlockedWorld_iff (fileName : String) :
    Unchanged world (unlockedWorld session world fileName) ↔
      (isValidName fileName = true → session.lockTable = true →
        ∀ recordName, world.locks.lookup fileName recordName = none) := by
  unfold unlockedWorld
  split
  · next both =>
      obtain ⟨valid, bound⟩ := Bool.and_eq_true_iff.mp both
      rw [unchanged_locks_iff]
      simp only [LockTable.lookup_releaseAllForFile]
      constructor
      · intro same _ _ recordName
        have here := same fileName recordName
        rw [if_pos rfl] at here
        exact here.symm
      · intro unlocked otherFile otherRecord
        split
        · next same => rw [same, unlocked valid bound]
        · rfl
  · next neither =>
      refine iff_of_true (.refl world) fun valid bound => ?_
      exact absurd (Bool.and_eq_true_iff.mpr ⟨valid, bound⟩) neither

/-! ## The operations together -/

/-- The result that is made of a value does not matter to the failure. -/
theorem FailsWith.returning {Value Result : Type} {program : FileM Value} {left : World → Prop}
    (fails : FailsWith world program left) (result : Value → Result) :
    FailsWith world (program >>= fun value => pure (result value)) left :=
  Ensures.bind fails fun _ => Ensures.pure fun _ _ => trivial

/-- The world that a failed run leaves. -/
theorem FailsWith.left {Value : Type} {program : FileM Value} {left : World → Prop}
    {error : String} (fails : FailsWith world program left)
    (failed : (exec program world).1 = .error error) : left (exec program world).2 := by
  have done := fails world rfl
  rcases outcome : exec program world with ⟨_ | _, after⟩
  · rw [outcome] at done
    exact done
  · rw [outcome] at failed
    cases failed

end Failures

/-- The operations that change records or locks, and check first whether they may. -/
def FileOperation.isGuarded : FileOperation → Bool
  | .readU _ _ => true
  | .writeU _ _ => true
  | .write _ _ => true
  | .deleteRecord _ _ => true
  | .deleteFile _ => true
  | _ => false

/-- The operation changes the locks before it has made all its checks. -/
def FileOperation.LocksEarly (session : FileSystem) (world : World) : FileOperation → Prop
  | .readU fileName recordName => TakesLock session world fileName recordName ∧
      world.locks.lookup fileName recordName ≠ some ⟨session.lockSessionId, .ReadU⟩
  | .writeU fileName record => TakesLock session world fileName record.name ∧
      world.locks.lookup fileName record.name ≠ some ⟨session.lockSessionId, .WriteU⟩
  | .deleteFile fileName => isValidName fileName = true ∧ session.lockTable = true ∧
      ∃ recordName entry, world.locks.lookup fileName recordName = some entry
  | _ => False

/-- A failed operation has changed nothing exactly when it does not change the locks early. -/
theorem failed_unchanged_iff {session : FileSystem} {world : World} {operation : FileOperation}
    {error : String} (faithful : world.faults = []) (guarded : operation.isGuarded = true)
    (failed : (exec (session.perform operation) world).1 = .error error) :
    Unchanged world (exec (session.perform operation) world).2 ↔
      ¬ operation.LocksEarly session world := by
  cases operation with
  | readU fileName recordName =>
      have left : FailsWith world (session.perform (.readU fileName recordName)) _ :=
        (readU_failsWith session faithful fileName recordName).returning FileResult.record
      rw [left.left failed, unchanged_lockedWorld_iff, FileOperation.LocksEarly, not_and_not_right]
  | writeU fileName record =>
      have left : FailsWith world (session.perform (.writeU fileName record)) _ :=
        (writeU_failsWith session faithful fileName record).returning fun _ => FileResult.done
      rw [left.left failed, unchanged_lockedWorld_iff, FileOperation.LocksEarly, not_and_not_right]
  | write fileName record =>
      have left : FailsWith world (session.perform (.write fileName record)) _ :=
        (write_failsWith session faithful fileName record).returning fun _ => FileResult.done
      rw [left.left failed]
      exact iff_of_true (.refl world) not_false
  | deleteRecord fileName recordName =>
      have left : FailsWith world (session.perform (.deleteRecord fileName recordName)) _ :=
        (deleteRecord_failsWith session faithful (session.handle fileName) recordName).returning
          fun _ => FileResult.done
      exact iff_of_true (left.left failed) not_false
  | deleteFile fileName =>
      have left : FailsWith world (session.perform (.deleteFile fileName)) _ :=
        (deleteFile_failsWith session faithful fileName).returning fun _ => FileResult.done
      rw [left.left failed, unchanged_unlockedWorld_iff, FileOperation.LocksEarly]
      simp [Option.eq_none_iff_forall_ne_some]
  | _ => cases guarded

/-- A file with one record, which the first session has locked. -/
def lockedRecord : World where
  disk := fun _ => AList.insert "DATA" (.directory (AList.insert ("R1", .item) "one" ∅)) ∅
  locks := { locks := AList.insert "DATA" (AList.insert "R1" firstLock ∅) ∅ }

/-- The second session is refused the record. -/
theorem refused_unchanged :
    Unchanged lockedRecord
      (exec (secondSession.perform (.writeU "DATA" (.ofText "R1" "lost"))) lockedRecord).2 := by
  refine (@failed_unchanged_iff secondSession lockedRecord (.writeU "DATA" (.ofText "R1" "lost"))
    "RECORD LOCKED: DATA R1 (owner S:1:SALES:USER1, READU)" rfl rfl rfl).mpr ?_
  rintro ⟨takes, -⟩
  exact absurd (takes.free firstLock rfl) (by decide)

/-- The lock on a record of a file that is not there is taken. -/
theorem missing_file_locked :
    (exec (secondSession.perform (.readU "GONE" "R1")) lockedRecord).1 =
        .error "File not found: GONE" ∧
      ¬ Unchanged lockedRecord
        (exec (secondSession.perform (.readU "GONE" "R1")) lockedRecord).2 := by
  refine ⟨rfl, fun unchanged => ?_⟩
  have free := unchanged.locks "GONE" "R1"
  cases free

end Gemini.PickFS
