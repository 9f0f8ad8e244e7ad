import Mathlib.Logic.Relation
import Gemini.PickFS.FileSystem

/-!
# What an operation may change

The abstract view of a session's operations: a sequence of changes, each of which the
lock discipline permits. A record is written or erased only where no other session has
its lock, the session takes locks nobody else has and gives up its own, and only the
deletion of a file touches what others have there. `perform_changes` shows that every
operation of the file system is such a sequence, and that an operation which reads a
record returns only when no other session has its lock.
-/

namespace Gemini.PickFS

open Gemini.Semantics Gemini.Locking Program

/-- No other session has the lock on a record. -/
def Accessible (session : FileSystem) (world : World) (fileName recordName : String) : Prop :=
  session.lockingEnabled = true → ∀ entry, world.locks.lookup fileName recordName = some entry →
    entry.ownerSessionId = session.lockSessionId

/-- The changes below a root, given the records that may be changed and the files that are
being deleted. -/
inductive DirectoryChange (accessible : String → String → Prop) (deletes : String → Prop)
    (directory : Directory) : Directory → Prop where
  | createFile {fileName : String} (unused : directory.lookup fileName = none) :
      DirectoryChange accessible deletes directory (directory.insert fileName (.directory ∅))
  | putContent {fileName recordName : String} (granted : accessible fileName recordName)
      (extension : Extension) (text : String) :
      DirectoryChange accessible deletes directory
        (directory.putContent fileName (recordName, extension) text)
  | eraseContent {fileName recordName : String} (granted : accessible fileName recordName)
      (extension : Extension) :
      DirectoryChange accessible deletes directory
        (directory.eraseContent fileName (recordName, extension))
  | removeContent {fileName : String} (deleted : deletes fileName) (file : RecordFile) :
      DirectoryChange accessible deletes directory (directory.eraseContent fileName file)
  | removeFile {fileName : String} (deleted : deletes fileName) :
      DirectoryChange accessible deletes directory (directory.erase fileName)

/-- The changes of the lock table by a session. -/
inductive LockChange (sessionId : String) (deletes : String → Prop) (locks : LockTable) :
    LockTable → Prop where
  | acquire {fileName recordName : String} {lockType : LockType} {acquired : LockTable}
      (done : locks.tryAcquire sessionId fileName recordName lockType = .ok acquired) :
      LockChange sessionId deletes locks acquired
  | release (known : sessionId ≠ "") (fileName recordName : String) :
      LockChange sessionId deletes locks (locks.release sessionId fileName recordName).2
  | releaseAllForFile {fileName : String} (deleted : deletes fileName) :
      LockChange sessionId deletes locks (locks.releaseAllForFile fileName).2
  | releaseAllForSession (known : sessionId ≠ "") :
      LockChange sessionId deletes locks (locks.releaseAllForSession sessionId).2

/-- One permitted change of the world by a session. -/
inductive Change (session : FileSystem) (deletes : String → Prop) (world : World) :
    World → Prop where
  | faults : Change session deletes world { world with faults := world.faults.tail }
  | directory {directory : Directory}
      (changed : DirectoryChange (Accessible session world) deletes (world.disk session.root)
        directory) :
      Change session deletes world
        { world with disk := Function.update world.disk session.root directory }
  | locks {locks : LockTable}
      (changed : LockChange session.lockSessionId deletes world.locks locks) :
      Change session deletes world { world with locks := locks }

/-- The locks of other sessions are neither lost nor made, unless a file is deleted that they
are in. -/
theorem LockChange.foreign_iff {sessionId : String} {deletes : String → Prop}
    {locks after : LockTable} (change : LockChange sessionId deletes locks after)
    {fileName recordName : String} {entry : LockEntry} (other : entry.ownerSessionId ≠ sessionId)
    (spared : deletes fileName → locks.lookup fileName recordName ≠ some entry) :
    after.lookup fileName recordName = some entry ↔
      locks.lookup fileName recordName = some entry := by
  have kept (found : Option LockEntry) :
      found.bind (LockTable.foreign sessionId) = some entry ↔ found = some entry := by
    cases found <;> grind [LockTable.foreign]
  cases change with
  | acquire done =>
      rename_i file record lockType
      rw [LockTable.tryAcquire_eq] at done
      split at done
      · cases done
      · rename_i valid
        split at done
        · cases done
        · rename_i notForeign
          cases done
          rw [LockTable.lookup_setLock (by grind) (by grind)]
          split
          · rename_i same
            rw [← same.1, ← same.2] at notForeign
            have := kept (locks.lookup fileName recordName)
            grind
          · rfl
  | release known file record =>
      rw [LockTable.lookup_release known]
      split
      · exact kept _
      · rfl
  | releaseAllForFile deleted =>
      rw [LockTable.lookup_releaseAllForFile]
      split
      · rename_i same
        subst same
        simpa using spared deleted
      · rfl
  | releaseAllForSession known =>
      rw [LockTable.lookup_releaseAllForSession known]
      exact kept _

/-- A change by a session makes no locks but its own. -/
theorem LockChange.owner {sessionId : String} {deletes : String → Prop} {locks after : LockTable}
    (change : LockChange sessionId deletes locks after) {fileName recordName : String}
    {entry : LockEntry} (found : after.lookup fileName recordName = some entry) :
    (sessionId ≠ "" ∧ entry.ownerSessionId = sessionId) ∨
      locks.lookup fileName recordName = some entry := by
  have kept : ∀ earlier : Option LockEntry,
      earlier.bind (LockTable.foreign sessionId) = some entry → earlier = some entry := by
    intro earlier foreign
    cases earlier <;> grind [LockTable.foreign]
  cases change with
  | acquire done =>
      rw [LockTable.tryAcquire_eq] at done
      split at done
      · cases done
      · rename_i valid
        simp only [not_or] at valid
        split at done
        · cases done
        · cases done
          rw [LockTable.lookup_setLock valid.2.1 valid.2.2] at found
          split at found
          · cases found
            exact .inl ⟨valid.1, rfl⟩
          · exact .inr found
  | release known file record =>
      rw [LockTable.lookup_release known] at found
      split at found
      · exact .inr (kept _ found)
      · exact .inr found
  | releaseAllForFile deleted =>
      rw [LockTable.lookup_releaseAllForFile] at found
      split at found
      · cases found
      · exact .inr found
  | releaseAllForSession known =>
      rw [LockTable.lookup_releaseAllForSession known] at found
      exact .inr (kept _ found)

/-- Any number of permitted changes by a session. -/
abbrev Changes (session : FileSystem) (deletes : String → Prop) : World → World → Prop :=
  Relation.ReflTransGen (Change session deletes)

/-- So do all the changes of an operation. -/
theorem changes_owner {session : FileSystem} {deletes : String → Prop} {world after : World}
    (changes : Changes session deletes world after) {fileName recordName : String}
    {entry : LockEntry} (found : after.locks.lookup fileName recordName = some entry) :
    (session.lockSessionId ≠ "" ∧ entry.ownerSessionId = session.lockSessionId) ∨
      world.locks.lookup fileName recordName = some entry := by
  induction changes with
  | refl => exact .inr found
  | tail _ change inductionHypothesis =>
      cases change with
      | faults => exact inductionHypothesis found
      | directory => exact inductionHypothesis found
      | locks changed =>
          rcases changed.owner found with own | earlier
          · exact .inl own
          · exact inductionHypothesis earlier

/-! ## System calls and lock calls -/

/-- A property that a system call keeps unless it makes a change. -/
def Steady (holds : World → Prop) : Prop :=
  ∀ world, holds world → holds { world with faults := world.faults.tail }

variable {session : FileSystem} {deletes : String → Prop} {start : World} {holds : World → Prop}
  {Value : Type}

/-- What can be reached by changes can still be reached after a system call. -/
theorem steady_changes : Steady (Changes session deletes start) :=
  fun _ reached => reached.tail .faults

/-- Two such properties together. -/
theorem Steady.and {also : World → Prop} (first : Steady holds) (second : Steady also) :
    Steady fun world => holds world ∧ also world :=
  fun world both => ⟨first world both.1, second world both.2⟩

/-- A system call locks nothing. -/
theorem steady_accessible (fileName recordName : String) :
    Steady fun world => Accessible session world fileName recordName :=
  fun _ accessible => accessible

/-- A system call ends with a failure or makes its change. -/
theorem systemCall_ensures (steady : Steady holds) {root : Root}
    {call : Directory → Value × Directory} {post : Option Value → World → Prop}
    (failed : ∀ world, holds world → post none world)
    (done : ∀ world, holds world → post (some (call (world.disk root)).1)
      { world with disk := Function.update world.disk root (call (world.disk root)).2 }) :
    Ensures holds (systemCall root call) post holds := by
  refine Ensures.modifyGet fun world before => ?_
  split
  · exact failed _ (steady world before)
  · exact done _ (steady world before)

/-- Looking at a directory changes no file. -/
theorem inspect_keeps (steady : Steady holds) (root : Root) (look : Directory → Value) :
    Keeps holds (inspect root look) := by
  refine systemCall_ensures steady (fun _ before => before) fun world before => ?_
  simpa only [Function.update_eq_self] using before

/-- A lock call that only looks leaves the world as it was. -/
theorem lookup_ensures (fileName recordName : String) :
    Ensures holds (lockCall fun locks => (locks.lookup fileName recordName, locks))
      (fun found world => holds world ∧ world.locks.lookup fileName recordName = found) holds :=
  Ensures.modifyGet fun _ before => ⟨before, rfl⟩

/-- A call to the lock table that makes a permitted change. -/
theorem lockCall_changes {call : LockTable → Value × LockTable}
    (changed : ∀ locks, (call locks).2 = locks ∨
      LockChange session.lockSessionId deletes locks (call locks).2) :
    Keeps (Changes session deletes start) (lockCall call) := by
  refine Ensures.modifyGet fun world reached => ?_
  rcases changed world.locks with same | change
  · simpa only [same] using reached
  · exact reached.tail (.locks change)

/-! ## Looking -/

/-- Looking for a record under its extensions changes no file. -/
theorem firstExisting_keeps (steady : Steady holds) (handle : FileHandle) (recordName : String)
    (extensions : List Extension) : Keeps holds (firstExisting handle recordName extensions) := by
  induction extensions with
  | nil => exact Ensures.pure fun _ before => before
  | cons extension rest inductionHypothesis =>
      refine (inspect_keeps steady _ _).bind ?_
      rintro (_ | _ | _)
      · exact inductionHypothesis
      · exact inductionHypothesis
      · exact Ensures.pure fun _ before => before

/-- A record is resolved to a file of its own name. -/
theorem resolveRecordPath_ensures (steady : Steady holds) (handle : FileHandle)
    (recordName : String) :
    Ensures holds (resolveRecordPath handle recordName)
      (fun file world => holds world ∧ file.1 = recordName) holds :=
  (firstExisting_keeps steady handle recordName _).bind fun _ =>
    Ensures.pure fun _ before => ⟨before, rfl⟩

/-- Nor does the check that a file is there. -/
theorem requireDirectory_keeps (steady : Steady holds) (fileName : String) :
    Keeps holds (session.requireDirectory fileName) := by
  refine (inspect_keeps steady _ _).bind ?_
  rintro (_ | _ | _)
  · exact Ensures.throw fun _ before => before
  · exact Ensures.throw fun _ before => before
  · refine (inspect_keeps steady _ _).bind ?_
    rintro (_ | _ | _)
    · exact Ensures.throw fun _ before => before
    · exact Ensures.throw fun _ before => before
    · exact Ensures.pure fun _ before => before

/-- Opening a file changes nothing and gives a handle of the name. -/
theorem openFile_ensures (steady : Steady holds) (fileName : String) :
    Ensures holds (session.openFile fileName)
      (fun handle world => holds world ∧ handle = session.handle fileName) holds := by
  unfold FileSystem.openFile
  split
  · exact Ensures.throw fun _ before => before
  · exact (requireDirectory_keeps steady fileName).bind fun _ =>
      Ensures.pure fun _ before => ⟨before, rfl⟩

/-- The check of a lock changes nothing, and what passes it may be accessed. -/
theorem assertRecordAccessible_ensures (fileName recordName : String) :
    Ensures holds (session.assertRecordAccessible fileName recordName)
      (fun _ world => holds world ∧ Accessible session world fileName recordName) holds := by
  unfold FileSystem.assertRecordAccessible
  split
  · rename_i disabled
    refine Ensures.pure fun world before => ⟨before, fun enabled => ?_⟩
    simp [enabled] at disabled
  · refine (lookup_ensures fileName recordName).bind ?_
    rintro (_ | entry)
    · refine Ensures.pure fun world ⟨before, free⟩ => ⟨before, fun _ entry found => ?_⟩
      simp [free] at found
    · dsimp only
      split
      · rename_i own
        refine Ensures.pure fun world ⟨before, held⟩ => ⟨before, fun _ other found => ?_⟩
        obtain rfl : entry = other := by simpa [held] using found
        exact own
      · exact Ensures.throw fun _ before => before.1

/-- A record is read only when no other session has its lock. -/
theorem readRecord_ensures (steady : Steady holds) (handle : FileHandle) (recordName : String) :
    Ensures holds (session.readRecord handle recordName)
      (fun _ world => holds world ∧ Accessible session world handle.name recordName) holds := by
  have both : Steady fun world => holds world ∧ Accessible session world handle.name recordName :=
    steady.and (steady_accessible handle.name recordName)
  unfold FileSystem.readRecord
  split
  · exact Ensures.throw fun _ before => before
  · refine (assertRecordAccessible_ensures handle.name recordName).bind fun _ => ?_
    refine ((firstExisting_keeps both handle recordName _).weakenThrown fun _ => And.left).bind ?_
    rintro (_ | extension)
    · exact Ensures.pure fun _ before => before
    · refine ((inspect_keeps both _ _).weakenThrown fun _ => And.left).bind fun read => ?_
      cases read.join with
      | none => exact Ensures.throw fun _ before => before.1
      | some content => exact Ensures.pure fun _ before => before

/-- A read changes nothing, and what it has read was accessible. -/
theorem read_ensures (steady : Steady holds) (fileName recordName : String) :
    Ensures holds (session.read fileName recordName)
      (fun _ world => holds world ∧ Accessible session world fileName recordName) holds := by
  refine (openFile_ensures steady fileName).bind fun handle => ?_
  refine .assume fun same => ?_
  subst same
  exact readRecord_ensures steady (session.handle fileName) recordName

/-! ## Changing -/

/-- Taking a lock is one permitted change. -/
theorem acquireRecordLock_changes (fileName recordName : String) (lockType : LockType) :
    Keeps (Changes session deletes start)
      (session.acquireRecordLock fileName recordName lockType) := by
  unfold FileSystem.acquireRecordLock
  split
  · exact Ensures.pure fun _ reached => reached
  · refine Ensures.bind (lockCall_changes fun locks => ?_) ?_
    · cases done : locks.tryAcquire session.lockSessionId fileName recordName lockType with
      | ok acquired => exact .inr (.acquire done)
      | error conflict => exact .inl rfl
    · rintro (_ | conflict)
      · exact Ensures.pure fun _ reached => reached
      · exact Ensures.throw fun _ reached => reached

/-- A system call under the session's root whose change is permitted. -/
theorem systemCall_changes (steady : Steady holds) (reached : ∀ world, holds world →
      Changes session deletes start world) {call : Directory → Value × Directory}
    (changed : ∀ world, holds world → (call (world.disk session.root)).2 = world.disk session.root ∨
      DirectoryChange (Accessible session world) deletes (world.disk session.root)
        (call (world.disk session.root)).2) :
    Ensures holds (systemCall session.root call)
      (fun _ => Changes session deletes start) (Changes session deletes start) := by
  refine (systemCall_ensures steady reached fun world before => ?_).weakenThrown reached
  rcases changed world before with same | change
  · simpa only [same, Function.update_eq_self] using reached world before
  · exact (reached world before).tail (.directory change)

/-- A write changes a record that its session may access. -/
theorem writeRecord_changes (fileName : String) (record : Record) :
    Keeps (Changes session deletes start)
      (session.writeRecord (session.handle fileName) record) := by
  have both : Steady fun world => Changes session deletes start world ∧
      Accessible session world fileName record.name :=
    steady_changes.and (steady_accessible fileName record.name)
  have failed {message : String} :
      Ensures (fun world => Changes session deletes start world ∧
          Accessible session world fileName record.name) (throw message : FileM Unit)
        (fun _ => Changes session deletes start) (Changes session deletes start) :=
    Ensures.throw fun _ before => before.1
  unfold FileSystem.writeRecord
  split
  · exact Ensures.throw fun _ reached => reached
  · refine (assertRecordAccessible_ensures fileName record.name).bind fun _ => ?_
    refine ((resolveRecordPath_ensures both _ _).weakenThrown fun _ => And.left).bind fun file => ?_
    refine .assume fun named => ?_
    obtain ⟨_, extension⟩ := file
    subst named
    refine ((inspect_keeps both _ _).weakenThrown fun _ => And.left).bind ?_
    rintro (_ | _ | _)
    · exact failed
    · exact failed
    · refine ((inspect_keeps both _ _).weakenThrown fun _ => And.left).bind ?_
      rintro (_ | _)
      · exact failed
      · refine (systemCall_changes both (fun _ => And.left) fun world before =>
          .inr (.putContent before.2 extension _)).bind ?_
        rintro (_ | _)
        · exact Ensures.throw fun _ reached => reached
        · exact Ensures.pure fun _ reached => reached

/-- A session that locks has an id. -/
theorem lockSessionId_ne (enabled : session.lockingEnabled = true) :
    session.lockSessionId ≠ "" := by
  simp only [FileSystem.lockingEnabled, Bool.and_eq_true, decide_eq_true_eq] at enabled
  exact enabled.2

/-- A session releases its own locks only. -/
theorem releaseLock_changes (fileName recordName : String) :
    Keeps (Changes session deletes start) (session.releaseLock fileName recordName) := by
  unfold FileSystem.releaseLock
  split
  · exact Ensures.pure fun _ reached => reached
  · rename_i enabled
    exact lockCall_changes fun locks =>
      .inr (.release (lockSessionId_ne (by simpa using enabled)) fileName recordName)

/-- A record is deleted only by a session that may access it. -/
theorem deleteRecord_changes (fileName recordName : String) :
    Keeps (Changes session deletes start)
      (session.deleteRecord (session.handle fileName) recordName) := by
  have both : Steady fun world => Changes session deletes start world ∧
      Accessible session world fileName recordName :=
    steady_changes.and (steady_accessible fileName recordName)
  unfold FileSystem.deleteRecord
  split
  · exact Ensures.throw fun _ reached => reached
  · refine (assertRecordAccessible_ensures fileName recordName).bind fun _ => ?_
    refine ((resolveRecordPath_ensures both _ _).weakenThrown fun _ => And.left).bind fun file => ?_
    refine .assume fun named => ?_
    obtain ⟨_, extension⟩ := file
    subst named
    refine Ensures.bind (systemCall_changes both (fun _ => And.left) fun world before => ?_) ?_
    · split
      · exact .inl rfl
      · exact .inr (.eraseContent before.2 extension)
    · intro removed
      rcases removed.join with _ | _ | _
      · exact Ensures.throw fun _ reached => reached
      · exact Ensures.throw fun _ reached => reached
      · exact (releaseLock_changes fileName _).bind fun _ => Ensures.pure fun _ reached => reached

/-- Writing by name: opening the file and writing the record. -/
theorem write_changes (fileName : String) (record : Record) :
    Keeps (Changes session deletes start) (session.write fileName record) := by
  refine (openFile_ensures steady_changes fileName).bind fun handle => ?_
  refine .assume fun same => ?_
  subst same
  exact writeRecord_changes fileName record

/-- A new file takes nothing away. -/
theorem createFile_changes (fileName : String) :
    Keeps (Changes session deletes start) (session.createFile fileName) := by
  unfold FileSystem.createFile
  split
  · exact Ensures.throw fun _ reached => reached
  · refine (inspect_keeps steady_changes _ _).bind ?_
    rintro (_ | _)
    · exact Ensures.throw fun _ reached => reached
    · refine (inspect_keeps steady_changes _ _).bind ?_
      rintro (_ | _ | _)
      · exact Ensures.throw fun _ reached => reached
      · refine Ensures.bind (systemCall_changes steady_changes (fun _ => id) fun world _ => ?_) ?_
        · split
          · exact .inl rfl
          · rename_i unused
            exact .inr (.createFile (by simpa using unused))
        · rintro (_ | _ | _)
          · exact Ensures.throw fun _ reached => reached
          · exact Ensures.throw fun _ reached => reached
          · exact Ensures.pure fun _ reached => reached
      · exact Ensures.throw fun _ reached => reached

/-- The records of a file that the session deletes may go one by one. -/
theorem removeEntries_changes {fileName : String} (deleted : deletes fileName)
    (files : List RecordFile) :
    Keeps (Changes session deletes start) (removeEntries session.root fileName files) := by
  induction files with
  | nil =>
      exact systemCall_changes steady_changes (fun _ => id) fun _ _ => .inr (.removeFile deleted)
  | cons file rest inductionHypothesis =>
      refine (systemCall_changes steady_changes (fun _ => id) fun _ _ =>
        .inr (.removeContent deleted file)).bind ?_
      rintro (_ | _)
      · exact Ensures.pure fun _ reached => reached
      · exact inductionHypothesis

/-- A file that the session deletes may go with its records. -/
theorem removeAll_changes {fileName : String} (deleted : deletes fileName) :
    Keeps (Changes session deletes start) (removeAll session.root fileName) := by
  refine (inspect_keeps steady_changes _ _).bind ?_
  rintro (_ | _ | files)
  · exact Ensures.pure fun _ reached => reached
  · exact Ensures.pure fun _ reached => reached
  · exact removeEntries_changes deleted files

/-- The deletion of a file releases every lock in it. -/
theorem releaseFileLocks_changes {fileName : String} (deleted : deletes fileName) :
    Keeps (Changes session deletes start) (session.releaseFileLocks fileName) := by
  unfold FileSystem.releaseFileLocks
  split
  · exact lockCall_changes fun locks => .inr (.releaseAllForFile deleted)
  · exact Ensures.pure fun _ reached => reached

/-- The deletion of a file: its locks first, then its records. -/
theorem deleteFile_changes {fileName : String}
    (deletesValid : isValidName fileName = true → deletes fileName) :
    Keeps (Changes session deletes start) (session.deleteFile fileName) := by
  unfold FileSystem.deleteFile
  split
  · exact Ensures.throw fun _ reached => reached
  · rename_i valid
    have deleted := deletesValid (by simpa using valid)
    refine (releaseFileLocks_changes deleted).bind fun _ => ?_
    refine (requireDirectory_keeps steady_changes fileName).bind fun _ => ?_
    refine (removeAll_changes deleted).bind ?_
    rintro (_ | _)
    · exact Ensures.throw fun _ reached => reached
    · exact Ensures.pure fun _ reached => reached

/-- The end of a session releases the locks it has. -/
theorem releaseSessionLocks_changes :
    Keeps (Changes session deletes start) session.releaseSessionLocks := by
  unfold FileSystem.releaseSessionLocks
  split
  · exact lockCall_changes fun locks => .inr (.releaseAllForSession (lockSessionId_ne ‹_›))
  · exact Ensures.pure fun _ reached => reached

/-- A read for update takes a lock and changes no record. -/
theorem readU_changes (fileName recordName : String) :
    Ensures (Changes session deletes start) (session.readU fileName recordName)
      (fun _ world => Changes session deletes start world ∧
        Accessible session world fileName recordName) (Changes session deletes start) :=
  (acquireRecordLock_changes fileName recordName .ReadU).bind fun _ =>
    read_ensures steady_changes fileName recordName

/-- A write for update takes a lock and writes. -/
theorem writeU_changes (fileName : String) (record : Record) :
    Keeps (Changes session deletes start) (session.writeU fileName record) :=
  (acquireRecordLock_changes fileName record.name .WriteU).bind fun _ =>
    write_changes fileName record

/-! ## Every operation -/

/-- On the way a state was passed in which no other session had the lock on the record. -/
def Granted (session : FileSystem) (deletes : String → Prop) (start : World)
    (record : String × String) : Prop :=
  ∃ checked, Changes session deletes start checked ∧
    Accessible session checked record.1 record.2

/-- A program that returns where the record is accessible has been granted the record. -/
theorem Granted.of_accessible {program : FileM Value} {fileName recordName : String}
    (ensures : Ensures (Changes session deletes start) program
      (fun _ world => Changes session deletes start world ∧
        Accessible session world fileName recordName) (Changes session deletes start)) :
    Ensures (Changes session deletes start) program
      (fun _ world => Changes session deletes start world ∧
        Granted session deletes start (fileName, recordName)) (Changes session deletes start) :=
  ensures.weakenPost fun _ world done => ⟨done.1, world, done⟩

/-- An attribute or value of a record is written after the record has been read. -/
theorem readThenWrite_changes (fileName recordName : String) (text : Option Record → String) :
    Ensures (Changes session deletes start) (do
        let existing ← session.read fileName recordName
        session.write fileName (.ofText recordName (text existing)))
      (fun _ world => Changes session deletes start world ∧
        Granted session deletes start (fileName, recordName)) (Changes session deletes start) := by
  refine (Granted.of_accessible (read_ensures steady_changes fileName recordName)).bind ?_
  intro existing
  refine .assume fun granted => ?_
  exact (write_changes fileName _).weakenPost fun _ _ reached => ⟨reached, granted⟩

/-- An operation that reads no record. -/
theorem performed {program : FileM Value} {operation : FileOperation} {result : Value → FileResult}
    (silent : operation.reads = none) (keeps : Keeps (Changes session deletes start) program) :
    Ensures (Changes session deletes start) (do return result (← program))
      (fun _ world => Changes session deletes start world ∧
        ∀ record, operation.reads = some record → Granted session deletes start record)
      (Changes session deletes start) :=
  keeps.bind fun _ => Ensures.pure fun _ reached => ⟨reached, by simp [silent]⟩

/-- An operation that reads a record. -/
theorem performedReading {program : FileM Value} {operation : FileOperation}
    {result : Value → FileResult} {record : String × String}
    (reading : operation.reads = some record)
    (ensures : Ensures (Changes session deletes start) program
      (fun _ world => Changes session deletes start world ∧ Granted session deletes start record)
      (Changes session deletes start)) :
    Ensures (Changes session deletes start) (do return result (← program))
      (fun _ world => Changes session deletes start world ∧
        ∀ record, operation.reads = some record → Granted session deletes start record)
      (Changes session deletes start) :=
  ensures.bind fun _ => Ensures.pure fun _ done => ⟨done.1, by simpa [reading] using done.2⟩

/-- One value is written by reading the record, which has to be accessible, and writing it whole. -/
theorem writeSubvalue_changes (fileName recordName : String) (attributeNo valueIndex : Int)
    (value : String) :
    Ensures (Changes session deletes start)
      (session.writeSubvalue fileName recordName attributeNo valueIndex value)
      (fun _ world => Changes session deletes start world ∧
        Granted session deletes start (fileName, recordName)) (Changes session deletes start) := by
  unfold FileSystem.writeSubvalue
  split
  · exact Ensures.throw fun _ reached => reached
  · exact readThenWrite_changes fileName recordName _

/-- An operation makes permitted changes only, deleting no file but the one it is asked to;
and it does not return from the reading of a record that another session has locked. -/
theorem perform_changes (session : FileSystem) (operation : FileOperation) (start : World) :
    Ensures (Changes session (operation.deletes = some ·) start) (session.perform operation)
      (fun _ world => Changes session (operation.deletes = some ·) start world ∧
        ∀ record, operation.reads = some record →
          Granted session (operation.deletes = some ·) start record)
      (Changes session (operation.deletes = some ·) start) := by
  cases operation with
  | createFile fileName => exact performed rfl (createFile_changes fileName)
  | deleteFile fileName =>
      exact performed rfl (deleteFile_changes fun valid => if_pos valid)
  | read fileName recordName =>
      exact performedReading rfl
        (Granted.of_accessible (read_ensures steady_changes fileName recordName))
  | write fileName record => exact performed rfl (write_changes fileName record)
  | readU fileName recordName =>
      exact performedReading rfl (Granted.of_accessible (readU_changes fileName recordName))
  | writeU fileName record => exact performed rfl (writeU_changes fileName record)
  | releaseRecord fileName recordName =>
      exact performed rfl (releaseLock_changes fileName recordName)
  | readRecord fileName recordName =>
      exact performedReading rfl
        (Granted.of_accessible (readRecord_ensures steady_changes _ recordName))
  | writeRecord fileName record => exact performed rfl (writeRecord_changes fileName record)
  | deleteRecord fileName recordName =>
      exact performed rfl (deleteRecord_changes fileName recordName)
  | readAttributeValue fileName recordName attributeNo =>
      refine performedReading rfl (Granted.of_accessible ?_)
      exact (read_ensures steady_changes fileName recordName).bind fun _ =>
        Ensures.pure fun _ done => done
  | readSubvalue fileName recordName attributeNo valueIndex =>
      refine performedReading rfl (Granted.of_accessible ?_)
      exact (read_ensures steady_changes fileName recordName).bind fun _ =>
        Ensures.pure fun _ done => done
  | writeAttributeValue fileName recordName attributeNo value =>
      exact performedReading rfl (readThenWrite_changes fileName recordName _)
  | writeSubvalue fileName recordName attributeNo valueIndex value =>
      exact performedReading rfl
        (writeSubvalue_changes fileName recordName attributeNo valueIndex value)
  | releaseSessionLocks => exact performed rfl releaseSessionLocks_changes

end Gemini.PickFS
