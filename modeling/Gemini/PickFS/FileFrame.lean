import Gemini.PickFS.FailedOperations
import Gemini.PickFS.RecordCells

/-!
# Files that an operation leaves alone

The frame rule of the file system: an operation on one file keeps what is true of the other
files. `FileFrame` is a property that depends on some files alone; an operation on any other
file keeps it, and so does an operation that fails, on whichever file, when the host does not.
-/

namespace Gemini.PickFS

open Gemini.Semantics Program

/-- A property of the files that `touched` names, on a host that does not fail. -/
structure FileFrame (root : Root) (touched : String → Prop) (holds : World → Prop) : Prop where
  faithful : ∀ {world}, holds world → world.faults = []
  depends : ∀ {world after}, holds world → after.faults = [] →
    (∀ fileName, touched fileName →
      (after.disk root).lookup fileName = (world.disk root).lookup fileName) →
    holds after

/-- A host that does not fail goes on not to fail. -/
theorem fileFrame_faithful (root : Root) :
    FileFrame root (fun _ => False) fun world => world.faults = [] where
  faithful := id
  depends _ faithful _ := faithful

section Directories

variable {directory : Directory} {fileName other : String} (different : other ≠ fileName)

include different

/-- A write to one file leaves another as it is. -/
theorem lookup_putContent_of_ne (file : RecordFile) (text : String) :
    (directory.putContent fileName file text).lookup other = directory.lookup other := by
  unfold Directory.putContent
  split
  · exact AList.lookup_insert_ne different
  · rfl

/-- A deletion in one file leaves another as it is. -/
theorem lookup_eraseContent_of_ne (file : RecordFile) :
    (directory.eraseContent fileName file).lookup other = directory.lookup other := by
  unfold Directory.eraseContent
  split
  · exact AList.lookup_insert_ne different
  · rfl

end Directories

namespace FileFrame

variable {session : FileSystem} {touched : String → Prop} {holds : World → Prop} {Value : Type}
  {fileName : String}

/-- A property of files holds on over a system call. -/
theorem steady {root : Root} (frame : FileFrame root touched holds) : Steady holds := by
  intro world before
  have faithful := frame.faithful before
  rw [faithful, List.tail_nil, ← faithful]
  exact before

/-- The lock table is no file. -/
theorem lockCall {root : Root} (frame : FileFrame root touched holds)
    (call : Locking.LockTable → Value × Locking.LockTable) : Keeps holds (lockCall call) := by
  refine Ensures.modifyGet fun world before => ?_
  have faithful : world.faults = [] := frame.faithful before
  exact frame.depends before faithful fun _ _ => rfl

variable (frame : FileFrame session.root touched holds)

include frame

/-- A system call that changes one file keeps what is true of the others. -/
theorem systemCall (free : ¬ touched fileName) {call : Directory → Value × Directory}
    (local_ : ∀ directory other, other ≠ fileName →
      (call directory).2.lookup other = directory.lookup other) :
    Keeps holds (systemCall session.root call) := by
  refine systemCall_ensures frame.steady (fun _ before => before) fun world before => ?_
  have faithful : world.faults = [] := frame.faithful before
  refine frame.depends before faithful fun other isTouched => ?_
  dsimp only
  rw [Function.update_self]
  refine local_ _ other ?_
  rintro rfl
  exact free isTouched

/-! ## Operations that change no file -/

/-- Opening a file keeps it. -/
theorem openFile (fileName : String) : Keeps holds (session.openFile fileName) :=
  (openFile_ensures frame.steady fileName).weakenPost fun _ _ => And.left

/-- A read keeps it. -/
theorem read (fileName recordName : String) : Keeps holds (session.read fileName recordName) :=
  (read_ensures frame.steady fileName recordName).weakenPost fun _ _ => And.left

omit frame in
/-- A listing of the records keeps it. -/
theorem listRecords {root : Root} (frame : FileFrame root touched holds) (handle : FileHandle) :
    Keeps holds (FileSystem.listRecords handle) :=
  (inspect_keeps frame.steady _ _).bind fun _ => Ensures.pure fun _ before => before

omit frame in
/-- The next record of a listing keeps it. -/
theorem readNextRecord {root : Root} (frame : FileFrame root touched holds)
    (handle : FileHandle) : Keeps holds (FileSystem.readNextRecord handle) := by
  have primed : Keeps holds (FileSystem.primeCursor handle) := by
    unfold FileSystem.primeCursor
    split
    · exact Ensures.pure fun _ before => before
    · exact Ensures.bind (frame.listRecords handle) fun _ => Ensures.pure fun _ before => before
  refine Ensures.bind primed fun primed => ?_
  split <;> exact Ensures.pure fun _ before => before

/-- Taking a lock changes no file. -/
theorem acquireRecordLock (fileName recordName : String) (lockType : Locking.LockType) :
    Keeps holds (session.acquireRecordLock fileName recordName lockType) := by
  unfold FileSystem.acquireRecordLock
  split
  · exact Ensures.pure fun _ before => before
  · refine Ensures.bind (frame.lockCall _) ?_
    rintro (_ | conflict)
    · exact Ensures.pure fun _ before => before
    · exact Ensures.throw fun _ before => before

/-- Releasing one changes no file. -/
theorem releaseLock (fileName recordName : String) :
    Keeps holds (session.releaseLock fileName recordName) := by
  unfold FileSystem.releaseLock
  split
  · exact Ensures.pure fun _ before => before
  · exact frame.lockCall _

/-- A read for update changes no file. -/
theorem readU (fileName recordName : String) : Keeps holds (session.readU fileName recordName) :=
  Ensures.bind (frame.acquireRecordLock fileName recordName .ReadU) fun _ =>
    frame.read fileName recordName

/-! ## Operations on another file -/

/-- A record written to a file that the property is not about. -/
theorem writeRecord (free : ¬ touched fileName) (record : Record) :
    Keeps holds (session.writeRecord (session.handle fileName) record) := by
  unfold FileSystem.writeRecord
  split
  · exact Ensures.throw fun _ before => before
  · refine ((assertRecordAccessible_ensures fileName record.name).weakenPost
      fun _ _ => And.left).bind fun _ => ?_
    refine ((resolveRecordPath_ensures frame.steady _ _).weakenPost fun _ _ => And.left).bind
      fun file => ?_
    refine (inspect_keeps frame.steady _ _).bind ?_
    rintro (_ | _ | _)
    · exact Ensures.throw fun _ before => before
    · exact Ensures.throw fun _ before => before
    · refine (inspect_keeps frame.steady _ _).bind ?_
      rintro (_ | _)
      · exact Ensures.throw fun _ before => before
      · refine Ensures.bind (frame.systemCall free fun _ _ different =>
          lookup_putContent_of_ne different _ _) ?_
        rintro (_ | _)
        · exact Ensures.throw fun _ before => before
        · exact Ensures.pure fun _ before => before

/-- A write by name to such a file. -/
theorem write (free : ¬ touched fileName) (record : Record) :
    Keeps holds (session.write fileName record) := by
  refine (openFile_ensures frame.steady fileName).bind fun handle => .assume fun same => ?_
  subst same
  exact frame.writeRecord free record

/-- A write with a lock to such a file. -/
theorem writeU (free : ¬ touched fileName) (record : Record) :
    Keeps holds (session.writeU fileName record) :=
  Ensures.bind (frame.acquireRecordLock fileName record.name .WriteU) fun _ =>
    frame.write free record

/-- An attribute written to such a file. -/
theorem writeAttributeValue (free : ¬ touched fileName) (recordName : String) (attributeNo : Int)
    (value : String) :
    Keeps holds (session.writeAttributeValue fileName recordName attributeNo value) :=
  Ensures.bind (frame.read fileName recordName) fun _ => frame.write free _

/-- A value of an attribute written to such a file. -/
theorem writeSubvalue (free : ¬ touched fileName) (recordName : String)
    (attributeNo valueIndex : Int) (value : String) :
    Keeps holds (session.writeSubvalue fileName recordName attributeNo valueIndex value) := by
  unfold FileSystem.writeSubvalue
  split
  · exact Ensures.throw fun _ before => before
  · exact Ensures.bind (frame.read fileName recordName) fun _ => frame.write free _

/-- A record deleted from such a file. -/
theorem deleteRecord (free : ¬ touched fileName) (recordName : String) :
    Keeps holds (session.deleteRecord (session.handle fileName) recordName) := by
  unfold FileSystem.deleteRecord
  split
  · exact Ensures.throw fun _ before => before
  · refine ((assertRecordAccessible_ensures fileName recordName).weakenPost
      fun _ _ => And.left).bind fun _ => ?_
    refine ((resolveRecordPath_ensures frame.steady _ _).weakenPost fun _ _ => And.left).bind
      fun file => ?_
    refine Ensures.bind (frame.systemCall free fun directory other different => ?_) ?_
    · split
      · rfl
      · exact lookup_eraseContent_of_ne different _
    · intro removed
      rcases removed.join with _ | _ | _
      · exact Ensures.throw fun _ before => before
      · exact Ensures.throw fun _ before => before
      · exact Ensures.bind (frame.releaseLock _ _) fun _ => Ensures.pure fun _ before => before

/-- A property that a new file does not break. -/
theorem createFile_keeps
    (made : ∀ world, holds world → (world.disk session.root).lookup fileName = none →
      holds { world with
        disk := Function.update world.disk session.root
          ((world.disk session.root).insert fileName (.directory ∅)) }) :
    Keeps holds (session.createFile fileName) := by
  unfold FileSystem.createFile
  split
  · exact Ensures.throw fun _ before => before
  · refine (inspect_keeps frame.steady _ _).bind ?_
    rintro (_ | _)
    · exact Ensures.throw fun _ before => before
    · refine (inspect_keeps frame.steady _ _).bind ?_
      rintro (_ | _ | _)
      · exact Ensures.throw fun _ before => before
      · refine Ensures.bind (@systemCall_ensures _ _ frame.steady _ _ (fun _ => holds)
          (fun _ before => before) fun world before => ?_) ?_
        · split
          · simpa only [Function.update_eq_self] using before
          · next unused => exact made world before (by simpa using unused)
        · rintro (_ | _ | _)
          · exact Ensures.throw fun _ before => before
          · exact Ensures.throw fun _ before => before
          · exact Ensures.pure fun _ before => before
      · exact Ensures.throw fun _ before => before

/-- A new file that the property is not about. -/
theorem createFile (free : ¬ touched fileName) : Keeps holds (session.createFile fileName) := by
  refine frame.createFile_keeps fun world before _ => ?_
  have faithful : world.faults = [] := frame.faithful before
  refine frame.depends before faithful fun other isTouched => ?_
  dsimp only
  rw [Function.update_self]
  refine AList.lookup_insert_ne ?_
  rintro rfl
  exact free isTouched

/-- The records of such a file may go one by one. -/
theorem removeEntries (free : ¬ touched fileName) (files : List RecordFile) :
    Keeps holds (removeEntries session.root fileName files) := by
  induction files with
  | nil =>
      exact frame.systemCall free fun _ _ different => AList.lookup_erase_ne different
  | cons file rest inductionHypothesis =>
      refine Ensures.bind (frame.systemCall free fun _ _ different =>
        lookup_eraseContent_of_ne different file) ?_
      rintro (_ | _)
      · exact Ensures.pure fun _ before => before
      · exact inductionHypothesis

/-- A deleted file that the property is not about. -/
theorem deleteFile (free : ¬ touched fileName) : Keeps holds (session.deleteFile fileName) := by
  unfold FileSystem.deleteFile
  split
  · exact Ensures.throw fun _ before => before
  · have released : Keeps holds (session.releaseFileLocks fileName) := by
      unfold FileSystem.releaseFileLocks
      split
      · exact frame.lockCall _
      · exact Ensures.pure fun _ before => before
    refine Ensures.bind released fun _ => ?_
    refine Ensures.bind (requireDirectory_keeps frame.steady fileName) fun _ => ?_
    have removed : Keeps holds (removeAll session.root fileName) := by
      refine (inspect_keeps frame.steady _ _).bind ?_
      rintro (_ | _ | files)
      · exact Ensures.pure fun _ before => before
      · exact Ensures.pure fun _ before => before
      · exact frame.removeEntries free files
    refine Ensures.bind removed ?_
    rintro (_ | _)
    · exact Ensures.throw fun _ before => before
    · exact Ensures.pure fun _ before => before

/-! ## Operations on any file -/

/-- The program returns on a host that goes on not to fail, and breaks the property only by a
change of this file; when it throws, it breaks nothing. -/
def Spares (touched : String → Prop) (holds : World → Prop) (fileName : String)
    (program : FileM Value) : Prop :=
  Ensures holds program
    (fun _ world => world.faults = [] ∧ (¬ touched fileName → holds world)) holds

/-- What an operation that fails leaves: the files as they were. -/
def LeavesFiles (world after : World) : Prop :=
  ∀ root fileName, (after.disk root).lookup fileName = (world.disk root).lookup fileName

/-- A program spares the property when it keeps it for files it is not about, and leaves the files
as they were where it throws. -/
theorem spares {program : FileM Value} (kept : ¬ touched fileName → Keeps holds program)
    (goesOn : Keeps (fun world => world.faults = []) program)
    (fails : ∀ world, world.faults = [] → FailsWith world program (LeavesFiles world)) :
    Spares touched holds fileName program := by
  intro world before
  have faithful := frame.faithful before
  have after := goesOn.after faithful
  have failed := fails world faithful world rfl
  rcases result : exec program world with ⟨error | value, last⟩
  · rw [result] at failed after
    exact frame.depends before after fun fileName _ => failed session.root fileName
  · rw [result] at after
    refine ⟨after, fun free => ?_⟩
    have held := (kept free).after before
    rwa [result] at held

/-- A write breaks the property only by changing its file. -/
theorem write_spares (fileName : String) (record : Record) :
    Spares touched holds fileName (session.write fileName record) := by
  refine frame.spares (fun free => frame.write free record)
    ((fileFrame_faithful session.root).write id record) fun world faithful => ?_
  refine (write_failsWith session faithful fileName record).weakenThrown ?_
  rintro _ rfl
  exact fun _ _ => rfl

/-- A write for update breaks the property only by changing its file. -/
theorem writeU_spares (fileName : String) (record : Record) :
    Spares touched holds fileName (session.writeU fileName record) := by
  refine frame.spares (fun free => frame.writeU free record)
    ((fileFrame_faithful session.root).writeU id record) fun world faithful => ?_
  refine (writeU_failsWith session faithful fileName record).weakenThrown ?_
  rintro _ rfl
  unfold lockedWorld
  split <;> exact fun _ _ => rfl

/-- So does the deletion of a record. -/
theorem deleteRecord_spares (fileName recordName : String) :
    Spares touched holds fileName
      (session.deleteRecord (session.handle fileName) recordName) := by
  refine frame.spares (fun free => frame.deleteRecord free recordName)
    ((fileFrame_faithful session.root).deleteRecord id recordName) fun world faithful => ?_
  exact (deleteRecord_failsWith session faithful _ recordName).weakenThrown fun _ unchanged =>
    unchanged.files

/-- So does the deletion of a file. -/
theorem deleteFile_spares (fileName : String) :
    Spares touched holds fileName (session.deleteFile fileName) := by
  refine frame.spares (fun free => frame.deleteFile free)
    ((fileFrame_faithful session.root).deleteFile id) fun world faithful => ?_
  refine (deleteFile_failsWith session faithful fileName).weakenThrown ?_
  rintro _ rfl
  unfold unlockedWorld
  split <;> exact fun _ _ => rfl

/-! ## Writes that are refused -/

omit frame in
/-- A session that has got the lock may access the record. -/
theorem accessible_of_acquire {world after : World} {recordName : String}
    {lockType : Locking.LockType}
    (acquired : exec (session.acquireRecordLock fileName recordName lockType) world =
      (.ok (), after)) : Accessible session world fileName recordName := by
  intro enabled entry found
  unfold FileSystem.acquireRecordLock at acquired
  simp only [enabled, Bool.not_true, Bool.false_eq_true, if_false] at acquired
  rw [exec_bind, exec_lockCall] at acquired
  cases granted : world.locks.tryAcquire session.lockSessionId fileName recordName lockType with
  | ok locks => exact ((tryAcquire_eq_ok_iff enabled).mp granted).1.free entry found
  | error conflict =>
      rw [granted] at acquired
      cases acquired

omit frame in
/-- A write for update that returns was allowed before it took the lock. -/
theorem writable_of_writeU {world after : World} {record : Record} (faithful : world.faults = [])
    (done : exec (session.writeU fileName record) world = (.ok (), after)) :
    Writable session world fileName record.name := by
  obtain ⟨_, middle, acquired, wrote⟩ := exec_bind_eq_ok.mp done
  have locked := @acquireRecordLock_ensures session world fileName record.name .WriteU world rfl
  rw [acquired] at locked
  have same : middle.faults = world.faults ∧ middle.disk = world.disk := by
    rw [locked, lockedWorld]
    split <;> exact ⟨rfl, rfl⟩
  have writable := writable_of_write (same.1.trans faithful) wrote
  exact
    { faithful
      validFile := writable.validFile
      validRecord := writable.validRecord
      directory := same.2 ▸ writable.directory
      accessible := accessible_of_acquire acquired }

/-- A write that is refused leaves the files alone, whichever file it is for. -/
theorem write_refused {world : World} (before : holds world) {record : Record}
    (refused : ¬ Writable session world fileName record.name) :
    holds (exec (session.write fileName record) world).2 := by
  have spared := frame.write_spares fileName record world before
  rcases result : exec (session.write fileName record) world with ⟨error | ⟨⟩, after⟩
  · rwa [result] at spared
  · exact absurd (writable_of_write (frame.faithful before) result) refused

/-- A write to a record that cannot be written keeps the property. -/
theorem writeU_refused {world : World} (before : holds world) {record : Record}
    (refused : ¬ Writable session world fileName record.name) :
    holds (exec (session.writeU fileName record) world).2 := by
  have spared := frame.writeU_spares fileName record world before
  rcases result : exec (session.writeU fileName record) world with ⟨error | ⟨⟩, after⟩
  · rwa [result] at spared
  · exact absurd (writable_of_writeU (frame.faithful before) result) refused

/-- A read before a write that is refused. -/
theorem readThenWrite_refused {world : World} (before : holds world) {recordName : String}
    (refused : ¬ Writable session world fileName recordName)
    (record : Option Record → Record) (named : ∀ existing, (record existing).name = recordName) :
    holds (exec (session.read fileName recordName >>= fun existing =>
      session.write fileName (record existing)) world).2 := by
  have same : Keeps (· = world) (session.read fileName recordName) :=
    (read_ensures (steady_same (frame.faithful before)) fileName recordName).weakenPost
      fun _ _ => And.left
  rw [exec_bind, exec_of_keeps same]
  cases outcome (session.read fileName recordName) world with
  | error what => exact before
  | ok existing => exact frame.write_refused before (named existing ▸ refused)

/-- So does the write of an attribute. -/
theorem writeAttributeValue_refused {world : World} (before : holds world) {recordName : String}
    (refused : ¬ Writable session world fileName recordName) (attributeNo : Int) (value : String) :
    holds (exec (session.writeAttributeValue fileName recordName attributeNo value) world).2 :=
  frame.readThenWrite_refused before refused _ fun _ => rfl

/-- So does the write of a value. -/
theorem writeSubvalue_refused {world : World} (before : holds world) {recordName : String}
    (refused : ¬ Writable session world fileName recordName) (attributeNo valueIndex : Int)
    (value : String) :
    holds (exec (session.writeSubvalue fileName recordName attributeNo valueIndex value)
      world).2 := by
  unfold FileSystem.writeSubvalue
  split
  · exact before
  · exact frame.readThenWrite_refused before refused _ fun _ => rfl

end FileFrame

end Gemini.PickFS
