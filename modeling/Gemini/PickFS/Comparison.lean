import Gemini.PickFS.Changes

/-!
# One operation in two worlds

An operation of a session is compared in two worlds. The session reaches a world through the
system calls at its root and through the calls of the lock table. A relation between worlds
that these respect is respected by every operation, which then answers the same in both.
-/

namespace Gemini.PickFS

open Gemini.Semantics Gemini.Locking Program

/-- What related worlds answer a session: the same, and they are related again. `checked` is
the record whose lock the session looks at. -/
structure Respects (session : FileSystem) (checked : Option (String × String))
    (related : World → World → Prop) : Prop where
  systemCall : ∀ {Value : Type} (call : Directory → Value × Directory) {left right : World},
    related left right → Agrees related (systemCall session.root call) left right
  acquireRecordLock : ∀ {fileName recordName : String}, checked = some (fileName, recordName) →
    ∀ (lockType : LockType) {left right : World}, related left right →
      Agrees related (session.acquireRecordLock fileName recordName lockType) left right
  assertRecordAccessible : ∀ {fileName recordName : String},
    checked = some (fileName, recordName) → ∀ {left right : World}, related left right →
      Agrees related (session.assertRecordAccessible fileName recordName) left right
  releaseLock : ∀ (fileName recordName : String) {left right : World}, related left right →
    Agrees related (session.releaseLock fileName recordName) left right
  releaseFileLocks : ∀ (fileName : String) {left right : World}, related left right →
    Agrees related (session.releaseFileLocks fileName) left right
  releaseSessionLocks : ∀ {left right : World}, related left right →
    Agrees related session.releaseSessionLocks left right

/-- The record whose lock is checked once a file has been opened. -/
def openedRecord (session : FileSystem) (world : World) (fileName recordName : String) :
    Option (String × String) :=
  match ((session.openFile fileName).exec world).1 with
  | .ok _ => if isValidRecordName recordName then some (fileName, recordName) else none
  | .error _ => none

/-- The record whose lock an operation checks. -/
def checkedRecord (session : FileSystem) (world : World) : FileOperation → Option (String × String)
  | .read fileName recordName => openedRecord session world fileName recordName
  | .write fileName record => openedRecord session world fileName record.name
  | .readU fileName recordName => some (fileName, recordName)
  | .writeU fileName record => some (fileName, record.name)
  | .readRecord fileName recordName =>
      if isValidRecordName recordName then some (fileName, recordName) else none
  | .writeRecord fileName record =>
      if isValidRecordName record.name then some (fileName, record.name) else none
  | .deleteRecord fileName recordName =>
      if isValidRecordName recordName then some (fileName, recordName) else none
  | .readAttributeValue fileName recordName _ => openedRecord session world fileName recordName
  | .readSubvalue fileName recordName _ _ => openedRecord session world fileName recordName
  | .writeAttributeValue fileName recordName _ _ =>
      openedRecord session world fileName recordName
  | .writeSubvalue fileName recordName _ valueIndex _ =>
      if valueIndex ≤ 0 then none else openedRecord session world fileName recordName
  | .createFile _ | .deleteFile _ | .releaseRecord _ _ | .releaseSessionLocks => none

section Opened

variable {session : FileSystem} {world after : World} {fileName recordName : String}
  {handle : FileHandle}

/-- A file that has been opened is the one whose record is checked. -/
theorem openedRecord_eq (opened : (session.openFile fileName).exec world = (.ok handle, after))
    (valid : isValidRecordName recordName = true) :
    openedRecord session world fileName recordName = some (fileName, recordName) := by
  simp [openedRecord, opened, valid]

/-- An open file has the name it was opened with. -/
theorem handle_of_openFile
    (opened : (session.openFile fileName).exec world = (.ok handle, after)) :
    handle = session.handle fileName := by
  have ensured : Ensures (fun _ => True) (session.openFile fileName)
      (fun handle _ => True ∧ handle = session.handle fileName) (fun _ => True) :=
    openFile_ensures (fun _ _ => trivial) fileName
  have done := ensured world trivial
  rw [opened] at done
  exact done.2

/-- A record that was read had its file opened and its lock checked. -/
theorem openedRecord_of_read {found : Option Record}
    (returned : (session.read fileName recordName).exec world = (.ok found, after)) :
    openedRecord session world fileName recordName = some (fileName, recordName) := by
  rw [FileSystem.read, exec_bind] at returned
  split at returned
  · rename_i handle opened isOpen
    by_cases valid : isValidRecordName recordName = true
    · exact openedRecord_eq isOpen valid
    · simp [FileSystem.readRecord, valid] at returned
  · simp at returned

end Opened

namespace Respects

variable {session : FileSystem} {checked : Option (String × String)}
  {related : World → World → Prop} {left right : World} {Value : Type}

/-! ## Files -/

/-- Looking at a directory gives the same in both worlds. -/
theorem inspect (respects : Respects session checked related) (holds : related left right)
    (look : Directory → Value) :
    Agrees related (PickFS.inspect session.root look) left right :=
  respects.systemCall _ holds

/-- A file is there in both worlds or in neither. -/
theorem requireDirectory (respects : Respects session checked related)
    (holds : related left right) (fileName : String) :
    Agrees related (session.requireDirectory fileName) left right := by
  refine .bind (respects.inspect holds _) fun {present _ _} _ holds => ?_
  rcases present with _ | _ | _
  · exact .throw _ holds
  · exact .throw _ holds
  · refine .bind (respects.inspect holds _) fun {directory _ _} _ holds => ?_
    rcases directory with _ | _ | _
    · exact .throw _ holds
    · exact .throw _ holds
    · exact .pure _ holds

/-- A file opens in both worlds or in neither. -/
theorem openFile (respects : Respects session checked related) (holds : related left right)
    (fileName : String) : Agrees related (session.openFile fileName) left right := by
  unfold FileSystem.openFile
  split
  · exact .throw _ holds
  · exact .bind (respects.requireDirectory holds fileName) fun _ holds => .pure _ holds

/-- A new file is made in both worlds. -/
theorem createFile (respects : Respects session checked related) (holds : related left right)
    (fileName : String) : Agrees related (session.createFile fileName) left right := by
  unfold FileSystem.createFile
  split
  · exact .throw _ holds
  · refine .bind (respects.inspect holds _) fun {root _ _} _ holds => ?_
    rcases root with _ | _
    · exact .throw _ holds
    · refine .bind (respects.inspect holds _) fun {present _ _} _ holds => ?_
      rcases present with _ | _ | _
      · exact .throw _ holds
      · refine .bind (respects.systemCall _ holds) fun {created _ _} _ holds => ?_
        rcases created with _ | _ | _
        · exact .throw _ holds
        · exact .throw _ holds
        · exact .pure _ holds
      · exact .throw _ holds

/-- The records go one by one in both worlds. -/
theorem removeEntries (respects : Respects session checked related) (holds : related left right)
    (fileName : String) (files : List RecordFile) :
    Agrees related (PickFS.removeEntries session.root fileName files) left right := by
  induction files generalizing left right with
  | nil => exact respects.systemCall _ holds
  | cons file rest inductionHypothesis =>
      refine .bind (respects.systemCall _ holds) fun {removed _ _} _ holds => ?_
      rcases removed with _ | _
      · exact .pure _ holds
      · exact inductionHypothesis holds

/-- A file is deleted in both worlds or in neither. -/
theorem deleteFile (respects : Respects session checked related) (holds : related left right)
    (fileName : String) : Agrees related (session.deleteFile fileName) left right := by
  unfold FileSystem.deleteFile
  split
  · exact .throw _ holds
  · refine .bind (respects.releaseFileLocks fileName holds) fun _ holds => ?_
    refine .bind (respects.requireDirectory holds fileName) fun _ holds => ?_
    refine .bind (.bind (respects.inspect holds _) fun {files _ _} _ holds => ?_)
      fun {removed _ _} _ holds => ?_
    · rcases files with _ | _ | files
      · exact .pure _ holds
      · exact .pure _ holds
      · exact respects.removeEntries holds fileName files
    · rcases removed with _ | _
      · exact .throw _ holds
      · exact .pure _ holds

/-! ## Records -/

/-- A record is found under the same extension in both worlds. -/
theorem firstExisting (respects : Respects session checked related) (holds : related left right)
    (fileName recordName : String) (extensions : List Extension) :
    Agrees related (PickFS.firstExisting (session.handle fileName) recordName extensions)
      left right := by
  induction extensions generalizing left right with
  | nil => exact .pure _ holds
  | cons extension rest inductionHypothesis =>
      refine .bind (respects.inspect holds _) fun {present _ _} _ holds => ?_
      rcases present with _ | _ | _
      · exact inductionHypothesis holds
      · exact inductionHypothesis holds
      · exact .pure _ holds

/-- A record has the same place in both worlds. -/
theorem resolveRecordPath (respects : Respects session checked related)
    (holds : related left right) (fileName recordName : String) :
    Agrees related (PickFS.resolveRecordPath (session.handle fileName) recordName)
      left right :=
  .bind (respects.firstExisting holds fileName recordName _) fun _ holds => .pure _ holds

/-- A record reads the same in both worlds when its lock is the one that is compared. -/
theorem readRecord {fileName recordName : String} (respects : Respects session checked related)
    (holds : related left right)
    (checks : isValidRecordName recordName = true → checked = some (fileName, recordName)) :
    Agrees related (session.readRecord (session.handle fileName) recordName) left right := by
  unfold FileSystem.readRecord
  split
  · exact .throw _ holds
  · rename_i valid
    have isChecked := checks (by simpa using valid)
    refine .bind (respects.assertRecordAccessible isChecked holds) fun _ holds => ?_
    refine .bind (respects.firstExisting holds fileName recordName _)
      fun {found _ _} _ holds => ?_
    cases found with
    | none => exact .pure _ holds
    | some extension =>
        refine .bind (respects.inspect holds _) fun {read _ _} _ holds => ?_
        cases read.join with
        | none => exact .throw _ holds
        | some content => exact .pure _ holds

/-- A record is written the same when its lock is the one that is compared. -/
theorem writeRecord {fileName : String} {record : Record}
    (respects : Respects session checked related) (holds : related left right)
    (checks : isValidRecordName record.name = true → checked = some (fileName, record.name)) :
    Agrees related (session.writeRecord (session.handle fileName) record) left right := by
  unfold FileSystem.writeRecord
  split
  · exact .throw _ holds
  · rename_i valid
    have isChecked := checks (by simpa using valid)
    refine .bind (respects.assertRecordAccessible isChecked holds) fun _ holds => ?_
    refine .bind (respects.resolveRecordPath holds fileName record.name) fun _ holds => ?_
    refine .bind (respects.inspect holds _) fun {directory _ _} _ holds => ?_
    rcases directory with _ | _ | _
    · exact .throw _ holds
    · exact .throw _ holds
    · refine .bind (respects.inspect holds _) fun {written _ _} _ holds => ?_
      rcases written with _ | _
      · exact .throw _ holds
      · refine .bind (respects.systemCall _ holds) fun {renamed _ _} _ holds => ?_
        rcases renamed with _ | _
        · exact .throw _ holds
        · exact .pure _ holds

/-- A record is deleted the same when its lock is the one that is compared. -/
theorem deleteRecord {fileName recordName : String} (respects : Respects session checked related)
    (holds : related left right)
    (checks : isValidRecordName recordName = true → checked = some (fileName, recordName)) :
    Agrees related (session.deleteRecord (session.handle fileName) recordName) left right := by
  unfold FileSystem.deleteRecord
  split
  · exact .throw _ holds
  · rename_i valid
    have isChecked := checks (by simpa using valid)
    refine .bind (respects.assertRecordAccessible isChecked holds) fun _ holds => ?_
    refine .bind (respects.resolveRecordPath holds fileName recordName) fun _ holds => ?_
    refine .bind (respects.systemCall _ holds) fun {removed _ _} _ holds => ?_
    rcases removed.join with _ | _ | _
    · exact .throw _ holds
    · exact .throw _ holds
    · exact .bind (respects.releaseLock fileName recordName holds) fun _ holds => .pure _ holds

/-- A read by name opens the file and reads the record. -/
theorem read {fileName recordName : String} (respects : Respects session checked related)
    (holds : related left right)
    (checks : openedRecord session left fileName recordName = some (fileName, recordName) →
      checked = some (fileName, recordName)) :
    Agrees related (session.read fileName recordName) left right := by
  refine .bind (respects.openFile holds fileName) fun opened holds => ?_
  rw [handle_of_openFile opened]
  exact respects.readRecord holds fun valid => checks (openedRecord_eq opened valid)

/-- So does a write. -/
theorem write {fileName : String} {record : Record} (respects : Respects session checked related)
    (holds : related left right)
    (checks : openedRecord session left fileName record.name = some (fileName, record.name) →
      checked = some (fileName, record.name)) :
    Agrees related (session.write fileName record) left right := by
  refine .bind (respects.openFile holds fileName) fun opened holds => ?_
  rw [handle_of_openFile opened]
  exact respects.writeRecord holds fun valid => checks (openedRecord_eq opened valid)

/-- A record read and written back, as the writes of a single cell do it. -/
theorem readThenWrite {fileName recordName : String} (respects : Respects session checked related)
    (holds : related left right) (text : Option Record → String)
    (checks : openedRecord session left fileName recordName = some (fileName, recordName) →
      checked = some (fileName, recordName)) :
    Agrees related (do
      let existing ← session.read fileName recordName
      session.write fileName (.ofText recordName (text existing))) left right := by
  refine .bind (respects.read holds checks) fun returned holds => ?_
  exact respects.write holds fun _ => checks (openedRecord_of_read returned)

/-! ## Every operation -/

/-- The result of an operation is made of what the program gives. -/
theorem performed {program : FileM Value} {result : Value → FileResult}
    (agrees : Agrees related program left right) :
    Agrees related (do return result (← program)) left right :=
  .bind agrees fun _ holds => .pure _ holds

/-- An operation does the same in both worlds. -/
theorem perform (operation : FileOperation)
    (respects : Respects session (checkedRecord session left operation) related)
    (holds : related left right) :
    Agrees related (session.perform operation) left right := by
  cases operation with
  | createFile fileName => exact performed (respects.createFile holds fileName)
  | deleteFile fileName => exact performed (respects.deleteFile holds fileName)
  | read fileName recordName => exact performed (respects.read holds id)
  | write fileName record => exact performed (respects.write holds id)
  | readU fileName recordName =>
      refine performed (.bind (respects.acquireRecordLock rfl .ReadU holds) fun _ holds => ?_)
      exact respects.read holds fun _ => rfl
  | writeU fileName record =>
      refine performed (.bind (respects.acquireRecordLock rfl .WriteU holds) fun _ holds => ?_)
      exact respects.write holds fun _ => rfl
  | releaseRecord fileName recordName =>
      exact performed (respects.releaseLock fileName recordName holds)
  | readRecord fileName recordName =>
      exact performed (respects.readRecord holds fun valid => if_pos valid)
  | writeRecord fileName record =>
      exact performed (respects.writeRecord holds fun valid => if_pos valid)
  | deleteRecord fileName recordName =>
      exact performed (respects.deleteRecord holds fun valid => if_pos valid)
  | readAttributeValue fileName recordName attributeNo =>
      exact performed (.bind (respects.read holds id) fun _ holds => .pure _ holds)
  | readSubvalue fileName recordName attributeNo valueIndex =>
      exact performed (.bind (respects.read holds id) fun _ holds => .pure _ holds)
  | writeAttributeValue fileName recordName attributeNo value =>
      exact performed (respects.readThenWrite holds _ id)
  | writeSubvalue fileName recordName attributeNo valueIndex value =>
      refine performed ?_
      unfold FileSystem.writeSubvalue
      split
      · exact .throw _ holds
      · rename_i positive
        refine respects.readThenWrite holds _ fun opened => ?_
        rw [checkedRecord, if_neg positive, opened]
  | releaseSessionLocks => exact performed (respects.releaseSessionLocks holds)

end Respects

end Gemini.PickFS
