import Gemini.Semantics.Run
import Gemini.PickFS.Changes

/-!
# What a record lock protects

While a session holds the lock on a record, what the other sessions do leaves the lock
and the record as they are, and lets none of them read it. The deletion of the whole
file is the exception: it releases the locks on the file and removes its records,
whoever asks for it.
-/

namespace Gemini.PickFS

open Gemini.Semantics Gemini.Locking Program

/-- The lock on a record is held, and the record is as it was. -/
structure Undisturbed (before : World) (fileName recordName : String) (entry : LockEntry)
    (world : World) : Prop where
  locked : world.locks.lookup fileName recordName = some entry
  content : ∀ root extension, (world.disk root).content fileName (recordName, extension) =
    (before.disk root).content fileName (recordName, extension)

/-- An action of a session that is not the holder of a lock; both are bound to the table. -/
structure OtherSession (holder : FileSystem) (action : FileAction) : Prop where
  bound : action.session.lockingEnabled = true
  other : action.session.lockSessionId ≠ holder.lockSessionId

section Steps

variable {session : FileSystem} {deletes : String → Prop} {before world after : World}
  {fileName recordName : String} {entry : LockEntry}

/-- A record locked by another session is not accessible. -/
theorem Undisturbed.not_accessible
    (undisturbed : Undisturbed before fileName recordName entry world)
    (bound : session.lockingEnabled = true) (other : entry.ownerSessionId ≠ session.lockSessionId) :
    ¬ Accessible session world fileName recordName :=
  fun accessible => other (accessible bound entry undisturbed.locked)

/-- A permitted change keeps the text of a record that is locked against the session. -/
theorem DirectoryChange.content {accessible : String → String → Prop}
    {directory changed : Directory}
    (change : DirectoryChange accessible deletes directory changed)
    (locked : ¬ accessible fileName recordName) (spared : ¬ deletes fileName)
    (extension : Extension) :
    changed.content fileName (recordName, extension) =
      directory.content fileName (recordName, extension) := by
  cases change with
  | createFile unused => exact Directory.content_createFile unused fileName
  | putContent granted written text =>
      refine Directory.content_putContent_of_ne ?_
      rintro rfl ⟨⟩
      exact locked granted
  | eraseContent granted erased =>
      refine Directory.content_eraseContent_of_ne ?_
      rintro rfl ⟨⟩
      exact locked granted
  | removeContent deleted file =>
      refine Directory.content_eraseContent_of_ne ?_
      rintro rfl
      exact absurd deleted spared
  | removeFile deleted =>
      refine Directory.content_erase_of_ne ?_
      rintro rfl
      exact spared deleted

/-- A permitted change of another session leaves the record alone. -/
theorem Undisturbed.change (undisturbed : Undisturbed before fileName recordName entry world)
    (bound : session.lockingEnabled = true) (other : entry.ownerSessionId ≠ session.lockSessionId)
    (spared : ¬ deletes fileName) (change : Change session deletes world after) :
    Undisturbed before fileName recordName entry after := by
  cases change with
  | faults => exact ⟨undisturbed.locked, undisturbed.content⟩
  | directory changed =>
      refine ⟨undisturbed.locked, fun root extension => ?_⟩
      rw [← undisturbed.content root extension]
      by_cases same : root = session.root
      · subst same
        simpa using changed.content (undisturbed.not_accessible bound other) spared extension
      · simp [same]
  | locks changed =>
      refine ⟨?_, undisturbed.content⟩
      exact (changed.foreign_iff other (absurd · spared)).mpr undisturbed.locked

/-- Another session's changes leave the record as it is while the lock is held. -/
theorem Undisturbed.changes (undisturbed : Undisturbed before fileName recordName entry world)
    (bound : session.lockingEnabled = true) (other : entry.ownerSessionId ≠ session.lockSessionId)
    (spared : ¬ deletes fileName) (changes : Changes session deletes world after) :
    Undisturbed before fileName recordName entry after := by
  induction changes with
  | refl => exact undisturbed
  | tail _ change inductionHypothesis => exact inductionHypothesis.change bound other spared change

end Steps

/-! ## Runs of other sessions -/

section Runs

variable {holder : FileSystem} {before world : World} {fileName recordName : String}
  {entry : LockEntry} {action : FileAction}

/-- The operation of another session: it leaves the record alone, and when it is to read the
record it fails. -/
theorem Undisturbed.outcome (undisturbed : Undisturbed before fileName recordName entry world)
    (owned : entry.ownerSessionId = holder.lockSessionId) (other : OtherSession holder action)
    (spared : action.operation ≠ .deleteFile fileName) :
    Undisturbed before fileName recordName entry (action.outcome world).2 ∧
      (action.operation.reads = some (fileName, recordName) →
        ∃ error, (action.outcome world).1 = .error error) := by
  have foreign : entry.ownerSessionId ≠ action.session.lockSessionId :=
    fun same => other.other (same.symm.trans owned)
  have started : Undisturbed before fileName recordName entry
      { world with faults := action.faults } := ⟨undisturbed.locked, undisturbed.content⟩
  have spares : action.operation.deletes ≠ some fileName := by
    rintro deleted
    unfold FileOperation.deletes at deleted
    split at deleted
    · simp_all
    · cases deleted
  have performed := perform_changes action.session action.operation
    { world with faults := action.faults } _ .refl
  unfold FileAction.outcome
  split at performed
  · rename_i result final done
    rw [done]
    refine ⟨started.changes other.bound foreign spares performed.1, fun reads => ?_⟩
    obtain ⟨checked, changes, accessible⟩ := performed.2 _ reads
    have held := started.changes other.bound foreign spares changes
    exact absurd accessible (held.not_accessible other.bound foreign)
  · rename_i error final failed
    rw [failed]
    exact ⟨started.changes other.bound foreign spares performed, fun _ => ⟨error, rfl⟩⟩

end Runs

/-! ## Reading without failures -/

/-- The record that a directory has. -/
def storedRecord (directory : Directory) (fileName recordName : String) : Option Record :=
  let found := (candidateExtensions fileName).find? fun extension =>
    (directory.content fileName (recordName, extension)).isSome
  (found.bind fun extension => directory.content fileName (recordName, extension)).map
    (.ofText recordName)

section Quiet

variable {session : FileSystem} {disk : Root → Directory} {Value : Type}

/-- No system call is going to fail. -/
def Quiet (disk : Root → Directory) (world : World) : Prop :=
  world.faults = [] ∧ world.disk = disk

/-- Looking at a directory finds what is there. -/
theorem inspect_quiet (root : Root) (look : Directory → Value) :
    Ensures (Quiet disk) (inspect root look)
      (fun found world => Quiet disk world ∧ found = some (look (disk root))) (Quiet disk) := by
  refine Ensures.modifyGet ?_
  rintro world ⟨noFaults, rfl⟩
  simp [noFaults, Quiet]

/-- A host that does not fail goes on not to fail. -/
theorem steady_quiet : Steady (Quiet disk) := by
  rintro world ⟨noFaults, rfl⟩
  exact ⟨by simp [noFaults], rfl⟩

/-- The extension under which a record is stored. -/
theorem firstExisting_quiet (handle : FileHandle) (recordName : String)
    (extensions : List Extension) :
    Ensures (Quiet disk) (firstExisting handle recordName extensions)
      (fun found world => Quiet disk world ∧ found = extensions.find? fun extension =>
        ((disk handle.root).content handle.name (recordName, extension)).isSome)
      (Quiet disk) := by
  induction extensions with
  | nil => exact Ensures.pure fun _ quiet => ⟨quiet, rfl⟩
  | cons extension rest inductionHypothesis =>
      refine (inspect_quiet _ _).bind fun found => .assume fun known => ?_
      subst known
      rw [List.find?_cons]
      cases ((disk handle.root).content handle.name (recordName, extension)).isSome with
      | true => exact Ensures.pure fun _ quiet => ⟨quiet, rfl⟩
      | false => exact inductionHypothesis

/-- A record that is read is the one that is stored. -/
theorem readRecord_quiet (handle : FileHandle) (recordName : String) :
    Ensures (Quiet disk) (session.readRecord handle recordName)
      (fun found world => Quiet disk world ∧
        found = storedRecord (disk handle.root) handle.name recordName) (Quiet disk) := by
  unfold FileSystem.readRecord
  split
  · exact Ensures.throw fun _ quiet => quiet
  · refine ((assertRecordAccessible_ensures handle.name recordName).weakenPost
      fun _ _ => And.left).bind fun _ => ?_
    refine (firstExisting_quiet handle recordName _).bind fun found => .assume fun known => ?_
    cases found with
    | none => exact Ensures.pure fun _ quiet => ⟨quiet, by simp only [storedRecord, ← known]; rfl⟩
    | some extension =>
        refine (inspect_quiet _ _).bind fun read => .assume fun looked => ?_
        subst looked
        rw [Option.join_some]
        cases content : (disk handle.root).content handle.name (recordName, extension) with
        | none => exact Ensures.throw fun _ quiet => quiet
        | some text =>
            refine Ensures.pure fun _ quiet => ⟨quiet, ?_⟩
            simp only [storedRecord, ← known, Option.bind_some, content, Option.map_some]

/-- The lock table is no disk. -/
theorem lockCall_quiet (call : LockTable → Value × LockTable) :
    Keeps (Quiet disk) (lockCall call) :=
  Ensures.modifyGet fun _ quiet => quiet

/-- Taking a lock changes no disk. -/
theorem acquireRecordLock_quiet (fileName recordName : String) (lockType : LockType) :
    Keeps (Quiet disk) (session.acquireRecordLock fileName recordName lockType) := by
  unfold FileSystem.acquireRecordLock
  split
  · exact Ensures.pure fun _ quiet => quiet
  · refine (lockCall_quiet _).bind ?_
    rintro (_ | conflict)
    · exact Ensures.pure fun _ quiet => quiet
    · exact Ensures.throw fun _ quiet => quiet

/-- A `readU` without failures gives the record that is stored. -/
theorem readU_quiet (session : FileSystem) (fileName recordName : String) :
    Ensures (Quiet disk) (session.readU fileName recordName)
      (fun found world => Quiet disk world ∧
        found = storedRecord (disk session.root) fileName recordName) (Quiet disk) := by
  refine Ensures.bind (acquireRecordLock_quiet fileName recordName .ReadU) fun _ => ?_
  refine (openFile_ensures steady_quiet fileName).bind fun handle => .assume fun same => ?_
  subst same
  exact readRecord_quiet (session.handle fileName) recordName

end Quiet

/-! ## The guarantee -/

/-- Whatever the other sessions do, short of deleting the file: the holder's lock stays, the
record's content stays, nobody else reads the record, and what a `readU` of the holder has
returned is still what is stored. -/
theorem lockedRecord_undisturbed (holder : FileSystem) (world : World)
    (fileName recordName : String) (entry : LockEntry)
    (locked : world.locks.lookup fileName recordName = some entry)
    (owned : entry.ownerSessionId = holder.lockSessionId) (actions : List FileAction)
    (others : ∀ action ∈ actions, OtherSession holder action)
    (spared : ∀ action ∈ actions, action.operation ≠ .deleteFile fileName) :
    Always fileStep (Undisturbed world fileName recordName entry) world actions ∧
      EachStep fileStep (fun state action =>
        action.operation.reads = some (fileName, recordName) →
          ∃ error, (action.outcome state).1 = .error error) world actions ∧
      ∀ start found, start.faults = [] →
        (holder.readU fileName recordName).exec start = (.ok found, world) →
        ∀ final, run fileStep world actions = some final →
          storedRecord (final.disk holder.root) fileName recordName = found := by
  have started : Undisturbed world fileName recordName entry world := ⟨locked, fun _ _ => rfl⟩
  have meets : EachStep fileStep (fun _ action => OtherSession holder action ∧
      action.operation ≠ .deleteFile fileName) world actions :=
    eachStep_of_forall (fun action member => ⟨others action member, spared action member⟩) world
  have preserved {state : World} {action : FileAction} {next : World}
      (undisturbed : Undisturbed world fileName recordName entry state)
      (other : OtherSession holder action ∧ action.operation ≠ .deleteFile fileName)
      (taken : fileStep state action = some next) :
      Undisturbed world fileName recordName entry next := by
    cases taken
    exact (undisturbed.outcome owned other.1 other.2).1
  have always := always_of_invariant preserved started meets
  refine ⟨always, eachStep_of_invariant preserved
    (fun undisturbed other => (undisturbed.outcome owned other.1 other.2).2) started meets, ?_⟩
  intro start found noFaults returned final completed
  have done := readU_quiet holder fileName recordName start ⟨noFaults, rfl⟩
  rw [returned] at done
  obtain ⟨⟨_, sameDisk⟩, rfl⟩ := done
  have same := (always.finish completed).content holder.root
  simp only [storedRecord, same, sameDisk]

/-- Two sessions at one account. -/
def firstSession : FileSystem where
  root := "account"
  lockTable := true
  lockSessionId := "S:1:SALES:USER1"

/-- Another session of the same account. -/
def secondSession : FileSystem where
  root := "account"
  lockTable := true
  lockSessionId := "S:2:SALES:USER2"

/-- A file with one record, which the first session has read for update. -/
def readForUpdate : World :=
  ((run fileStep {} [
    { session := firstSession, operation := .createFile "DATA" },
    { session := firstSession, operation := .write "DATA" (.ofText "R1" "one\ntwo") },
    { session := firstSession, operation := .readU "DATA" "R1" }]).getD {})

/-- The lock of the first session. -/
def firstLock : LockEntry where
  ownerSessionId := "S:1:SALES:USER1"

/-- What the second session tries while the record is locked. -/
def attempts : List FileAction :=
  [{ session := secondSession, operation := .read "DATA" "R1" },
    { session := secondSession, operation := .writeU "DATA" (.ofText "R1" "lost") },
    { session := secondSession, operation := .writeAttributeValue "DATA" "R1" 2 "lost" },
    { session := secondSession, operation := .deleteRecord "DATA" "R1" },
    { session := secondSession, operation := .releaseRecord "DATA" "R1" },
    { session := secondSession, operation := .createFile "OTHER" },
    { session := secondSession, operation := .deleteFile "OTHER" }]

/-- None of it disturbs the record. -/
theorem attempts_undisturbed :
    readForUpdate.locks.lookup "DATA" "R1" = some firstLock ∧
      Always fileStep (Undisturbed readForUpdate "DATA" "R1" firstLock) readForUpdate attempts :=
  have locked : readForUpdate.locks.lookup "DATA" "R1" = some firstLock := by decide +kernel
  have others : ∀ action ∈ attempts, OtherSession firstSession action := by
    simp only [attempts, List.forall_mem_cons]
    refine ⟨⟨?_, ?_⟩, ⟨?_, ?_⟩, ⟨?_, ?_⟩, ⟨?_, ?_⟩, ⟨?_, ?_⟩, ⟨?_, ?_⟩, ⟨?_, ?_⟩, nofun⟩ <;> decide
  ⟨locked, (lockedRecord_undisturbed firstSession readForUpdate "DATA" "R1" firstLock locked rfl
    attempts others (by decide)).1⟩

/-- Another session deletes the file: the lock and the record are gone. -/
theorem fileDeleted_disturbed :
    ¬ Always fileStep (Undisturbed readForUpdate "DATA" "R1" firstLock) readForUpdate
      [{ session := secondSession, operation := .deleteFile "DATA" }] := by
  intro always
  have released : (run fileStep readForUpdate
      [{ session := secondSession, operation := .deleteFile "DATA" }]).map
        (fun final => final.locks.lookup "DATA" "R1") = some none := by decide +kernel
  obtain ⟨final, completed, unlocked⟩ := Option.map_eq_some_iff.mp released
  have locked := (always.finish completed).locked
  simp [unlocked] at locked

end Gemini.PickFS
