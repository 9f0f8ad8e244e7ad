import Mathlib.Algebra.Ring.Nat
import Gemini.Data.AssociationList

/-!
# The record lock table

`PickCore::Locking::LockTable`: which session holds the lock on a record. The table is
keyed by file name and record id, both as plain text. The time at which a lock was
acquired is left out, as nothing reads it.

Every operation is described by what `lookup` answers after it.
-/

namespace Gemini.Locking

open Gemini.Data

/-- What a lock has been taken for. -/
inductive LockType where
  | ReadU
  | WriteU
deriving DecidableEq

/-- Who has a lock, and what for. -/
structure LockEntry where
  ownerSessionId : String
  lockType : LockType := .ReadU
deriving DecidableEq

/-- A lock that another session has. -/
structure LockConflict where
  fileName : String := ""
  recordId : String := ""
  ownerSessionId : String := ""
  lockType : LockType := .ReadU
deriving DecidableEq

/-- The name of a type of lock. -/
def lockTypeLabel : LockType → String
  | .ReadU => "READU"
  | .WriteU => "WRITEU"

/-- The text of a conflict. -/
def describeLockConflict (conflict : LockConflict) : String :=
  "RECORD LOCKED: " ++ conflict.fileName ++ " " ++ conflict.recordId ++ " (owner " ++
    conflict.ownerSessionId ++ ", " ++ lockTypeLabel conflict.lockType ++ ")"

/-- The locks of one file. -/
abbrev RecordLocks := AList fun _ : String => LockEntry

/-- The locks, by file and record. -/
structure LockTable where
  locks : AList fun _ : String => RecordLocks := ∅

namespace LockTable

/-- No name is empty. -/
def isValidKey (value : String) : Bool := value ≠ ""

/-- The lock of a record. -/
def lookup (table : LockTable) (fileName recordId : String) : Option LockEntry :=
  if !isValidKey fileName || !isValidKey recordId then none
  else (table.locks.lookup fileName).bind (·.lookup recordId)

/-- Put a lock into the map of its file, which is made when the file has none. -/
def setLock (table : LockTable) (fileName recordId : String) (entry : LockEntry) : LockTable :=
  let fileLocks := (table.locks.lookup fileName).getD ∅
  { locks := table.locks.insert fileName (fileLocks.insert recordId entry) }

/-- `tryAcquire`, with the conflict where the source returns false. An invalid key leaves the
conflict of the caller as it was made. -/
def tryAcquire (table : LockTable) (sessionId fileName recordId : String) (lockType : LockType) :
    Except LockConflict LockTable :=
  if !isValidKey sessionId || !isValidKey fileName || !isValidKey recordId then .error {}
  else
    match (table.locks.lookup fileName).bind (·.lookup recordId) with
    | some entry =>
        if entry.ownerSessionId ≠ sessionId then
          .error {
            fileName := fileName
            recordId := recordId
            ownerSessionId := entry.ownerSessionId
            lockType := entry.lockType }
        else .ok (table.setLock fileName recordId { entry with lockType := lockType })
    | none =>
        .ok (table.setLock fileName recordId { ownerSessionId := sessionId, lockType := lockType })

/-- Put the map of a file back; an empty one is dropped. -/
def putLocks (table : LockTable) (fileName : String) (fileLocks : RecordLocks) : LockTable :=
  if fileLocks.entries.isEmpty then { locks := table.locks.erase fileName }
  else { locks := table.locks.insert fileName fileLocks }

/-- `release`: a session gives back a lock that it has. -/
def release (table : LockTable) (sessionId fileName recordId : String) : Bool × LockTable :=
  if !isValidKey sessionId || !isValidKey fileName || !isValidKey recordId then (false, table)
  else
    match table.locks.lookup fileName with
    | none => (false, table)
    | some fileLocks =>
        match fileLocks.lookup recordId with
        | none => (false, table)
        | some entry =>
            if entry.ownerSessionId ≠ sessionId then (false, table)
            else (true, table.putLocks fileName (fileLocks.erase recordId))

/-- A lock that the session does not own. -/
def foreign (sessionId : String) (entry : LockEntry) : Option LockEntry :=
  if entry.ownerSessionId = sessionId then none else some entry

/-- A lock that the session owns. -/
def own (sessionId : String) (entry : LockEntry) : Option LockEntry :=
  if entry.ownerSessionId = sessionId then some entry else none

/-- The locks of a file without those of a session; a file that has none left is dropped. -/
def foreignLocks (sessionId : String) (fileLocks : RecordLocks) : Option RecordLocks :=
  let kept := filterMapValues (foreign sessionId) fileLocks
  if kept.entries.isEmpty then none else some kept

/-- The number of locks of a file that a session owns. -/
def ownedCount (sessionId : String) (fileLocks : RecordLocks) : Nat :=
  fileLocks.entries.countP fun entry => entry.2.ownerSessionId = sessionId

/-- Whether a session has a lock in a file. -/
def holdsIn (table : LockTable) (sessionId fileName : String) : Bool :=
  (table.locks.lookup fileName).any fun fileLocks => ownedCount sessionId fileLocks ≠ 0

/-- `releaseAllForSession`, with the number of locks. -/
def releaseAllForSession (table : LockTable) (sessionId : String) : Nat × LockTable :=
  if !isValidKey sessionId then (0, table)
  else
    ((table.locks.entries.map fun file => ownedCount sessionId file.2).sum,
      { locks := filterMapValues (foreignLocks sessionId) table.locks })

/-- `releaseAllForFile`, with the number of locks. -/
def releaseAllForFile (table : LockTable) (fileName : String) : Nat × LockTable :=
  if !isValidKey fileName then (0, table)
  else
    match table.locks.lookup fileName with
    | none => (0, table)
    | some fileLocks => (fileLocks.entries.length, { locks := table.locks.erase fileName })

/-! ## What `lookup` answers -/

variable {table : LockTable} {sessionId fileName recordId : String}

/-- A lock is looked up by its file, and then by its record. -/
theorem lookup_eq (valid : fileName ≠ "") (validRecord : recordId ≠ "") :
    table.lookup fileName recordId = (table.locks.lookup fileName).bind (·.lookup recordId) := by
  simp [lookup, isValidKey, valid, validRecord]

/-- Without a name there is no lock. -/
theorem lookup_invalid (invalid : ¬ (fileName ≠ "" ∧ recordId ≠ "")) :
    table.lookup fileName recordId = none := by
  rw [lookup, if_pos (by simpa [isValidKey, or_iff_not_imp_left] using invalid)]

theorem lookup_of_isEmpty {fileLocks : RecordLocks} (empty : fileLocks.entries.isEmpty)
    (record : String) : fileLocks.lookup record = none := by
  have isEmpty : fileLocks = ∅ := AList.ext (List.isEmpty_iff.mp empty)
  simp [isEmpty]

/-- The locks of other sessions in a file. -/
theorem lookup_foreignLocks (fileLocks : RecordLocks) (record : String) :
    (foreignLocks sessionId fileLocks).bind (·.lookup record) =
      (fileLocks.lookup record).bind (foreign sessionId) := by
  rw [← lookup_filterMapValues]
  simp only [foreignLocks]
  split
  · exact (lookup_of_isEmpty ‹_› record).symm
  · rfl

/-- Tables with the same locks in the maps of two keys answer the same. -/
theorem lookup_congr {other : LockTable} {file record : String}
    (same : (other.locks.lookup file).bind (·.lookup record) =
      (table.locks.lookup file).bind (·.lookup record)) :
    other.lookup file record = table.lookup file record := by
  simp only [lookup, same]

/-- The locks of a file that are put are those of the file. -/
theorem lookup_putLocks_self (fileLocks : RecordLocks) (valid : fileName ≠ "")
    (validRecord : recordId ≠ "") :
    (table.putLocks fileName fileLocks).lookup fileName recordId = fileLocks.lookup recordId := by
  rw [lookup_eq valid validRecord, putLocks]
  split
  · rw [AList.lookup_erase, Option.bind_none, lookup_of_isEmpty ‹_›]
  · rw [AList.lookup_insert, Option.bind_some]

/-- And those of no other. -/
theorem lookup_putLocks_of_ne {file : String} (other : file ≠ fileName) (fileLocks : RecordLocks)
    (record : String) :
    (table.putLocks fileName fileLocks).lookup file record = table.lookup file record := by
  refine lookup_congr ?_
  unfold putLocks
  split
  · rw [AList.lookup_erase_ne other]
  · rw [AList.lookup_insert_ne other]

/-- A lock that is set is there, and the others are as they were. -/
theorem lookup_setLock (valid : fileName ≠ "") (validRecord : recordId ≠ "") (entry : LockEntry)
    (file record : String) :
    (table.setLock fileName recordId entry).lookup file record =
      if file = fileName ∧ record = recordId then some entry else table.lookup file record := by
  by_cases sameFile : file = fileName
  · subst sameFile
    by_cases sameRecord : record = recordId
    · subst sameRecord
      simp [lookup_eq valid validRecord, setLock]
    · simp only [sameRecord, and_false, if_false]
      refine lookup_congr ?_
      simp only [setLock, AList.lookup_insert, Option.bind_some, AList.lookup_insert_ne sameRecord]
      cases table.locks.lookup file <;> simp
  · simp only [sameFile, false_and, if_false]
    exact lookup_congr (by simp [setLock, sameFile])

/-- When a lock is acquired: the keys are not empty, and no other session has the lock. -/
theorem tryAcquire_eq (lockType : LockType) :
    table.tryAcquire sessionId fileName recordId lockType =
      if sessionId = "" ∨ fileName = "" ∨ recordId = "" then .error {}
      else match (table.lookup fileName recordId).bind (foreign sessionId) with
        | some entry => .error ⟨fileName, recordId, entry.ownerSessionId, entry.lockType⟩
        | none => .ok (table.setLock fileName recordId ⟨sessionId, lockType⟩) := by
  by_cases invalid : sessionId = "" ∨ fileName = "" ∨ recordId = ""
  · rw [if_pos invalid, tryAcquire, if_pos (by simpa [isValidKey, or_assoc] using invalid)]
  · have valid := not_or.mp (not_or.mp invalid).2
    rw [if_neg invalid, tryAcquire, if_neg (by simpa [isValidKey, and_assoc] using invalid),
      lookup_eq valid.1 valid.2]
    cases (table.locks.lookup fileName).bind (·.lookup recordId) with
    | none => rfl
    | some entry => by_cases own : entry.ownerSessionId = sessionId <;> simp [foreign, own]

/-- Tables that have the same lock on a record grant it alike. -/
theorem tryAcquire_alike {other : LockTable}
    (same : table.lookup fileName recordId = other.lookup fileName recordId)
    (lockType : LockType) :
    (∃ conflict, table.tryAcquire sessionId fileName recordId lockType = .error conflict ∧
      other.tryAcquire sessionId fileName recordId lockType = .error conflict) ∨
    (fileName ≠ "" ∧ recordId ≠ "" ∧
      table.tryAcquire sessionId fileName recordId lockType =
        .ok (table.setLock fileName recordId ⟨sessionId, lockType⟩) ∧
      other.tryAcquire sessionId fileName recordId lockType =
        .ok (other.setLock fileName recordId ⟨sessionId, lockType⟩)) := by
  rw [tryAcquire_eq, tryAcquire_eq, same]
  by_cases invalid : sessionId = "" ∨ fileName = "" ∨ recordId = ""
  · rw [if_pos invalid, if_pos invalid]
    exact .inl ⟨_, rfl, rfl⟩
  · rw [if_neg invalid, if_neg invalid]
    have valid := not_or.mp (not_or.mp invalid).2
    cases (other.lookup fileName recordId).bind (foreign sessionId) with
    | none => exact .inr ⟨valid.1, valid.2, rfl, rfl⟩
    | some entry => exact .inl ⟨_, rfl, rfl⟩

/-- A lock has names. -/
theorem valid_of_lookup {entry : LockEntry} (found : table.lookup fileName recordId = some entry) :
    fileName ≠ "" ∧ recordId ≠ "" := by
  refine of_not_not fun invalid => ?_
  simp [lookup_invalid invalid] at found

/-- A session without a lock in a file owns none there. -/
theorem not_holdsIn (free : table.holdsIn sessionId fileName = false) {entry : LockEntry}
    (found : table.lookup fileName recordId = some entry) : entry.ownerSessionId ≠ sessionId := by
  have valid := valid_of_lookup found
  rw [lookup_eq valid.1 valid.2] at found
  obtain ⟨fileLocks, inFile, inRecord⟩ := Option.bind_eq_some_iff.mp found
  have present : (⟨recordId, entry⟩ : Sigma fun _ : String => LockEntry) ∈ fileLocks.entries :=
    AList.mem_lookup_iff.mp inRecord
  intro owned
  have counted : 0 < ownedCount sessionId fileLocks :=
    List.countP_pos_iff.mpr ⟨_, present, by simpa using owned⟩
  simp [holdsIn, inFile] at free
  omega

/-- A released lock is taken out of the map of its file. -/
theorem release_own {entry : LockEntry} (found : table.lookup fileName recordId = some entry)
    (owned : entry.ownerSessionId = sessionId) (known : sessionId ≠ "") :
    (table.release sessionId fileName recordId).1 = true ∧ ∀ file record,
      (table.release sessionId fileName recordId).2.lookup file record =
        if file = fileName ∧ record = recordId then none else table.lookup file record := by
  have valid := valid_of_lookup found
  rw [lookup_eq valid.1 valid.2] at found
  obtain ⟨fileLocks, inFile, inRecord⟩ := Option.bind_eq_some_iff.mp found
  have released : table.release sessionId fileName recordId =
      (true, table.putLocks fileName (fileLocks.erase recordId)) := by
    simp [release, isValidKey, known, valid, inFile, inRecord, owned]
  rw [released]
  refine ⟨rfl, fun file record => ?_⟩
  by_cases sameFile : file = fileName
  · subst sameFile
    by_cases validRecord : record = ""
    · have invalid : ¬ (file ≠ "" ∧ record ≠ "") := fun valid => valid.2 validRecord
      rw [lookup_invalid invalid, lookup_invalid invalid, ite_self]
    · rw [lookup_putLocks_self _ valid.1 validRecord, lookup_eq valid.1 validRecord, inFile,
        Option.bind_some]
      by_cases sameRecord : record = recordId
      · rw [sameRecord, AList.lookup_erase, if_pos ⟨rfl, rfl⟩]
      · rw [AList.lookup_erase_ne sameRecord, if_neg (fun same => sameRecord same.2)]
  · rw [lookup_putLocks_of_ne sameFile, if_neg (fun same => sameFile same.1)]

/-- A session gives up its own lock only. -/
theorem release_foreign
    (notOwn : ∀ entry, table.lookup fileName recordId = some entry →
      entry.ownerSessionId ≠ sessionId) :
    (table.release sessionId fileName recordId) = (false, table) := by
  unfold release
  split
  · rfl
  · rename_i valid
    simp only [isValidKey, Bool.or_eq_true, not_or] at valid
    split
    · rfl
    · rename_i fileLocks inFile
      split
      · rfl
      · rename_i entry inRecord
        have found : table.lookup fileName recordId = some entry := by
          simp_all [lookup_eq]
        rw [if_pos (notOwn entry found)]

/-- A release answers whether the session had the lock. -/
theorem release_fst (known : sessionId ≠ "") :
    (table.release sessionId fileName recordId).1 =
      ((table.lookup fileName recordId).bind (own sessionId)).isSome := by
  cases found : table.lookup fileName recordId with
  | none => rw [release_foreign (by simp [found]), Option.bind_none, Option.isSome_none]
  | some entry =>
      by_cases owned : entry.ownerSessionId = sessionId
      · simp [(release_own found owned known).1, own, owned]
      · rw [release_foreign (by simpa [found] using owned)]
        simp [own, owned]

/-- A release takes the lock of its owner away, and no other. -/
theorem lookup_release (known : sessionId ≠ "") (file record : String) :
    (table.release sessionId fileName recordId).2.lookup file record =
      if file = fileName ∧ record = recordId then
        (table.lookup file record).bind (foreign sessionId)
      else table.lookup file record := by
  cases found : table.lookup fileName recordId with
  | none =>
      rw [release_foreign (by simp [found])]
      split
      · rename_i same
        simp [same, found]
      · rfl
  | some entry =>
      by_cases owned : entry.ownerSessionId = sessionId
      · rw [(release_own found owned known).2]
        split
        · rename_i same
          simp [same, found, foreign, owned]
        · rfl
      · rw [release_foreign (by simpa [found] using owned)]
        split
        · rename_i same
          simp [same, found, foreign, owned]
        · rfl

/-- The locks of other sessions are kept. -/
theorem lookup_releaseAllForSession (known : sessionId ≠ "") (file record : String) :
    (table.releaseAllForSession sessionId).2.lookup file record =
      (table.lookup file record).bind (foreign sessionId) := by
  unfold releaseAllForSession
  rw [if_neg (by simpa [isValidKey] using known)]
  by_cases valid : file ≠ "" ∧ record ≠ ""
  · rw [lookup_eq valid.1 valid.2, lookup_eq valid.1 valid.2]
    simp only [lookup_filterMapValues]
    cases table.locks.lookup file with
    | none => rfl
    | some fileLocks => exact lookup_foreignLocks fileLocks record
  · rw [lookup_invalid valid, lookup_invalid valid]
    rfl

/-- The locks of other files are kept. -/
theorem lookup_releaseAllForFile (file record : String) :
    (table.releaseAllForFile fileName).2.lookup file record =
      if file = fileName then none else table.lookup file record := by
  by_cases same : file = fileName
  · subst same
    rw [if_pos rfl]
    by_cases valid : file ≠ "" ∧ record ≠ ""
    · have validName : ¬ (!isValidKey file) = true := by simpa [isValidKey] using valid.1
      rw [lookup_eq valid.1 valid.2, releaseAllForFile, if_neg validName]
      cases inFile : table.locks.lookup file <;> simp [inFile]
    · rw [lookup_invalid valid]
  · rw [if_neg same]
    refine lookup_congr ?_
    unfold releaseAllForFile
    split
    · rfl
    · split
      · rfl
      · rw [AList.lookup_erase_ne same]

end LockTable

end Gemini.Locking
