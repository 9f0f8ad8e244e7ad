import Mathlib.Data.List.AList
import Mathlib.Data.List.Destutter
import Mathlib.Data.String.Basic
import Mathlib.Logic.Function.Basic
import Gemini.Semantics.Program
import Gemini.Locking.LockTable
import Gemini.PickFS.StructuredRecord

/-!
# The record file system

`PickFS::FileSystem`: files are directories under an account root, records are files in
them, and the operations of a session check or take record locks in the shared table.

The world holds the directories of every root, the lock table, and the failures that
the next system calls are going to have: a call fails when `faults` says so, and its
error is then the one the source reports. Roots are known by their path, different roots
being disjoint directories. Left out are the temporary files of a write, which no
operation reads.
-/

namespace Gemini.PickFS

open Gemini.Semantics Gemini.Locking

/-- The path of an account's directory. -/
abbrev Root := String

/-- The extensions of the host's files that hold records. -/
inductive Extension where
  | item
  | bas
  | proc
deriving DecidableEq

/-- The file of a record in the directory of its file. -/
abbrev RecordFile := String × Extension

/-- The host's files in the directory of a Pick file, with their texts. -/
abbrev Records := AList fun _ : RecordFile => String

/-- What a file name stands for under a root. -/
inductive Storage where
  | directory (records : Records)
  /-- Something that is not a directory. -/
  | other

/-- What is under a root, by file name. -/
abbrev Directory := AList fun _ : String => Storage

/-- The disks of all roots, the lock table, and which of the next calls to the host fail. -/
structure World where
  disk : Root → Directory := fun _ => ∅
  locks : LockTable := {}
  faults : List Bool := []

/-- A program that works on the disks and the locks, and may throw an error text. -/
abbrev FileM := Program World String

/-! ## System calls -/

namespace Directory

/-- The records of a file, none when the name is no directory. -/
def records (directory : Directory) (fileName : String) : Option Records :=
  match directory.lookup fileName with
  | some (.directory records) => some records
  | _ => none

/-- The text of one file of the host. -/
def content (directory : Directory) (fileName : String) (file : RecordFile) : Option String :=
  (directory.records fileName).bind fun records => records.lookup file

/-- A directory with the text of one of its files replaced or added. -/
def putContent (directory : Directory) (fileName : String) (file : RecordFile) (text : String) :
    Directory :=
  match directory.records fileName with
  | some records => directory.insert fileName (.directory (records.insert file text))
  | none => directory

/-- A directory without one of its files. -/
def eraseContent (directory : Directory) (fileName : String) (file : RecordFile) : Directory :=
  match directory.records fileName with
  | some records => directory.insert fileName (.directory (records.erase file))
  | none => directory

variable {directory : Directory} {fileName : String} {file : RecordFile}

/-- What a storage put under a name holds there. -/
theorem content_insert {storage : Storage} :
    Directory.content (directory.insert fileName storage) fileName file =
      match storage with
      | .directory records => records.lookup file
      | .other => none := by
  cases storage <;> simp [content, records]

/-- The other names hold what they held. -/
theorem content_insert_of_ne {storage : Storage} {other : String} (different : other ≠ fileName) :
    Directory.content (directory.insert fileName storage) other file =
      directory.content other file := by
  simp [content, records, different]

/-- The other names keep what they hold when one goes. -/
theorem content_erase_of_ne {other : String} (different : other ≠ fileName) :
    Directory.content (directory.erase fileName) other file = directory.content other file := by
  simp [content, records, AList.lookup_erase_ne different]

/-- A new file has no records, as it had none before. -/
theorem content_createFile (unused : directory.lookup fileName = none) (other : String) :
    Directory.content (directory.insert fileName (.directory ∅)) other file =
      directory.content other file := by
  by_cases same : other = fileName
  · subst same
    rw [content_insert]
    simp [content, records, unused]
  · exact content_insert_of_ne same

/-- Another record, or one of another file, is as before. -/
theorem content_putContent_of_ne {other : String} {otherFile : RecordFile} {text : String}
    (different : other = fileName → otherFile ≠ file) :
    (directory.putContent fileName file text).content other otherFile =
      directory.content other otherFile := by
  unfold putContent
  split
  · rename_i records known
    by_cases same : other = fileName
    · subst same
      rw [content_insert]
      simp [content, known, different rfl]
    · exact content_insert_of_ne same
  · rfl

/-- The other files keep their texts when one goes. -/
theorem content_eraseContent_of_ne {other : String} {otherFile : RecordFile}
    (different : other = fileName → otherFile ≠ file) :
    (directory.eraseContent fileName file).content other otherFile =
      directory.content other otherFile := by
  unfold eraseContent
  split
  · rename_i records known
    by_cases same : other = fileName
    · subst same
      rw [content_insert]
      simp [content, known, AList.lookup_erase_ne (different rfl)]
    · exact content_insert_of_ne same
  · rfl

end Directory

/-- A system call under a root; `none` when it fails. -/
def systemCall {Value : Type} (root : Root) (call : Directory → Value × Directory) :
    FileM (Option Value) :=
  modifyGet fun world =>
    let next := { world with faults := world.faults.tail }
    if world.faults.headD false then (none, next)
    else
      let result := call (world.disk root)
      (some result.1, { next with disk := Function.update world.disk root result.2 })

/-- A call that only looks. -/
def inspect {Value : Type} (root : Root) (look : Directory → Value) : FileM (Option Value) :=
  systemCall root fun directory => (look directory, directory)

/-- A call of the lock table. -/
def lockCall {Value : Type} (call : LockTable → Value × LockTable) : FileM Value :=
  modifyGet fun world =>
    let result := call world.locks
    (result.1, { world with locks := result.2 })

/-- `exists` of the path of a file. -/
def fileExists (root : Root) (fileName : String) : FileM (Option Bool) :=
  inspect root fun directory => (directory.lookup fileName).isSome

/-- `is_directory` of the path of a file. -/
def isDirectory (root : Root) (fileName : String) : FileM (Option Bool) :=
  inspect root fun directory => (directory.records fileName).isSome

/-- `exists` of the path of a record. -/
def recordExists (root : Root) (fileName : String) (file : RecordFile) : FileM (Option Bool) :=
  inspect root fun directory => (directory.content fileName file).isSome

/-- `create_directory`: false when there is something of that name already. -/
def createDirectory (root : Root) (fileName : String) : FileM (Option Bool) :=
  systemCall root fun directory =>
    if (directory.lookup fileName).isSome then (false, directory)
    else (true, directory.insert fileName (.directory ∅))

/-- `remove` of a record's file. Under something that is not a directory the call fails. -/
def removeRecordFile (root : Root) (fileName : String) (file : RecordFile) :
    FileM (Option (Option Bool)) :=
  systemCall root fun directory =>
    match directory.lookup fileName with
    | some .other => (none, directory)
    | _ =>
        (some (directory.content fileName file).isSome, directory.eraseContent fileName file)

/-- `remove_all` of a directory, entry by entry; it stops at the first failure. -/
def removeEntries (root : Root) (fileName : String) : List RecordFile → FileM (Option Unit)
  | [] => systemCall root fun directory => ((), directory.erase fileName)
  | file :: rest => do
      match ← systemCall root fun directory => ((), directory.eraseContent fileName file) with
      | none => return none
      | some () => removeEntries root fileName rest

/-- `remove_all`: the entries one by one and then the directory; none when the host fails. -/
def removeAll (root : Root) (fileName : String) : FileM (Option Unit) := do
  match ← inspect root fun directory => (directory.records fileName).map AList.keys with
  | some (some files) => removeEntries root fileName files
  | _ => return none

/-! ## Names -/

/-- `Catalog::isValidName`. -/
def isValidName (name : String) : Bool :=
  name ≠ "" && name.toList.all fun c =>
    ('a' ≤ c && c ≤ 'z') || ('A' ≤ c && c ≤ 'Z') || ('0' ≤ c && c ≤ '9') || c = '_' || c = '-'

/-- A record's name is checked as a file's is. -/
def isValidRecordName (name : String) : Bool := isValidName name

/-- `root / fileName`. -/
def filePath (root : Root) (fileName : String) : String :=
  if root = "" ∨ root.toList.getLast? = some '/' then root ++ fileName
  else root ++ "/" ++ fileName

/-- The extension that new records of a file get. -/
def preferredExtensionForFile (fileName : String) : Extension :=
  if fileName = "BP" then .bas
  else if fileName = "PROC" ∨ fileName = "PROCS" then .proc
  else .item

/-! ## The operations -/

/-- A session's view: its root, whether the shared lock table is bound, and the session id
its locks have. -/
structure FileSystem where
  root : Root
  lockTable : Bool := false
  lockSessionId : String := ""
deriving DecidableEq

/-- An open file. It stays what it was when the file was opened, but for the cursor of
`READNEXT`. -/
structure FileHandle where
  name : String
  root : Root
  recordIds : List String := []
  cursorIndex : Nat := 0
  cursorPrimed : Bool := false

namespace FileSystem

variable (fileSystem : FileSystem)

/-- A session locks when it has a lock table and an id in it. -/
def lockingEnabled : Bool := fileSystem.lockTable && fileSystem.lockSessionId ≠ ""

/-- `assertRecordAccessible`: a record that another session has locked may not be touched. -/
def assertRecordAccessible (fileName recordName : String) : FileM Unit := do
  if !fileSystem.lockingEnabled then return
  else
    match ← lockCall fun locks => (locks.lookup fileName recordName, locks) with
    | none => return
    | some entry =>
        if entry.ownerSessionId = fileSystem.lockSessionId then return
        else
          throw (describeLockConflict {
            fileName := fileName
            recordId := recordName
            ownerSessionId := entry.ownerSessionId
            lockType := entry.lockType })

/-- `acquireRecordLock`: another session's lock is refused with its holder. -/
def acquireRecordLock (fileName recordName : String) (lockType : LockType) : FileM Unit := do
  if !fileSystem.lockingEnabled then return
  else
    let conflict ← lockCall fun locks =>
      match locks.tryAcquire fileSystem.lockSessionId fileName recordName lockType with
      | .ok locks => (none, locks)
      | .error conflict => (some conflict, locks)
    match conflict with
    | none => return
    | some conflict => throw (describeLockConflict conflict)

/-- `createFile`: the root is made where it is missing. -/
def createFile (name : String) : FileM Unit := do
  if !isValidName name then throw "Invalid file name"
  else
    -- `ensureRootExists`; a root without files and one that is not there look the same.
    match ← inspect fileSystem.root fun _ => () with
    | none => throw ("Cannot create filesystem directory: " ++ fileSystem.root)
    | some () =>
        match ← fileExists fileSystem.root name with
        | none => throw ("Cannot inspect file: " ++ filePath fileSystem.root name)
        | some true => throw ("File already exists: " ++ name)
        | some false =>
            match ← createDirectory fileSystem.root name with
            | some true => return
            | _ => throw ("Cannot create file: " ++ name)

/-- The checks that a name stands for a directory, common to `openFile` and `deleteFile`. -/
def requireDirectory (name : String) : FileM Unit := do
  match ← fileExists fileSystem.root name with
  | none => throw ("Cannot inspect file: " ++ name)
  | some false => throw ("File not found: " ++ name)
  | some true =>
      match ← isDirectory fileSystem.root name with
      | none => throw ("Cannot inspect file: " ++ name)
      | some false => throw ("Invalid file storage for: " ++ name)
      | some true => return

/-- Release the locks of every session on a file. -/
def releaseFileLocks (name : String) : FileM Unit :=
  if fileSystem.lockTable then lockCall fun locks => ((), (locks.releaseAllForFile name).2)
  else return

/-- `deleteFile`. The locks on the file are released before the file is looked for. -/
def deleteFile (name : String) : FileM Unit := do
  if !isValidName name then throw "Invalid file name"
  else
    fileSystem.releaseFileLocks name
    fileSystem.requireDirectory name
    match ← removeAll fileSystem.root name with
    | none => throw ("Cannot delete file: " ++ name)
    | some () => return

/-- `openFile`: a name that is a directory under the root. -/
def openFile (name : String) : FileM FileHandle := do
  if !isValidName name then throw "Invalid file name"
  else
    fileSystem.requireDirectory name
    return { name := name, root := fileSystem.root }

end FileSystem

/-- The first of some extensions under which a record is found. An inspection that fails
counts as not found. -/
def firstExisting (handle : FileHandle) (recordName : String) :
    List Extension → FileM (Option Extension)
  | [] => return none
  | extension :: rest => do
      match ← recordExists handle.root handle.name (recordName, extension) with
      | some true => return some extension
      | _ => firstExisting handle recordName rest

/-- The extensions under which a record is looked for, in this order. -/
def candidateExtensions (fileName : String) : List Extension :=
  [preferredExtensionForFile fileName, .item, .bas, .proc]

/-- `resolveRecordPath`. -/
def resolveRecordPath (handle : FileHandle) (recordName : String) : FileM RecordFile := do
  let existing ← firstExisting handle recordName (candidateExtensions handle.name)
  return (recordName, existing.getD (preferredExtensionForFile handle.name))

namespace FileSystem

variable (fileSystem : FileSystem)

/-- `readRecord`: the first file that exists under the candidate extensions. -/
def readRecord (handle : FileHandle) (recordName : String) : FileM (Option Record) := do
  if !isValidRecordName recordName then throw "Invalid record name"
  else
    fileSystem.assertRecordAccessible handle.name recordName
    match ← firstExisting handle recordName (candidateExtensions handle.name) with
    | none => return none
    | some extension =>
        let read ← inspect handle.root fun directory =>
          directory.content handle.name (recordName, extension)
        match read.join with
        | none => throw ("Cannot open record: " ++ recordName)
        | some content => return some (.ofText recordName content)

/-- `writeRecord`: into the file the record has, or a new one with the preferred extension. -/
def writeRecord (handle : FileHandle) (record : Record) : FileM Unit := do
  if !isValidRecordName record.name then throw "Invalid record name"
  else
    fileSystem.assertRecordAccessible handle.name record.name
    let file ← resolveRecordPath handle record.name
    -- The temporary file is opened and written, then renamed.
    match ← isDirectory handle.root handle.name with
    | some true =>
        match ← inspect handle.root fun _ => () with
        | none => throw ("Cannot write record: " ++ record.name)
        | some () =>
            let text := (StructuredRecord.fromRaw record.value).toRaw
            let renamed ← systemCall handle.root fun directory =>
              ((), directory.putContent handle.name file text)
            match renamed with
            | none => throw ("Cannot finalize record: " ++ record.name)
            | some () => return
    | _ => throw ("Cannot write record: " ++ record.name)

/-- `std::sort` and `std::unique`. -/
def sortUnique (names : List String) : List String :=
  (names.mergeSort fun first second => first ≤ second).destutter (· ≠ ·)

/-- The names that the files of a directory stand for, in the order of the directory. -/
def recordNames (records : Records) : List String :=
  (records.keys.map Prod.fst).filter isValidRecordName

/-- `listRecords`. A directory that cannot be opened has no entries. -/
def listRecords (handle : FileHandle) : FileM (List String) := do
  let found ← inspect handle.root fun directory => directory.records handle.name
  return sortUnique ((found.join.map recordNames).getD [])

/-- `FileSystem::listRecordNames`. -/
def listRecordNames (fileName : String) : FileM (List String) := do
  let handle ← fileSystem.openFile fileName
  listRecords handle

/-- Fill the cursor of a handle that is not primed. -/
def primeCursor (handle : FileHandle) : FileM FileHandle := do
  if handle.cursorPrimed then return handle
  else
    let recordIds ← listRecords handle
    return { handle with recordIds := recordIds, cursorIndex := 0, cursorPrimed := true }

/-- `readNextRecord`, with the handle that it leaves; no record where the source throws
`cursor exhausted`. -/
def readNextRecord (handle : FileHandle) : FileM (Option String × FileHandle) := do
  let handle ← primeCursor handle
  match handle.recordIds[handle.cursorIndex]? with
  | none => return (none, handle)
  | some recordId => return (some recordId, { handle with cursorIndex := handle.cursorIndex + 1 })

/-- `resetReadNextCursor`. -/
def resetReadNextCursor (handle : FileHandle) : FileHandle :=
  { handle with recordIds := [], cursorIndex := 0, cursorPrimed := false }

/-- Give up the session's own lock on a record. -/
def releaseLock (fileName recordName : String) : FileM Bool := do
  if !fileSystem.lockingEnabled then return false
  else lockCall fun locks => locks.release fileSystem.lockSessionId fileName recordName

/-- `deleteRecord`: a record that is not there cannot be deleted. -/
def deleteRecord (handle : FileHandle) (recordName : String) : FileM Unit := do
  if !isValidRecordName recordName then throw "Invalid record name"
  else
    fileSystem.assertRecordAccessible handle.name recordName
    let file ← resolveRecordPath handle recordName
    let removed ← removeRecordFile handle.root handle.name file
    match removed.join with
    | none => throw ("Cannot delete record: " ++ recordName)
    | some false => throw ("Record not found: " ++ recordName)
    | some true =>
        let _ ← fileSystem.releaseLock handle.name recordName

/-- `read` by file name. -/
def read (fileName recordName : String) : FileM (Option Record) := do
  let handle ← fileSystem.openFile fileName
  fileSystem.readRecord handle recordName

/-- `write` by file name. -/
def write (fileName : String) (record : Record) : FileM Unit := do
  let handle ← fileSystem.openFile fileName
  fileSystem.writeRecord handle record

/-- `readU`: the lock is taken before the file is opened. -/
def readU (fileName recordName : String) : FileM (Option Record) := do
  fileSystem.acquireRecordLock fileName recordName .ReadU
  fileSystem.read fileName recordName

/-- `writeU`: the lock is taken before the file is opened. -/
def writeU (fileName : String) (record : Record) : FileM Unit := do
  fileSystem.acquireRecordLock fileName record.name .WriteU
  fileSystem.write fileName record

/-- `releaseRecord`: whether the session had the lock. -/
def releaseRecord (fileName recordName : String) : FileM Bool :=
  fileSystem.releaseLock fileName recordName

/-! ### Attributes and values -/

/-- `readAttributeValue`: the first value of an attribute. -/
def readAttributeValue (fileName recordName : String) (attributeNo : Int) :
    FileM (Option String) := do
  let record ← fileSystem.read fileName recordName
  return record.map fun record =>
    ((StructuredRecord.fromRaw record.value).attributeAt attributeNo).raw

/-- `readSubvalue`: one value of an attribute. -/
def readSubvalue (fileName recordName : String) (attributeNo valueIndex : Int) :
    FileM (Option String) := do
  let record ← fileSystem.read fileName recordName
  return record.map fun record =>
    ((StructuredRecord.fromRaw record.value).attributeAt attributeNo).valueAt valueIndex

/-- The attributes of a record, none when it is missing. -/
def structuredOf (record : Option Record) : StructuredRecord :=
  match record with
  | some record => .fromRaw record.value
  | none => {}

/-- `writeAttributeValue`: the record is read, changed and written back. -/
def writeAttributeValue (fileName recordName : String) (attributeNo : Int) (value : String) :
    FileM Unit := do
  let existing ← fileSystem.read fileName recordName
  let structured := (structuredOf existing).setAttribute attributeNo { raw := value }
  fileSystem.write fileName (.ofText recordName structured.toRaw)

/-- The values of an attribute with one of them replaced, padded when there are too few. -/
def replaceValue (values : List String) (valueIndex : Int) (value : String) : List String :=
  let values := if values.isEmpty then [""] else values
  let padded := values ++ List.replicate (valueIndex.toNat - values.length) ""
  padded.set (valueIndex - 1).toNat value

/-- `writeSubvalue`: one value is replaced in the record that was read. -/
def writeSubvalue (fileName recordName : String) (attributeNo valueIndex : Int) (value : String) :
    FileM Unit := do
  if valueIndex ≤ 0 then throw "Invalid subvalue index"
  else
    let existing ← fileSystem.read fileName recordName
    let structured := structuredOf existing
    let values := replaceValue (structured.attributeAt attributeNo).splitValues valueIndex value
    let structured := structured.setAttribute attributeNo { raw := joinValues values }
    fileSystem.write fileName (.ofText recordName structured.toRaw)

/-- `GeminiSession::releaseSessionLocks`. -/
def releaseSessionLocks : FileM Unit :=
  if fileSystem.lockingEnabled then
    lockCall fun locks => ((), (locks.releaseAllForSession fileSystem.lockSessionId).2)
  else return

end FileSystem

/-! ## Sessions and their operations -/

/-- The operations of a session. Those on an open file name the file it was opened as. -/
inductive FileOperation where
  | createFile (fileName : String)
  | deleteFile (fileName : String)
  | read (fileName recordName : String)
  | write (fileName : String) (record : Record)
  | readU (fileName recordName : String)
  | writeU (fileName : String) (record : Record)
  | releaseRecord (fileName recordName : String)
  | readRecord (fileName recordName : String)
  | writeRecord (fileName : String) (record : Record)
  | deleteRecord (fileName recordName : String)
  | readAttributeValue (fileName recordName : String) (attributeNo : Int)
  | readSubvalue (fileName recordName : String) (attributeNo valueIndex : Int)
  | writeAttributeValue (fileName recordName : String) (attributeNo : Int) (value : String)
  | writeSubvalue (fileName recordName : String) (attributeNo valueIndex : Int) (value : String)
  | releaseSessionLocks
deriving DecidableEq

/-- What an operation gives back. -/
inductive FileResult where
  | done
  | record (found : Option Record)
  | text (found : Option String)
  | released (wasHeld : Bool)
deriving DecidableEq

namespace FileSystem

/-- The handle of a file name under the session's root. -/
def handle (fileSystem : FileSystem) (fileName : String) : FileHandle :=
  { name := fileName, root := fileSystem.root }

/-- One operation of a session on its files. -/
def perform (fileSystem : FileSystem) : FileOperation → FileM FileResult
  | .createFile fileName => do
      fileSystem.createFile fileName
      return .done
  | .deleteFile fileName => do
      fileSystem.deleteFile fileName
      return .done
  | .read fileName recordName => return .record (← fileSystem.read fileName recordName)
  | .write fileName record => do
      fileSystem.write fileName record
      return .done
  | .readU fileName recordName => return .record (← fileSystem.readU fileName recordName)
  | .writeU fileName record => do
      fileSystem.writeU fileName record
      return .done
  | .releaseRecord fileName recordName =>
      return .released (← fileSystem.releaseRecord fileName recordName)
  | .readRecord fileName recordName =>
      return .record (← fileSystem.readRecord (fileSystem.handle fileName) recordName)
  | .writeRecord fileName record => do
      fileSystem.writeRecord (fileSystem.handle fileName) record
      return .done
  | .deleteRecord fileName recordName => do
      fileSystem.deleteRecord (fileSystem.handle fileName) recordName
      return .done
  | .readAttributeValue fileName recordName attributeNo =>
      return .text (← fileSystem.readAttributeValue fileName recordName attributeNo)
  | .readSubvalue fileName recordName attributeNo valueIndex =>
      return .text (← fileSystem.readSubvalue fileName recordName attributeNo valueIndex)
  | .writeAttributeValue fileName recordName attributeNo value => do
      fileSystem.writeAttributeValue fileName recordName attributeNo value
      return .done
  | .writeSubvalue fileName recordName attributeNo valueIndex value => do
      fileSystem.writeSubvalue fileName recordName attributeNo valueIndex value
      return .done
  | .releaseSessionLocks => do
      fileSystem.releaseSessionLocks
      return .done

end FileSystem

/-- The record that an operation reads. -/
def FileOperation.reads : FileOperation → Option (String × String)
  | .read fileName recordName => some (fileName, recordName)
  | .readU fileName recordName => some (fileName, recordName)
  | .readRecord fileName recordName => some (fileName, recordName)
  | .readAttributeValue fileName recordName _ => some (fileName, recordName)
  | .readSubvalue fileName recordName _ _ => some (fileName, recordName)
  | .writeAttributeValue fileName recordName _ _ => some (fileName, recordName)
  | .writeSubvalue fileName recordName _ _ _ => some (fileName, recordName)
  | _ => none

/-- The file that an operation deletes. -/
def FileOperation.deletes : FileOperation → Option String
  | .deleteFile fileName => if isValidName fileName then some fileName else none
  | _ => none

/-- An operation of a session, with the failures its system calls have. -/
structure FileAction where
  session : FileSystem
  operation : FileOperation
  faults : List Bool := []
deriving DecidableEq

/-- What an action of a session gives and leaves, with the host's failures that come with it. -/
def FileAction.outcome (action : FileAction) (world : World) : Except String FileResult × World :=
  (action.session.perform action.operation).exec { world with faults := action.faults }

/-- One action of any session as a step of the world. -/
def fileStep (world : World) (action : FileAction) : Option World :=
  some (action.outcome world).2

end Gemini.PickFS
