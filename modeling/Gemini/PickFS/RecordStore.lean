import Mathlib.Data.Finmap
import Mathlib.Data.Finset.Sort
import Mathlib.Data.List.Sort
import Gemini.PickFS.Changes

/-!
# The record store as a finite map

A session that works alone, on a host that keeps what it is given, sees a finite map from
file names to finite maps from record ids to texts. Under the map, a record is a file of
its id with one of three extensions, and every operation looks that file up for itself.

`Represents` ties the directory to the map: a record id has at most one file, and its
content is the text. `storeResults_eq` says that all the results of a session are those of
the map, and `represents_run` that the tie survives.
-/

namespace Gemini.PickFS

open Gemini.Semantics Gemini.Locking Program

/-! ## The abstract store -/

/-- The records of a file: their texts by record id. -/
abbrev Texts := Finmap fun _ : String => String

/-- What a name stands for: a file of records, or something that is not a file. -/
inductive StoredFile where
  | file (texts : Texts)
  | other

/-- The files of an account by name. -/
abbrev Store := Finmap fun _ : String => StoredFile

namespace Store

variable (store : Store)

/-- The records of a file; a name that is no file has none. -/
def texts (fileName : String) : Texts :=
  match store.lookup fileName with
  | some (.file texts) => texts
  | _ => ∅

/-- A file that can be opened. -/
def require (fileName : String) : Except String Unit :=
  if !isValidName fileName then .error "Invalid file name"
  else
    match store.lookup fileName with
    | none => .error ("File not found: " ++ fileName)
    | some .other => .error ("Invalid file storage for: " ++ fileName)
    | some (.file _) => .ok ()

/-- A new file is empty. -/
def createFile (fileName : String) : Except String Store :=
  if !isValidName fileName then .error "Invalid file name"
  else if (store.lookup fileName).isSome then .error ("File already exists: " ++ fileName)
  else .ok (store.insert fileName (.file ∅))

/-- A file goes with its records. -/
def deleteFile (fileName : String) : Except String Store := do
  store.require fileName
  return store.erase fileName

/-- A record of a file that is not there is missing. -/
def readRecord (fileName recordName : String) : Except String (Option String) :=
  if !isValidRecordName recordName then .error "Invalid record name"
  else .ok ((store.texts fileName).lookup recordName)

/-- A record is put into its file. -/
def writeRecord (fileName recordName text : String) : Except String Store :=
  if !isValidRecordName recordName then .error "Invalid record name"
  else
    match store.lookup fileName with
    | some (.file texts) => .ok (store.insert fileName (.file (texts.insert recordName text)))
    | _ => .error ("Cannot write record: " ++ recordName)

/-- A record is taken from its file, if it is there. -/
def deleteRecord (fileName recordName : String) : Except String Store :=
  if !isValidRecordName recordName then .error "Invalid record name"
  else
    match store.lookup fileName with
    | some .other => .error ("Cannot delete record: " ++ recordName)
    | some (.file texts) =>
        if (texts.lookup recordName).isSome then
          .ok (store.insert fileName (.file (texts.erase recordName)))
        else .error ("Record not found: " ++ recordName)
    | none => .error ("Record not found: " ++ recordName)

/-- The record ids of a file in order. -/
def listRecords (fileName : String) : List String :=
  (store.texts fileName).keys.sort

end Store

/-! ## The operations of a session -/

/-- What a session does with its files. Open files have numbers. -/
inductive StoreOperation where
  | createFile (fileName : String)
  | deleteFile (fileName : String)
  | read (fileName recordName : String)
  | write (fileName recordName text : String)
  | openFile (handle : Nat) (fileName : String)
  | readRecord (handle : Nat) (recordName : String)
  | writeRecord (handle : Nat) (recordName text : String)
  | deleteRecord (handle : Nat) (recordName : String)
  | listRecords (handle : Nat)
  | readNextRecord (handle : Nat)
  | resetReadNextCursor (handle : Nat)

/-- What an operation gives back. -/
inductive StoreResult where
  | done
  | text (found : Option String)
  | names (recordNames : List String)
  | next (recordId : Option String)
  | notOpen

/-- An open file of the abstract store: its name, and the ids that `READNEXT` has still to
give, once it has begun. -/
structure Reader where
  name : String
  remaining : Option (List String) := none

/-- A session over the map: the store, and its open files. -/
structure AbstractSession where
  store : Store
  readers : Nat → Option Reader := fun _ => none

/-- Keep what was there when an operation fails. -/
def settled {State : Type} (state : State) : Except String State → Except String StoreResult × State
  | .ok next => (.ok .done, next)
  | .error message => (.error message, state)

namespace AbstractSession

/-- An operation that changes the store, or fails and leaves it. -/
def onStore (session : AbstractSession) (outcome : Except String Store) :
    Except String StoreResult × AbstractSession :=
  settled session (outcome.map fun store => { session with store := store })

/-- One operation over the map. -/
def perform (session : AbstractSession) :
    StoreOperation → Except String StoreResult × AbstractSession
  | .createFile fileName => session.onStore (session.store.createFile fileName)
  | .deleteFile fileName => session.onStore (session.store.deleteFile fileName)
  | .read fileName recordName =>
      ((do
        session.store.require fileName
        return .text (← session.store.readRecord fileName recordName)), session)
  | .write fileName recordName text =>
      session.onStore (do
        session.store.require fileName
        session.store.writeRecord fileName recordName text)
  | .openFile handle fileName =>
      settled session (do
        session.store.require fileName
        return { session with
          readers := Function.update session.readers handle (some { name := fileName }) })
  | .readRecord handle recordName =>
      match session.readers handle with
      | none => (.ok .notOpen, session)
      | some reader => ((session.store.readRecord reader.name recordName).map .text, session)
  | .writeRecord handle recordName text =>
      match session.readers handle with
      | none => (.ok .notOpen, session)
      | some reader => session.onStore (session.store.writeRecord reader.name recordName text)
  | .deleteRecord handle recordName =>
      match session.readers handle with
      | none => (.ok .notOpen, session)
      | some reader => session.onStore (session.store.deleteRecord reader.name recordName)
  | .listRecords handle =>
      match session.readers handle with
      | none => (.ok .notOpen, session)
      | some reader => (.ok (.names (session.store.listRecords reader.name)), session)
  | .readNextRecord handle =>
      match session.readers handle with
      | none => (.ok .notOpen, session)
      | some reader =>
          let ids := reader.remaining.getD (session.store.listRecords reader.name)
          (.ok (.next ids.head?), { session with
            readers := Function.update session.readers handle
              (some { reader with remaining := some ids.tail }) })
  | .resetReadNextCursor handle =>
      match session.readers handle with
      | none => (.ok .notOpen, session)
      | some reader => (.ok .done, { session with
          readers := Function.update session.readers handle
            (some { reader with remaining := none }) })

end AbstractSession

/-- The session as the source has it: the world and the open files. -/
structure StoreSession where
  world : World
  handles : Nat → Option FileHandle := fun _ => none

namespace StoreSession

variable (fileSystem : FileSystem)

/-- What a program of the file system gives, and the session after it. -/
def execute {Value : Type} (session : StoreSession) (program : FileM Value)
    (result : Value → StoreResult) : Except String StoreResult × StoreSession :=
  let (outcome, world) := program.exec session.world
  (outcome.map result, { session with world := world })

/-- Run a program on an open file. -/
def withHandle (session : StoreSession) (handle : Nat)
    (use : FileHandle → Except String StoreResult × StoreSession) :
    Except String StoreResult × StoreSession :=
  match session.handles handle with
  | none => (.ok .notOpen, session)
  | some file => use file

/-- The session with a file opened, or moved on. -/
def setHandle (session : StoreSession) (handle : Nat) (file : FileHandle) : StoreSession :=
  { session with handles := Function.update session.handles handle (some file) }

/-- One operation of the file system. -/
def perform (session : StoreSession) : StoreOperation → Except String StoreResult × StoreSession
  | .createFile fileName => session.execute (fileSystem.createFile fileName) fun _ => .done
  | .deleteFile fileName => session.execute (fileSystem.deleteFile fileName) fun _ => .done
  | .read fileName recordName =>
      session.execute (fileSystem.read fileName recordName) fun found =>
        .text (found.map Record.value)
  | .write fileName recordName text =>
      session.execute (fileSystem.write fileName (.ofText recordName text)) fun _ => .done
  | .openFile handle fileName =>
      match (fileSystem.openFile fileName).exec session.world with
      | (.ok file, world) => (.ok .done, { session with world := world }.setHandle handle file)
      | (.error message, world) => (.error message, { session with world := world })
  | .readRecord handle recordName =>
      session.withHandle handle fun file =>
        session.execute (fileSystem.readRecord file recordName) fun found =>
          .text (found.map Record.value)
  | .writeRecord handle recordName text =>
      session.withHandle handle fun file =>
        session.execute (fileSystem.writeRecord file (.ofText recordName text)) fun _ => .done
  | .deleteRecord handle recordName =>
      session.withHandle handle fun file =>
        session.execute (fileSystem.deleteRecord file recordName) fun _ => .done
  | .listRecords handle =>
      session.withHandle handle fun file =>
        session.execute (FileSystem.listRecords file) .names
  | .readNextRecord handle =>
      session.withHandle handle fun file =>
        match (FileSystem.readNextRecord file).exec session.world with
        | (.ok (recordId, file), world) =>
            (.ok (.next recordId), { session with world := world }.setHandle handle file)
        | (.error message, world) => (.error message, { session with world := world })
  | .resetReadNextCursor handle =>
      session.withHandle handle fun file =>
        (.ok .done, session.setHandle handle (FileSystem.resetReadNextCursor file))

end StoreSession

/-! ## Programs on a host that does not fail -/

section Faithful

variable {fileSystem : FileSystem} {world : World} {Value : Type}

/-- A program that only returns. -/
@[simp] theorem exec_pure (value : Value) (world : World) :
    exec (pure value : FileM Value) world = (.ok value, world) := rfl

/-- On a host that does not fail, a system call answers and changes its root. -/
theorem exec_systemCall (faithful : world.faults = []) (root : Root)
    (call : Directory → Value × Directory) :
    exec (systemCall root call) world = (.ok (some (call (world.disk root)).1), { world with
      disk := Function.update world.disk root (call (world.disk root)).2 }) := by
  have same : exec (systemCall root call) world = (.ok
      (if world.faults.headD false then (none, { world with faults := world.faults.tail })
        else (some (call (world.disk root)).1, { world with
          faults := world.faults.tail
          disk := Function.update world.disk root (call (world.disk root)).2 })).1,
      (if world.faults.headD false then (none, { world with faults := world.faults.tail })
        else (some (call (world.disk root)).1, { world with
          faults := world.faults.tail
          disk := Function.update world.disk root (call (world.disk root)).2 })).2) := rfl
  rw [same]
  simp [faithful]

/-- Looking at a directory answers and changes nothing. -/
theorem exec_inspect (faithful : world.faults = []) (root : Root) (look : Directory → Value) :
    exec (inspect root look) world = (.ok (some (look (world.disk root))), world) := by
  rw [inspect, exec_systemCall faithful, Function.update_eq_self]

/-- A call to the lock table answers and changes the table. -/
theorem exec_lockCall (call : LockTable → Value × LockTable) (world : World) :
    exec (lockCall call) world =
      (.ok (call world.locks).1, { world with locks := (call world.locks).2 }) := rfl

/-- Whether a file is there. -/
theorem exec_requireDirectory (faithful : world.faults = []) (fileName : String) :
    exec (fileSystem.requireDirectory fileName) world =
      (match (world.disk fileSystem.root).lookup fileName with
        | none => .error ("File not found: " ++ fileName)
        | some .other => .error ("Invalid file storage for: " ++ fileName)
        | some (.directory _) => .ok (), world) := by
  rw [FileSystem.requireDirectory, exec_bind, fileExists, exec_inspect faithful]
  cases known : (world.disk fileSystem.root).lookup fileName with
  | none => rfl
  | some storage =>
      simp only [Option.isSome_some]
      rw [exec_bind, isDirectory, exec_inspect faithful]
      cases storage <;> simp [Directory.records, known]

/-- Which files open, and with which errors others do not. -/
theorem exec_openFile (faithful : world.faults = []) (fileName : String) :
    exec (fileSystem.openFile fileName) world =
      (if !isValidName fileName then .error "Invalid file name"
        else match (world.disk fileSystem.root).lookup fileName with
          | none => .error ("File not found: " ++ fileName)
          | some .other => .error ("Invalid file storage for: " ++ fileName)
          | some (.directory _) => .ok (fileSystem.handle fileName), world) := by
  unfold FileSystem.openFile
  split
  · rfl
  · rw [exec_bind, exec_requireDirectory faithful]
    cases (world.disk fileSystem.root).lookup fileName with
    | none => rfl
    | some storage => cases storage <;> rfl

/-- The first extension under which a record is there. -/
theorem exec_firstExisting (faithful : world.faults = []) (handle : FileHandle)
    (recordName : String) (extensions : List Extension) :
    exec (firstExisting handle recordName extensions) world =
      (.ok (extensions.find? fun extension =>
        ((world.disk handle.root).content handle.name (recordName, extension)).isSome), world) := by
  induction extensions with
  | nil => rfl
  | cons extension rest inductionHypothesis =>
      rw [firstExisting, exec_bind, recordExists, exec_inspect faithful, List.find?_cons]
      cases ((world.disk handle.root).content handle.name (recordName, extension)).isSome with
      | true => rfl
      | false => exact inductionHypothesis

/-- The file that a record has, or would get. -/
def recordFile (directory : Directory) (fileName recordName : String) : RecordFile :=
  (recordName, ((candidateExtensions fileName).find? fun extension =>
    (directory.content fileName (recordName, extension)).isSome).getD
      (preferredExtensionForFile fileName))

/-- The host's file of a record. -/
theorem exec_resolveRecordPath (faithful : world.faults = []) (handle : FileHandle)
    (recordName : String) :
    exec (resolveRecordPath handle recordName) world =
      (.ok (recordFile (world.disk handle.root) handle.name recordName), world) := by
  rw [resolveRecordPath, exec_bind, exec_firstExisting faithful]
  rfl

/-- The session is alone: no lock keeps it out. -/
def Alone (fileSystem : FileSystem) (world : World) : Prop :=
  ∀ fileName recordName, Accessible fileSystem world fileName recordName

/-- The check of a lock passes for a record that is accessible. -/
theorem exec_assertRecordAccessible {fileName recordName : String}
    (accessible : Accessible fileSystem world fileName recordName) :
    exec (fileSystem.assertRecordAccessible fileName recordName) world = (.ok (), world) := by
  unfold FileSystem.assertRecordAccessible
  by_cases enabled : fileSystem.lockingEnabled = true
  · have accessible := accessible enabled
    simp only [enabled, Bool.not_true, Bool.false_eq_true, if_false]
    rw [exec_bind, exec_lockCall]
    cases found : world.locks.lookup fileName recordName with
    | none => rfl
    | some entry =>
        simp only [accessible entry found, if_true]
        rfl
  · simp only [enabled]
    rfl

end Faithful

/-! ## The directory stands for the map -/

/-- Each record id has at most one file. -/
def AtMostOneExtension (directory : Directory) : Prop :=
  ∀ fileName recordName first second, isValidRecordName recordName = true →
    (directory.content fileName (recordName, first)).isSome = true →
    (directory.content fileName (recordName, second)).isSome = true → first = second

/-- The names that are taken, and what they are taken by. -/
inductive SameKind : Option Storage → Option StoredFile → Prop where
  | absent : SameKind none none
  | other : SameKind (some .other) (some .other)
  | file (records : Records) (texts : Texts) :
      SameKind (some (.directory records)) (some (.file texts))

/-- A directory stands for a store: the same names are files, no record is stored under two
extensions, and a record's text is the one of the map. -/
structure Represents (directory : Directory) (store : Store) : Prop where
  kind : ∀ fileName, SameKind (directory.lookup fileName) (store.lookup fileName)
  unique : AtMostOneExtension directory
  text : ∀ fileName recordName, isValidRecordName recordName = true → ∀ text,
    (store.texts fileName).lookup recordName = some text ↔
      ∃ extension, directory.content fileName (recordName, extension) = some text
  valid : ∀ fileName recordName, recordName ∈ store.texts fileName →
    isValidRecordName recordName = true

/-- Every extension is a candidate in every file. -/
theorem mem_candidateExtensions (fileName : String) (extension : Extension) :
    extension ∈ candidateExtensions fileName := by
  cases extension <;> simp [candidateExtensions]

namespace Represents

variable {directory : Directory} {store : Store} {fileName recordName : String}

/-- The extension that is found first is the one the record has. -/
theorem find_extension (represents : Represents directory store)
    (valid : isValidRecordName recordName = true) {extension : Extension}
    (present : (directory.content fileName (recordName, extension)).isSome = true) :
    (candidateExtensions fileName).find? (fun extension =>
      (directory.content fileName (recordName, extension)).isSome) = some extension := by
  cases found : (candidateExtensions fileName).find? fun extension =>
      (directory.content fileName (recordName, extension)).isSome with
  | none =>
      have missing := List.find?_eq_none.mp found extension (mem_candidateExtensions _ _)
      exact absurd present missing
  | some first =>
      have firstPresent := List.find?_some found
      rw [represents.unique fileName recordName first extension valid firstPresent present]

/-- A record that is stored is in the file that is looked up. -/
theorem recordFile_eq (represents : Represents directory store)
    (valid : isValidRecordName recordName = true) {extension : Extension}
    (present : (directory.content fileName (recordName, extension)).isSome = true) :
    recordFile directory fileName recordName = (recordName, extension) := by
  rw [recordFile, represents.find_extension valid present, Option.getD_some]

/-- Where the map has no text, there is no file under any extension. -/
theorem content_eq_none (represents : Represents directory store)
    (valid : isValidRecordName recordName = true)
    (missing : (store.texts fileName).lookup recordName = none) (extension : Extension) :
    directory.content fileName (recordName, extension) = none := by
  cases content : directory.content fileName (recordName, extension) with
  | none => rfl
  | some text =>
      have found := (represents.text fileName recordName valid text).mpr ⟨extension, content⟩
      rw [missing] at found
      cases found

end Represents

/-! ### Listing -/

/-- The names sorted and without repetition. -/
theorem sortUnique_eq (names : List String) : FileSystem.sortUnique names = names.toFinset.sort := by
  have sorted : (names.mergeSort fun first second => first ≤ second).Pairwise (· ≤ ·) :=
    List.pairwise_mergeSort' (· ≤ ·) names
  rw [FileSystem.sortUnique, sorted.destutter_eq_dedup]
  have dedupSorted := sorted.sublist (List.dedup_sublist _)
  have same : (names.mergeSort fun first second => first ≤ second).dedup.toFinset =
      names.toFinset := by
    ext name
    simp
  rw [← same]
  exact ((List.toFinset_sort (· ≤ ·) (List.nodup_dedup _)).mpr dedupSorted).symm

/-- The listing of a file is the one of the map. -/
theorem Represents.listRecords {directory : Directory} {store : Store}
    (represents : Represents directory store) (fileName : String) :
    FileSystem.sortUnique (((directory.records fileName).map FileSystem.recordNames).getD []) =
      store.listRecords fileName := by
  rw [sortUnique_eq, Store.listRecords]
  congr 1
  ext recordName
  rw [List.mem_toFinset, Finmap.mem_keys]
  have named : recordName ∈ ((directory.records fileName).map FileSystem.recordNames).getD [] ↔
      isValidRecordName recordName = true ∧
        ∃ extension, (directory.content fileName (recordName, extension)).isSome = true := by
    simp only [Directory.content]
    cases directory.records fileName with
    | none => simp
    | some records =>
        simp [FileSystem.recordNames, AList.lookup_isSome, AList.mem_keys, and_comm]
  rw [named]
  constructor
  · rintro ⟨valid, extension, present⟩
    obtain ⟨text, content⟩ := Option.isSome_iff_exists.mp present
    exact Finmap.mem_of_lookup_eq_some
      ((represents.text fileName recordName valid text).mpr ⟨extension, content⟩)
  · intro member
    have valid := represents.valid fileName recordName member
    obtain ⟨text, found⟩ := Finmap.mem_iff.mp member
    obtain ⟨extension, content⟩ := (represents.text fileName recordName valid text).mp found
    exact ⟨valid, extension, by rw [content]; rfl⟩

/-! ### Changing -/

/-- What the files hold after a write. -/
theorem content_putContent {directory : Directory} {fileName : String} {records : Records}
    (known : directory.records fileName = some records) (file : RecordFile) (text : String)
    (otherName : String) (other : RecordFile) :
    (directory.putContent fileName file text).content otherName other =
      if otherName = fileName ∧ other = file then some text
      else directory.content otherName other := by
  by_cases same : otherName = fileName ∧ other = file
  · obtain ⟨rfl, rfl⟩ := same
    rw [if_pos ⟨rfl, rfl⟩, Directory.putContent, known]
    simp [Directory.content_insert]
  · rw [if_neg same]
    apply Directory.content_putContent_of_ne
    intro sameName sameFile
    exact same ⟨sameName, sameFile⟩

/-- What the files hold after a deletion. -/
theorem content_eraseContent {directory : Directory} {fileName : String} {records : Records}
    (known : directory.records fileName = some records) (file : RecordFile)
    (otherName : String) (other : RecordFile) :
    (directory.eraseContent fileName file).content otherName other =
      if otherName = fileName ∧ other = file then none
      else directory.content otherName other := by
  by_cases same : otherName = fileName ∧ other = file
  · obtain ⟨rfl, rfl⟩ := same
    rw [if_pos ⟨rfl, rfl⟩, Directory.eraseContent, known]
    simp [Directory.content_insert]
  · rw [if_neg same]
    apply Directory.content_eraseContent_of_ne
    intro sameName sameFile
    exact same ⟨sameName, sameFile⟩

/-- The records of the files when one is put into the store. -/
theorem texts_insert (store : Store) (fileName otherName : String) (texts : Texts) :
    Store.texts (store.insert fileName (.file texts)) otherName =
      if otherName = fileName then texts else store.texts otherName := by
  by_cases same : otherName = fileName
  · subst same
    simp [Store.texts]
  · simp [Store.texts, same, Finmap.lookup_insert_of_ne _ same]

/-- The records of the files when one is taken from the store. -/
theorem texts_erase (store : Store) (fileName otherName : String) :
    Store.texts (store.erase fileName) otherName =
      if otherName = fileName then ∅ else store.texts otherName := by
  by_cases same : otherName = fileName
  · subst same
    simp [Store.texts]
  · simp [Store.texts, same, Finmap.lookup_erase_ne same]

/-- A directory put under a name and a file put into the store are of one kind. -/
theorem SameKind.insert {directory : Directory} {store : Store}
    (kind : ∀ fileName, SameKind (directory.lookup fileName) (store.lookup fileName))
    (fileName : String) (records : Records) (texts : Texts) (otherName : String) :
    SameKind ((directory.insert fileName (.directory records)).lookup otherName)
      ((store.insert fileName (.file texts)).lookup otherName) := by
  by_cases same : otherName = fileName
  · subst same
    rw [AList.lookup_insert, Finmap.lookup_insert]
    exact .file records texts
  · rw [AList.lookup_insert_ne same, Finmap.lookup_insert_of_ne _ same]
    exact kind otherName

namespace Represents

variable {directory : Directory} {store : Store} {fileName recordName : String}

/-- The records of a file of the store. -/
theorem texts_eq {texts : Texts} (known : store.lookup fileName = some (.file texts)) :
    store.texts fileName = texts := by
  rw [Store.texts, known]

/-- A new directory stands for a new file. -/
theorem createFile (represents : Represents directory store)
    (unused : directory.lookup fileName = none) :
    Represents (directory.insert fileName (.directory ∅)) (store.insert fileName (.file ∅)) := by
  have content := fun otherName file =>
    @Directory.content_createFile directory fileName file unused otherName
  have absent : store.lookup fileName = none := by
    have kind := represents.kind fileName
    rw [unused] at kind
    cases known : store.lookup fileName with
    | none => rfl
    | some file =>
        rw [known] at kind
        cases kind
  have texts : ∀ otherName, Store.texts (store.insert fileName (.file ∅)) otherName =
      store.texts otherName := by
    intro otherName
    rw [texts_insert]
    split
    · rename_i same
      rw [same, Store.texts, absent]
    · rfl
  exact {
    kind := SameKind.insert represents.kind fileName ∅ ∅
    unique := by
      intro otherName recordName first second
      rw [content, content]
      exact represents.unique otherName recordName first second
    text := by
      intro otherName recordName valid text
      rw [texts]
      simp only [content]
      exact represents.text otherName recordName valid text
    valid := by
      intro otherName recordName
      rw [texts]
      exact represents.valid otherName recordName }

/-- A file is gone when its name is, whatever happened to its records before. -/
theorem deleteFile (represents : Represents directory store) {after : Directory}
    (gone : after.lookup fileName = none)
    (kept : ∀ otherName, otherName ≠ fileName → after.lookup otherName = directory.lookup otherName) :
    Represents after (store.erase fileName) := by
  have noContent : ∀ file, after.content fileName file = none := by
    intro file
    simp [Directory.content, Directory.records, gone]
  have content : ∀ {otherName file}, otherName ≠ fileName →
      after.content otherName file = directory.content otherName file := by
    intro otherName file other
    simp only [Directory.content, Directory.records, kept otherName other]
  exact {
    kind := by
      intro otherName
      by_cases same : otherName = fileName
      · subst same
        rw [gone, Finmap.lookup_erase]
        exact .absent
      · rw [kept otherName same, Finmap.lookup_erase_ne same]
        exact represents.kind otherName
    unique := by
      intro otherName recordName first second
      by_cases same : otherName = fileName
      · subst same
        intro _ present
        rw [noContent] at present
        cases present
      · rw [content same, content same]
        exact represents.unique otherName recordName first second
    text := by
      intro otherName recordName valid text
      rw [texts_erase]
      by_cases same : otherName = fileName
      · subst same
        simp [noContent]
      · simp only [if_neg same, content same]
        exact represents.text otherName recordName valid text
    valid := by
      intro otherName recordName
      rw [texts_erase]
      split
      · intro member
        exact absurd member Finmap.notMem_empty
      · exact represents.valid otherName recordName }

/-- A record is written to the file that it has, or to a new one when it has none. -/
theorem putContent (represents : Represents directory store)
    (valid : isValidRecordName recordName = true) {records : Records} {texts : Texts}
    (known : directory.lookup fileName = some (.directory records))
    (knownTexts : store.lookup fileName = some (.file texts)) (text : String) :
    Represents (directory.putContent fileName (recordFile directory fileName recordName) text)
      (store.insert fileName (.file (texts.insert recordName text))) := by
  have inDirectory : directory.records fileName = some records := by
    rw [Directory.records, known]
  have content := content_putContent inDirectory (recordFile directory fileName recordName) text
  have elsewhere : ∀ {otherName otherRecord extension},
      ¬ (otherName = fileName ∧ otherRecord = recordName) →
      (directory.putContent fileName (recordFile directory fileName recordName) text).content
        otherName (otherRecord, extension) = directory.content otherName (otherRecord, extension) := by
    intro otherName otherRecord extension apart
    rw [content, if_neg]
    rintro ⟨sameName, sameFile⟩
    exact apart ⟨sameName, congrArg Prod.fst sameFile⟩
  -- Any file of the record afterwards is the one that was written.
  have written : ∀ extension, ((directory.putContent fileName
      (recordFile directory fileName recordName) text).content fileName
        (recordName, extension)).isSome = true →
      (recordName, extension) = recordFile directory fileName recordName := by
    intro extension present
    rw [content] at present
    split at present
    · rename_i same
      exact same.2
    · exact (represents.recordFile_eq valid present).symm
  exact {
    kind := by
      rw [Directory.putContent, inDirectory]
      exact SameKind.insert represents.kind fileName _ _
    unique := by
      intro otherName otherRecord first second otherValid firstPresent secondPresent
      by_cases same : otherName = fileName ∧ otherRecord = recordName
      · obtain ⟨rfl, rfl⟩ := same
        have firstIs := written first firstPresent
        rw [← written second secondPresent, Prod.mk.injEq] at firstIs
        exact firstIs.2
      · rw [elsewhere same] at firstPresent secondPresent
        exact represents.unique otherName otherRecord first second otherValid firstPresent
          secondPresent
    text := by
      intro otherName otherRecord otherValid otherText
      rw [texts_insert]
      by_cases sameName : otherName = fileName
      · subst sameName
        rw [if_pos rfl]
        by_cases sameRecord : otherRecord = recordName
        · subst sameRecord
          rw [Finmap.lookup_insert]
          constructor
          · rintro ⟨rfl⟩
            refine ⟨(recordFile directory otherName otherRecord).2, ?_⟩
            rw [content, if_pos ⟨rfl, rfl⟩]
          · rintro ⟨extension, found⟩
            have isFile := written extension (by rw [found]; rfl)
            rw [isFile, content, if_pos ⟨rfl, rfl⟩] at found
            exact found
        · simp only [Finmap.lookup_insert_of_ne _ sameRecord, ← texts_eq knownTexts,
            elsewhere (fun same => sameRecord same.2)]
          exact represents.text otherName otherRecord otherValid otherText
      · simp only [if_neg sameName, elsewhere (fun same => sameName same.1)]
        exact represents.text otherName otherRecord otherValid otherText
    valid := by
      intro otherName otherRecord
      rw [texts_insert]
      split
      · rename_i sameName
        rw [Finmap.mem_insert]
        rintro (rfl | member)
        · exact valid
        · rw [← texts_eq knownTexts] at member
          exact represents.valid fileName otherRecord member
      · exact represents.valid otherName otherRecord }

/-- A record that is there loses its only file. -/
theorem eraseContent (represents : Represents directory store)
    (valid : isValidRecordName recordName = true) {records : Records} {texts : Texts}
    (known : directory.lookup fileName = some (.directory records))
    (knownTexts : store.lookup fileName = some (.file texts)) :
    Represents (directory.eraseContent fileName (recordFile directory fileName recordName))
      (store.insert fileName (.file (texts.erase recordName))) := by
  have inDirectory : directory.records fileName = some records := by
    rw [Directory.records, known]
  have content := content_eraseContent inDirectory (recordFile directory fileName recordName)
  have elsewhere : ∀ {otherName otherRecord extension},
      ¬ (otherName = fileName ∧ otherRecord = recordName) →
      (directory.eraseContent fileName (recordFile directory fileName recordName)).content
        otherName (otherRecord, extension) = directory.content otherName (otherRecord, extension) := by
    intro otherName otherRecord extension apart
    rw [content, if_neg]
    rintro ⟨sameName, sameFile⟩
    exact apart ⟨sameName, congrArg Prod.fst sameFile⟩
  have gone : ∀ extension, (directory.eraseContent fileName
      (recordFile directory fileName recordName)).content fileName (recordName, extension) =
        none := by
    intro extension
    rw [content]
    split
    · rfl
    · rename_i other
      cases found : directory.content fileName (recordName, extension) with
      | none => rfl
      | some text =>
          have isFile := represents.recordFile_eq valid
            (show (directory.content fileName (recordName, extension)).isSome = true by
              rw [found]; rfl)
          exact absurd ⟨rfl, isFile.symm⟩ other
  exact {
    kind := by
      rw [Directory.eraseContent, inDirectory]
      exact SameKind.insert represents.kind fileName _ _
    unique := by
      intro otherName otherRecord first second otherValid firstPresent secondPresent
      rw [content] at firstPresent secondPresent
      split at firstPresent
      · cases firstPresent
      split at secondPresent
      · cases secondPresent
      exact represents.unique otherName otherRecord first second otherValid firstPresent
        secondPresent
    text := by
      intro otherName otherRecord otherValid otherText
      rw [texts_insert]
      by_cases sameName : otherName = fileName
      · subst sameName
        rw [if_pos rfl]
        by_cases sameRecord : otherRecord = recordName
        · subst sameRecord
          rw [Finmap.lookup_erase]
          simp [gone]
        · simp only [Finmap.lookup_erase_ne sameRecord, ← texts_eq knownTexts,
            elsewhere (fun same => sameRecord same.2)]
          exact represents.text otherName otherRecord otherValid otherText
      · simp only [if_neg sameName, elsewhere (fun same => sameName same.1)]
        exact represents.text otherName otherRecord otherValid otherText
    valid := by
      intro otherName otherRecord
      rw [texts_insert]
      split
      · rename_i sameName
        rw [Finmap.mem_erase]
        rintro ⟨-, member⟩
        rw [← texts_eq knownTexts] at member
        exact represents.valid fileName otherRecord member
      · exact represents.valid otherName otherRecord }

end Represents

/-! ## Each operation is that of the map -/

/-- A world in which the session is alone, on a host that does not fail, and whose
directory stands for `store`. -/
structure Serves (fileSystem : FileSystem) (world : World) (store : Store) : Prop where
  faithful : world.faults = []
  alone : Alone fileSystem world
  represents : Represents (world.disk fileSystem.root) store

/-- A program does what the map does: the same error, or the same change. -/
def Follows (fileSystem : FileSystem) (store : Store) (world : World) (program : FileM Unit)
    (outcome : Except String Store) : Prop :=
  ∃ after, Serves fileSystem after (match outcome with | .ok next => next | .error _ => store) ∧
    exec program world = (outcome.map fun _ => (), after)

section Operations

variable {fileSystem : FileSystem} {world : World} {store : Store}

/-- A session serves another store when its directory has come to stand for it. -/
theorem Serves.disk (serves : Serves fileSystem world store) {directory : Directory} {next : Store}
    (represents : Represents directory next) :
    Serves fileSystem { world with disk := Function.update world.disk fileSystem.root directory }
      next where
  faithful := serves.faithful
  alone := serves.alone
  represents := by
    simp only [Function.update_self]
    exact represents

/-- Locks that are given up keep nobody out. -/
theorem Serves.locks (serves : Serves fileSystem world store) {locks : LockTable}
    (fewer : ∀ fileName recordName entry, locks.lookup fileName recordName = some entry →
      world.locks.lookup fileName recordName = some entry) :
    Serves fileSystem { world with locks := locks } store where
  faithful := serves.faithful
  alone := by
    intro fileName recordName enabled entry found
    exact serves.alone fileName recordName enabled entry (fewer fileName recordName entry found)
  represents := serves.represents

/-- A file is made as the map makes it. -/
theorem createFile_follows (serves : Serves fileSystem world store) (fileName : String) :
    Follows fileSystem store world (fileSystem.createFile fileName) (store.createFile fileName) := by
  unfold FileSystem.createFile Store.createFile
  by_cases invalid : (!isValidName fileName) = true
  · simp only [if_pos invalid]
    exact ⟨world, serves, rfl⟩
  · simp only [if_neg invalid]
    have kind := serves.represents.kind fileName
    cases known : (world.disk fileSystem.root).lookup fileName with
    | none =>
        rw [known] at kind
        cases knownStore : store.lookup fileName with
        | some file =>
            rw [knownStore] at kind
            cases kind
        | none =>
            refine ⟨_, serves.disk (serves.represents.createFile known), ?_⟩
            simp only [exec_bind, exec_inspect serves.faithful, fileExists, createDirectory,
              exec_systemCall serves.faithful, known, Option.isSome_none, Bool.false_eq_true,
              if_false]
            rfl
    | some storage =>
        rw [known] at kind
        cases knownStore : store.lookup fileName with
        | none =>
            rw [knownStore] at kind
            cases kind
        | some file =>
            refine ⟨world, serves, ?_⟩
            simp only [exec_bind, exec_inspect serves.faithful, fileExists, known,
              Option.isSome_some, if_true]
            rfl

/-- The map refuses a name exactly as `openFile` does. -/
theorem openFile_require (serves : Serves fileSystem world store) (fileName : String) :
    exec (fileSystem.openFile fileName) world =
      ((store.require fileName).map fun _ => fileSystem.handle fileName, world) := by
  rw [exec_openFile serves.faithful, Store.require]
  split
  · rfl
  · have kind := serves.represents.kind fileName
    cases known : (world.disk fileSystem.root).lookup fileName <;>
      cases knownStore : store.lookup fileName <;>
      rw [known, knownStore] at kind <;> cases kind <;> rfl

/-- Emptying a file and removing it leaves the other names alone. -/
theorem exec_removeEntries (faithful : world.faults = []) (root : Root) (fileName : String)
    (files : List RecordFile) :
    ∃ after : Directory, after.lookup fileName = none ∧
      (∀ otherName, otherName ≠ fileName →
        after.lookup otherName = (world.disk root).lookup otherName) ∧
      exec (removeEntries root fileName files) world = (.ok (some ()), { world with
        disk := Function.update world.disk root after }) := by
  induction files generalizing world with
  | nil =>
      refine ⟨(world.disk root).erase fileName, AList.lookup_erase _ _, ?_, ?_⟩
      · intro otherName other
        exact AList.lookup_erase_ne other
      · rw [removeEntries, exec_systemCall faithful]
  | cons file rest inductionHypothesis =>
      let emptied := (world.disk root).eraseContent fileName file
      obtain ⟨after, gone, kept, removed⟩ := @inductionHypothesis
        { world with disk := Function.update world.disk root emptied } faithful
      refine ⟨after, gone, ?_, ?_⟩
      · intro otherName other
        rw [kept otherName other]
        simp only [emptied, Function.update_self, Directory.eraseContent]
        split
        · exact AList.lookup_insert_ne other
        · rfl
      · rw [removeEntries, exec_bind, exec_systemCall faithful]
        simp only [Function.update_idem] at removed
        exact removed

/-- A file is deleted as the map deletes it. -/
theorem deleteFile_follows (serves : Serves fileSystem world store) (fileName : String) :
    Follows fileSystem store world (fileSystem.deleteFile fileName) (store.deleteFile fileName) := by
  by_cases invalid : (!isValidName fileName) = true
  · refine ⟨world, ?_, ?_⟩
    · simp only [Store.deleteFile, Store.require, if_pos invalid]
      exact serves
    · simp only [FileSystem.deleteFile, Store.deleteFile, Store.require, if_pos invalid]
      rfl
  -- The locks on the file are given up whether or not it is there.
  obtain ⟨unlocked, servesUnlocked, sameDisk, released⟩ : ∃ unlocked,
      Serves fileSystem unlocked store ∧ unlocked.disk = world.disk ∧
        exec (fileSystem.releaseFileLocks fileName) world = (.ok (), unlocked) := by
    unfold FileSystem.releaseFileLocks
    split
    · refine ⟨{ world with locks := (world.locks.releaseAllForFile fileName).2 },
        serves.locks ?_, rfl, rfl⟩
      intro otherName recordName entry found
      rw [LockTable.lookup_releaseAllForFile] at found
      split at found
      · cases found
      · exact found
    · exact ⟨world, serves, rfl, rfl⟩
  have kind := servesUnlocked.represents.kind fileName
  simp only [Follows, FileSystem.deleteFile, Store.deleteFile, Store.require, if_neg invalid,
    exec_bind, released, exec_requireDirectory servesUnlocked.faithful]
  cases known : (unlocked.disk fileSystem.root).lookup fileName with
  | none =>
      cases knownStore : store.lookup fileName <;> rw [known, knownStore] at kind <;> cases kind
      exact ⟨unlocked, servesUnlocked, rfl⟩
  | some storage =>
      cases knownStore : store.lookup fileName <;> rw [known, knownStore] at kind <;> cases kind
      · exact ⟨unlocked, servesUnlocked, rfl⟩
      · rename_i records texts
        obtain ⟨after, gone, kept, removed⟩ := exec_removeEntries servesUnlocked.faithful
          fileSystem.root fileName records.keys
        refine ⟨_, servesUnlocked.disk (servesUnlocked.represents.deleteFile gone kept), ?_⟩
        simp only [removeAll, exec_bind, exec_inspect servesUnlocked.faithful, Directory.records,
          known, Option.map_some, removed]
        rfl

/-- The stored record of the map. -/
theorem readRecord_eq (serves : Serves fileSystem world store) {handle : FileHandle}
    (rooted : handle.root = fileSystem.root) (recordName : String) :
    exec (fileSystem.readRecord handle recordName) world =
      ((store.readRecord handle.name recordName).map fun found =>
        found.map (.ofText recordName), world) := by
  unfold FileSystem.readRecord Store.readRecord
  by_cases invalid : (!isValidRecordName recordName) = true
  · simp only [if_pos invalid]
    rfl
  · have valid : isValidRecordName recordName = true := by simpa using invalid
    simp only [if_neg invalid, exec_bind, exec_assertRecordAccessible (serves.alone _ _),
      exec_firstExisting serves.faithful, rooted]
    cases found : (store.texts handle.name).lookup recordName with
    | none =>
        have nowhere := serves.represents.content_eq_none valid found
        have missing : (candidateExtensions handle.name).find? (fun extension =>
            ((world.disk fileSystem.root).content handle.name (recordName, extension)).isSome) =
              none := by
          rw [List.find?_eq_none]
          intro extension _
          rw [nowhere extension]
          exact Bool.false_ne_true
        rw [missing]
        rfl
    | some text =>
        obtain ⟨extension, content⟩ :=
          (serves.represents.text handle.name recordName valid text).mp found
        rw [serves.represents.find_extension valid (by rw [content]; rfl)]
        simp only [exec_bind, exec_inspect serves.faithful, content]
        rfl

/-- A record is written as the map writes it. -/
theorem writeRecord_follows (serves : Serves fileSystem world store) {handle : FileHandle}
    (rooted : handle.root = fileSystem.root) (recordName text : String) :
    Follows fileSystem store world (fileSystem.writeRecord handle (.ofText recordName text))
      (store.writeRecord handle.name recordName text) := by
  unfold FileSystem.writeRecord Store.writeRecord
  have name : (Record.ofText recordName text).name = recordName := rfl
  by_cases invalid : (!isValidRecordName recordName) = true
  · simp only [name, if_pos invalid]
    exact ⟨world, serves, rfl⟩
  · have valid : isValidRecordName recordName = true := by simpa using invalid
    have kind := serves.represents.kind handle.name
    simp only [Follows, name, if_neg invalid, exec_bind, exec_assertRecordAccessible (serves.alone _ _),
      exec_resolveRecordPath serves.faithful, isDirectory, exec_inspect serves.faithful, rooted,
      Record.value_ofText, StructuredRecord.toRaw_fromRaw]
    cases known : (world.disk fileSystem.root).lookup handle.name with
    | none =>
        cases knownStore : store.lookup handle.name <;> rw [known, knownStore] at kind <;>
          cases kind
        refine ⟨world, serves, ?_⟩
        simp only [Directory.records, known]
        rfl
    | some storage =>
        cases knownStore : store.lookup handle.name <;> rw [known, knownStore] at kind <;>
          cases kind
        · refine ⟨world, serves, ?_⟩
          simp only [Directory.records, known]
          rfl
        · refine ⟨_, serves.disk (serves.represents.putContent valid known knownStore text), ?_⟩
          simp only [Directory.records, known, Option.isSome_some, exec_bind,
            exec_inspect serves.faithful, exec_systemCall serves.faithful]
          rfl

/-- Taking a record out that is not there changes nothing. -/
theorem insert_erase_of_missing {fileName recordName : String} {texts : Texts}
    (known : store.lookup fileName = some (.file texts))
    (missing : texts.lookup recordName = none) :
    store.insert fileName (.file (texts.erase recordName)) = store := by
  have same : texts.erase recordName = texts := by
    apply Finmap.ext_lookup
    intro other
    by_cases equal : other = recordName
    · rw [equal, Finmap.lookup_erase, missing]
    · rw [Finmap.lookup_erase_ne equal]
  apply Finmap.ext_lookup
  intro otherName
  rw [same]
  by_cases equal : otherName = fileName
  · rw [equal, Finmap.lookup_insert, known]
  · rw [Finmap.lookup_insert_of_ne _ equal]

/-- Giving up a lock returns. -/
theorem releaseLock_serves (serves : Serves fileSystem world store)
    (fileName recordName : String) :
    ∃ held after, Serves fileSystem after store ∧
      exec (fileSystem.releaseLock fileName recordName) world = (.ok held, after) := by
  unfold FileSystem.releaseLock
  by_cases enabled : fileSystem.lockingEnabled = true
  · simp only [enabled, Bool.not_true, Bool.false_eq_true, if_false, exec_lockCall]
    refine ⟨_, _, serves.locks ?_, rfl⟩
    intro otherName otherRecord entry found
    rw [LockTable.lookup_release (lockSessionId_ne enabled)] at found
    split at found
    · obtain ⟨earlier, present, foreign⟩ := Option.bind_eq_some_iff.mp found
      simp only [LockTable.foreign, Option.ite_none_left_eq_some, Option.some.injEq] at foreign
      rw [present, foreign.2]
    · exact found
  · simp only [enabled]
    exact ⟨false, world, serves, rfl⟩

/-- A record is deleted as the map deletes it. -/
theorem deleteRecord_follows (serves : Serves fileSystem world store) {handle : FileHandle}
    (rooted : handle.root = fileSystem.root) (recordName : String) :
    Follows fileSystem store world (fileSystem.deleteRecord handle recordName)
      (store.deleteRecord handle.name recordName) := by
  unfold FileSystem.deleteRecord Store.deleteRecord
  by_cases invalid : (!isValidRecordName recordName) = true
  · simp only [if_pos invalid]
    exact ⟨world, serves, rfl⟩
  · have valid : isValidRecordName recordName = true := by simpa using invalid
    have kind := serves.represents.kind handle.name
    simp only [Follows, if_neg invalid, exec_bind, exec_assertRecordAccessible (serves.alone _ _),
      exec_resolveRecordPath serves.faithful, removeRecordFile, exec_systemCall serves.faithful,
      rooted]
    cases known : (world.disk fileSystem.root).lookup handle.name with
    | none =>
        cases knownStore : store.lookup handle.name <;> rw [known, knownStore] at kind <;>
          cases kind
        refine ⟨world, serves, ?_⟩
        have absent : (world.disk fileSystem.root).records handle.name = none := by
          rw [Directory.records, known]
        simp only [Directory.content, Directory.eraseContent, absent, Option.bind_none,
          Option.isSome_none, Function.update_eq_self, Option.join_some]
        rfl
    | some storage =>
        cases knownStore : store.lookup handle.name <;> rw [known, knownStore] at kind <;>
          cases kind
        · refine ⟨world, serves, ?_⟩
          simp only [Function.update_eq_self, Option.join_some]
          rfl
        · rename_i records texts
          have erased := serves.disk (serves.represents.eraseContent valid known knownStore)
          have texts_eq := Represents.texts_eq knownStore
          cases found : texts.lookup recordName with
          | none =>
              have missing : (store.texts handle.name).lookup recordName = none := by
                rw [texts_eq, found]
              rw [insert_erase_of_missing knownStore found] at erased
              have nowhere : (world.disk fileSystem.root).content handle.name
                  (recordFile (world.disk fileSystem.root) handle.name recordName) = none :=
                serves.represents.content_eq_none valid missing _
              simp only [found, Option.isSome_none, Bool.false_eq_true, if_false]
              refine ⟨_, erased, ?_⟩
              simp only [nowhere, Option.isSome_none, Option.join_some]
              rfl
          | some text =>
              have inTexts : (store.texts handle.name).lookup recordName = some text := by
                rw [texts_eq, found]
              obtain ⟨extension, content⟩ :=
                (serves.represents.text handle.name recordName valid text).mp inTexts
              have file := serves.represents.recordFile_eq valid
                (show ((world.disk fileSystem.root).content handle.name
                  (recordName, extension)).isSome = true by rw [content]; rfl)
              obtain ⟨held, after, servesAfter, released⟩ :=
                releaseLock_serves erased handle.name recordName
              simp only [found, Option.isSome_some, if_true]
              refine ⟨after, servesAfter, ?_⟩
              rw [file] at released ⊢
              simp only [content, Option.isSome_some, Option.join_some, exec_bind, released]
              rfl

/-! ## Open files -/

/-- An open file and what the map keeps of it: the ids still to be given. -/
inductive SameReader (fileSystem : FileSystem) : Option FileHandle → Option Reader → Prop where
  | closed : SameReader fileSystem none none
  | opened {handle : FileHandle} {reader : Reader} (rooted : handle.root = fileSystem.root)
      (name : reader.name = handle.name)
      (remaining : reader.remaining =
        if handle.cursorPrimed then some (handle.recordIds.drop handle.cursorIndex) else none) :
      SameReader fileSystem (some handle) (some reader)

/-- The file of an abstract reader is under the session's root and has its name. -/
theorem SameReader.rooted {handle : FileHandle} {reader : Reader}
    (same : SameReader fileSystem (some handle) (some reader)) :
    handle.root = fileSystem.root ∧ reader.name = handle.name := by
  cases same with
  | opened rooted name _ => exact ⟨rooted, name⟩

/-- A session and an abstract one agree: on the store, and on what every open file has still to
read. -/
structure Tied (fileSystem : FileSystem) (session : StoreSession) (abstract : AbstractSession) :
    Prop where
  serves : Serves fileSystem session.world abstract.store
  readers : ∀ handle, SameReader fileSystem (session.handles handle) (abstract.readers handle)

/-- One open file moved on alike leaves all of them alike. -/
theorem SameReader.update {handles : Nat → Option FileHandle} {readers : Nat → Option Reader}
    (same : ∀ handle, SameReader fileSystem (handles handle) (readers handle)) (handle : Nat)
    {file : FileHandle} {reader : Reader} (tied : SameReader fileSystem (some file) (some reader))
    (other : Nat) :
    SameReader fileSystem (Function.update handles handle (some file) other)
      (Function.update readers handle (some reader) other) := by
  by_cases equal : other = handle
  · subst equal
    rw [Function.update_self, Function.update_self]
    exact tied
  · rw [Function.update_of_ne equal, Function.update_of_ne equal]
    exact same other

/-- A listing gives the record ids of the map. -/
theorem exec_listRecords (serves : Serves fileSystem world store) {handle : FileHandle}
    (rooted : handle.root = fileSystem.root) :
    exec (FileSystem.listRecords handle) world = (.ok (store.listRecords handle.name), world) := by
  rw [← serves.represents.listRecords handle.name, FileSystem.listRecords, exec_bind,
    exec_inspect serves.faithful, rooted]
  rfl

/-- The next id is the first of those that the map has still to give. -/
theorem readNextRecord_eq (serves : Serves fileSystem world store) {handle : FileHandle}
    {reader : Reader} (tied : SameReader fileSystem (some handle) (some reader)) :
    ∃ after, exec (FileSystem.readNextRecord handle) world =
        (.ok ((reader.remaining.getD (store.listRecords reader.name)).head?, after), world) ∧
      SameReader fileSystem (some after) (some { reader with
        remaining := some (reader.remaining.getD (store.listRecords reader.name)).tail }) := by
  cases tied with
  | opened rooted name remaining =>
      -- Priming the cursor fixes the ids that are left.
      obtain ⟨primed, isPrimed, sameRoot, sameName, ids, primes⟩ : ∃ primed : FileHandle,
          primed.cursorPrimed = true ∧ primed.root = handle.root ∧ primed.name = handle.name ∧
          primed.recordIds.drop primed.cursorIndex =
            reader.remaining.getD (store.listRecords reader.name) ∧
          exec (FileSystem.primeCursor handle) world = (.ok primed, world) := by
        unfold FileSystem.primeCursor
        by_cases already : handle.cursorPrimed = true
        · refine ⟨handle, already, rfl, rfl, ?_, ?_⟩
          · rw [remaining, if_pos already, Option.getD_some]
          · rw [if_pos already]
            rfl
        · refine ⟨{ handle with
            recordIds := store.listRecords handle.name
            cursorIndex := 0
            cursorPrimed := true }, rfl, rfl, rfl, ?_, ?_⟩
          · rw [remaining, if_neg already, Option.getD_none, name]
            rfl
          · rw [if_neg already, exec_bind, exec_listRecords serves rooted]
            rfl
      rw [FileSystem.readNextRecord, exec_bind, primes, ← ids]
      simp only [← List.head?_drop]
      cases next : (primed.recordIds.drop primed.cursorIndex) with
      | nil =>
          refine ⟨primed, rfl, .opened (sameRoot.trans rooted) (name.trans sameName.symm) ?_⟩
          rw [if_pos isPrimed, next]
          rfl
      | cons recordId rest =>
          refine ⟨{ primed with cursorIndex := primed.cursorIndex + 1 }, rfl,
            .opened (sameRoot.trans rooted) (name.trans sameName.symm) ?_⟩
          rw [if_pos isPrimed, ← List.drop_drop, next]
          rfl

/-! ## Sessions -/

/-- A step of the session and one of the map: the same result, and still tied. -/
def StepsAlike (fileSystem : FileSystem) (step : Except String StoreResult × StoreSession)
    (abstractStep : Except String StoreResult × AbstractSession) : Prop :=
  step.1 = abstractStep.1 ∧ Tied fileSystem step.2 abstractStep.2

variable {session : StoreSession} {abstract : AbstractSession}

/-- A program that changes the store. -/
theorem Tied.onStore (tied : Tied fileSystem session abstract) {program : FileM Unit}
    {outcome : Except String Store}
    (follows : Follows fileSystem abstract.store session.world program outcome) :
    StepsAlike fileSystem (session.execute program fun _ => .done) (abstract.onStore outcome) := by
  obtain ⟨after, serves, ended⟩ := follows
  rw [StoreSession.execute, ended]
  cases outcome with
  | ok next => exact ⟨rfl, serves, tied.readers⟩
  | error message => exact ⟨rfl, serves, tied.readers⟩

/-- A program that only looks. -/
theorem Tied.onResult (tied : Tied fileSystem session abstract) {Value : Type}
    {program : FileM Value} {result : Value → StoreResult} {outcome : Except String Value}
    {expected : Except String StoreResult}
    (looks : exec program session.world = (outcome, session.world))
    (same : outcome.map result = expected) :
    StepsAlike fileSystem (session.execute program result) (expected, abstract) := by
  rw [StoreSession.execute, looks]
  exact ⟨same, tied.serves, tied.readers⟩

/-- The text of a record that was read is the text of the map. -/
theorem map_text (outcome : Except String (Option String)) (recordName : String) :
    (outcome.map fun found => found.map (Record.ofText recordName)).map
        (fun found => StoreResult.text (found.map Record.value)) = outcome.map .text := by
  cases outcome with
  | error message => rfl
  | ok found =>
      cases found with
      | none => rfl
      | some text => simp [Except.map]

/-- An operation on an open file. -/
theorem Tied.onHandle (tied : Tied fileSystem session abstract) (handle : Nat)
    {use : FileHandle → Except String StoreResult × StoreSession}
    {abstractUse : Reader → Except String StoreResult × AbstractSession}
    (alike : ∀ file reader, SameReader fileSystem (some file) (some reader) →
      StepsAlike fileSystem (use file) (abstractUse reader)) :
    StepsAlike fileSystem (session.withHandle handle use)
      (match abstract.readers handle with
        | none => (.ok .notOpen, abstract)
        | some reader => abstractUse reader) := by
  have same := tied.readers handle
  unfold StoreSession.withHandle
  cases opened : session.handles handle with
  | none =>
      rw [opened] at same
      cases reading : abstract.readers handle with
      | none => exact ⟨rfl, tied⟩
      | some reader =>
          rw [reading] at same
          cases same
  | some file =>
      rw [opened] at same
      cases reading : abstract.readers handle with
      | none =>
          rw [reading] at same
          cases same
      | some reader =>
          rw [reading] at same
          exact alike file reader same

/-- Give an open file and its reader their next state. -/
theorem Tied.setHandle (tied : Tied fileSystem session abstract) (handle : Nat) {file : FileHandle}
    {reader : Reader} (same : SameReader fileSystem (some file) (some reader)) :
    Tied fileSystem (session.setHandle handle file)
      { abstract with readers := Function.update abstract.readers handle (some reader) } where
  serves := tied.serves
  readers := SameReader.update tied.readers handle same

/-- One operation gives the same on both sides and keeps them tied. -/
theorem Tied.perform (tied : Tied fileSystem session abstract) (operation : StoreOperation) :
    StepsAlike fileSystem (session.perform fileSystem operation) (abstract.perform operation) := by
  have serves := tied.serves
  cases operation with
  | createFile fileName => exact tied.onStore (createFile_follows serves fileName)
  | deleteFile fileName => exact tied.onStore (deleteFile_follows serves fileName)
  | read fileName recordName =>
      have opened := openFile_require serves fileName
      simp only [StoreSession.perform, AbstractSession.perform]
      cases required : abstract.store.require fileName with
      | error message =>
          have refused : exec (fileSystem.read fileName recordName) session.world =
              (.error message, session.world) := by
            rw [FileSystem.read, exec_bind, opened, required]
            rfl
          exact tied.onResult refused rfl
      | ok _ =>
          refine tied.onResult ?_ (map_text (abstract.store.readRecord fileName recordName) recordName)
          rw [FileSystem.read, exec_bind, opened, required]
          exact readRecord_eq serves rfl recordName
  | write fileName recordName text =>
      have opened := openFile_require serves fileName
      apply tied.onStore
      cases required : abstract.store.require fileName with
      | error message =>
          refine ⟨session.world, serves, ?_⟩
          rw [FileSystem.write, exec_bind, opened, required]
          rfl
      | ok _ =>
          obtain ⟨after, servesAfter, written⟩ := writeRecord_follows serves
            (show (fileSystem.handle fileName).root = fileSystem.root from rfl) recordName text
          refine ⟨after, servesAfter, ?_⟩
          rw [FileSystem.write, exec_bind, opened, required]
          exact written
  | openFile handle fileName =>
      have opened := openFile_require serves fileName
      simp only [StoreSession.perform, AbstractSession.perform, opened]
      cases abstract.store.require fileName with
      | error message => exact ⟨rfl, tied⟩
      | ok _ => exact ⟨rfl, tied.setHandle handle (.opened rfl rfl rfl)⟩
  | readRecord handle recordName =>
      refine tied.onHandle handle ?_
      intro file reader same
      obtain ⟨rooted, name⟩ := same.rooted
      rw [name]
      exact tied.onResult (readRecord_eq serves rooted recordName) (map_text _ recordName)
  | writeRecord handle recordName text =>
      refine tied.onHandle handle ?_
      intro file reader same
      obtain ⟨rooted, name⟩ := same.rooted
      rw [name]
      exact tied.onStore (writeRecord_follows serves rooted recordName text)
  | deleteRecord handle recordName =>
      refine tied.onHandle handle ?_
      intro file reader same
      obtain ⟨rooted, name⟩ := same.rooted
      rw [name]
      exact tied.onStore (deleteRecord_follows serves rooted recordName)
  | listRecords handle =>
      refine tied.onHandle handle ?_
      intro file reader same
      obtain ⟨rooted, name⟩ := same.rooted
      rw [name]
      exact tied.onResult (exec_listRecords serves rooted) rfl
  | readNextRecord handle =>
      refine tied.onHandle handle ?_
      intro file reader same
      obtain ⟨after, read, sameAfter⟩ := readNextRecord_eq serves same
      rw [read]
      exact ⟨rfl, tied.setHandle handle sameAfter⟩
  | resetReadNextCursor handle =>
      refine tied.onHandle handle ?_
      intro file reader same
      obtain ⟨rooted, name⟩ := same.rooted
      exact ⟨rfl, tied.setHandle handle (.opened rooted name rfl)⟩

end Operations

/-! ## The map of a directory -/

/-- The texts of the records in a directory. -/
def textsOf (records : Records) : Texts :=
  ((records.entries.filter fun entry => isValidRecordName entry.1.1).map fun entry =>
    (⟨entry.1.1, entry.2⟩ : Sigma fun _ : String => String)).toFinmap

/-- What a storage stands for. -/
def storedFileOf : Storage → StoredFile
  | .directory records => .file (textsOf records)
  | .other => .other

/-- The map that a directory stands for. -/
def storeOf (directory : Directory) : Store :=
  (directory.entries.map (Sigma.map id fun _ => storedFileOf)).toFinmap

/-- A record of the map has a valid name and is stored under some extension. -/
theorem mem_textsOf {records : Records} {recordName text : String}
    (found : (textsOf records).lookup recordName = some text) :
    isValidRecordName recordName = true ∧
      ∃ extension, records.lookup (recordName, extension) = some text := by
  rw [textsOf, Finmap.dlookup_list_toFinmap] at found
  have member := List.of_mem_dlookup found
  obtain ⟨⟨⟨name, extension⟩, content⟩, present, same⟩ := List.mem_map.mp member
  obtain ⟨inRecords, valid⟩ := List.mem_filter.mp present
  cases same
  exact ⟨valid, extension, AList.mem_lookup_iff.mpr inRecords⟩

/-- The map that a directory stands for, name by name. -/
theorem lookup_storeOf (directory : Directory) (fileName : String) :
    (storeOf directory).lookup fileName = (directory.lookup fileName).map storedFileOf := by
  rw [storeOf, Finmap.dlookup_list_toFinmap]
  exact List.dlookup_map₂ fileName

/-- The records of the map that a directory stands for. -/
theorem texts_storeOf (directory : Directory) (fileName : String) :
    (storeOf directory).texts fileName = ((directory.records fileName).map textsOf).getD ∅ := by
  rw [Store.texts, lookup_storeOf, Directory.records]
  cases directory.lookup fileName with
  | none => rfl
  | some storage => cases storage <;> rfl

/-- A directory that has no record under two extensions stands for its map. -/
theorem represents_storeOf {directory : Directory} (unique : AtMostOneExtension directory) :
    Represents directory (storeOf directory) where
  kind := by
    intro fileName
    rw [lookup_storeOf]
    cases directory.lookup fileName with
    | none => exact .absent
    | some storage =>
        cases storage with
        | directory records => exact .file records (textsOf records)
        | other => exact .other
  unique := unique
  text := by
    intro fileName recordName valid text
    rw [texts_storeOf]
    have only := unique fileName recordName
    simp only [Directory.content] at only ⊢
    cases known : directory.records fileName with
    | none => simp
    | some records =>
        simp only [known, Option.map_some, Option.getD_some, Option.bind_some] at only ⊢
        constructor
        · intro found
          exact (mem_textsOf found).2
        · rintro ⟨extension, found⟩
          -- The id has a text, and the one it has is of the only extension.
          have listed : recordName ∈ ((records.entries.filter fun entry =>
              isValidRecordName entry.1.1).map fun entry =>
                (⟨entry.1.1, entry.2⟩ : Sigma fun _ : String => String)).keys := by
            refine List.mem_map.mpr ⟨⟨recordName, text⟩, List.mem_map.mpr ?_, rfl⟩
            exact ⟨⟨(recordName, extension), text⟩,
              List.mem_filter.mpr ⟨AList.mem_lookup_iff.mp found, valid⟩, rfl⟩
          obtain ⟨stored, isStored⟩ := Option.isSome_iff_exists.mp (List.dlookup_isSome.mpr listed)
          have inTexts : (textsOf records).lookup recordName = some stored := by
            rw [textsOf, Finmap.dlookup_list_toFinmap]
            exact isStored
          obtain ⟨-, other, otherFound⟩ := mem_textsOf inTexts
          have same := only extension other valid (by rw [found]; rfl) (by rw [otherFound]; rfl)
          subst same
          rw [found, Option.some.injEq] at otherFound
          rw [inTexts, otherFound]
  valid := by
    intro fileName recordName member
    rw [texts_storeOf] at member
    cases known : directory.records fileName with
    | none =>
        rw [known] at member
        exact absurd member Finmap.notMem_empty
    | some records =>
        rw [known] at member
        obtain ⟨text, found⟩ := Finmap.mem_iff.mp member
        exact (mem_textsOf found).1

/-! ## The laws of the map -/

/-- What a record store owes its users. -/
structure StoreLaws (store : Store) : Prop where
  /-- What was written is read, and nothing else is changed. -/
  write : ∀ {fileName recordName text next}, store.writeRecord fileName recordName text = .ok next →
    next.readRecord fileName recordName = .ok (some text) ∧
      ∀ otherName otherRecord, ¬ (otherName = fileName ∧ otherRecord = recordName) →
        next.readRecord otherName otherRecord = store.readRecord otherName otherRecord
  /-- What was deleted is not read, and nothing else is changed. -/
  delete : ∀ {fileName recordName next}, store.deleteRecord fileName recordName = .ok next →
    next.readRecord fileName recordName = .ok none ∧
      ∀ otherName otherRecord, ¬ (otherName = fileName ∧ otherRecord = recordName) →
        next.readRecord otherName otherRecord = store.readRecord otherName otherRecord
  /-- The listing is the domain, ascending and without repetition. -/
  listing : ∀ fileName, (store.listRecords fileName).Pairwise (· < ·) ∧
    ∀ recordName, recordName ∈ store.listRecords fileName ↔ recordName ∈ store.texts fileName

/-- A file put back with one record changed reads as before elsewhere. -/
theorem readRecord_insert {store : Store} {fileName recordName : String} {texts changed : Texts}
    (known : store.lookup fileName = some (.file texts))
    (others : ∀ other, other ≠ recordName → changed.lookup other = texts.lookup other)
    (otherName otherRecord : String)
    (apart : ¬ (otherName = fileName ∧ otherRecord = recordName)) :
    Store.readRecord (store.insert fileName (.file changed)) otherName otherRecord =
      store.readRecord otherName otherRecord := by
  simp only [Store.readRecord, texts_insert]
  by_cases same : otherName = fileName
  · subst same
    rw [if_pos rfl, others otherRecord (fun equal => apart ⟨rfl, equal⟩), Represents.texts_eq known]
  · rw [if_neg same]

/-- The map obeys the laws of a store. -/
theorem storeLaws (store : Store) : StoreLaws store where
  write := by
    intro fileName recordName text next written
    unfold Store.writeRecord at written
    split at written
    · cases written
    rename_i valid
    split at written
    · rename_i texts known
      cases written
      refine ⟨?_, readRecord_insert known fun other different => ?_⟩
      · simp only [Store.readRecord, if_neg valid, texts_insert, if_true, Finmap.lookup_insert]
      · exact Finmap.lookup_insert_of_ne _ different
    · cases written
  delete := by
    intro fileName recordName next deleted
    unfold Store.deleteRecord at deleted
    split at deleted
    · cases deleted
    rename_i valid
    split at deleted
    · cases deleted
    · rename_i texts known
      split at deleted
      · cases deleted
        refine ⟨?_, readRecord_insert known fun other different => ?_⟩
        · simp only [Store.readRecord, if_neg valid, texts_insert, if_true, Finmap.lookup_erase]
        · exact Finmap.lookup_erase_ne different
      · cases deleted
    · cases deleted
  listing := by
    intro fileName
    refine ⟨(Finset.sortedLT_sort _).pairwise, ?_⟩
    intro recordName
    rw [Store.listRecords, Finset.mem_sort, Finmap.mem_keys]

/-! ## Whole sessions -/

/-- The results of a session's operations. -/
def storeResults (fileSystem : FileSystem) :
    StoreSession → List StoreOperation → List (Except String StoreResult)
  | _, [] => []
  | session, operation :: rest =>
      (session.perform fileSystem operation).1 ::
        storeResults fileSystem (session.perform fileSystem operation).2 rest

/-- The session after its operations. -/
def storeAfter (fileSystem : FileSystem) (session : StoreSession)
    (operations : List StoreOperation) : StoreSession :=
  operations.foldl (fun session operation => (session.perform fileSystem operation).2) session

/-- The results of the map's operations. -/
def abstractResults : AbstractSession → List StoreOperation → List (Except String StoreResult)
  | _, [] => []
  | session, operation :: rest =>
      (session.perform operation).1 :: abstractResults (session.perform operation).2 rest

/-- The map after its operations. -/
def abstractAfter (session : AbstractSession) (operations : List StoreOperation) :
    AbstractSession :=
  operations.foldl (fun session operation => (session.perform operation).2) session

/-- A whole run gives the same results on both sides. -/
theorem Tied.run {fileSystem : FileSystem} {session : StoreSession} {abstract : AbstractSession}
    (tied : Tied fileSystem session abstract) (operations : List StoreOperation) :
    storeResults fileSystem session operations = abstractResults abstract operations ∧
      Tied fileSystem (storeAfter fileSystem session operations)
        (abstractAfter abstract operations) := by
  induction operations generalizing session abstract with
  | nil => exact ⟨rfl, tied⟩
  | cons operation rest inductionHypothesis =>
      obtain ⟨same, next⟩ := tied.perform operation
      obtain ⟨results, last⟩ := inductionHypothesis next
      refine ⟨?_, last⟩
      rw [storeResults, abstractResults, same, results]

/-- The ids of a reader are given one after the other, and then no more. -/
theorem abstractResults_readNext {abstract : AbstractSession} {handle : Nat} {reader : Reader}
    (opened : abstract.readers handle = some reader) {ids : List String}
    (left : reader.remaining.getD (abstract.store.listRecords reader.name) = ids) :
    abstractResults abstract (List.replicate (ids.length + 1) (.readNextRecord handle)) =
      ids.map (fun recordId => .ok (.next (some recordId))) ++ [.ok (.next none)] := by
  induction ids generalizing abstract reader with
  | nil =>
      rw [List.length_nil, List.replicate_succ, abstractResults]
      simp only [AbstractSession.perform, opened, left]
      rfl
  | cons first rest inductionHypothesis =>
      rw [List.length_cons, List.replicate_succ, abstractResults]
      simp only [AbstractSession.perform, opened, left, List.head?_cons, List.tail_cons,
        List.map_cons, List.cons_append]
      congr 1
      apply @inductionHypothesis _ { reader with remaining := some rest }
      · simp only [Function.update_self]
      · rfl

/-- From a reset cursor, `READNEXT` gives the listing in order and is then exhausted. -/
theorem Tied.enumerates {fileSystem : FileSystem} {session : StoreSession}
    {abstract : AbstractSession} (tied : Tied fileSystem session abstract) {handle : Nat}
    {file : FileHandle} (opened : session.handles handle = some file) :
    ∃ ids, storeResults fileSystem session [.listRecords handle] = [.ok (.names ids)] ∧
      storeResults fileSystem session
        (.resetReadNextCursor handle :: List.replicate (ids.length + 1) (.readNextRecord handle)) =
      .ok .done :: (ids.map (fun recordId => .ok (.next (some recordId))) ++ [.ok (.next none)]) := by
  have same := tied.readers handle
  rw [opened] at same
  cases reading : abstract.readers handle with
  | none =>
      rw [reading] at same
      cases same
  | some reader =>
      refine ⟨abstract.store.listRecords reader.name, ?_, ?_⟩
      · rw [(tied.run _).1]
        simp only [abstractResults, AbstractSession.perform, reading]
      · rw [(tied.run _).1, abstractResults]
        simp only [AbstractSession.perform, reading]
        congr 1
        apply @abstractResults_readNext _ _ { reader with remaining := none }
        · simp only [Function.update_self]
        · rfl

/-- On a faithful host, every result of a session that works alone is that of the finite map
its directory stands for, which keeps to the laws of a store; a record id never gets a
second file; and from a reset cursor `READNEXT` gives the listing. -/
theorem recordStore_refines (fileSystem : FileSystem) (world : World)
    (faithful : world.faults = []) (alone : Alone fileSystem world)
    (unique : AtMostOneExtension (world.disk fileSystem.root))
    (operations : List StoreOperation) :
    storeResults fileSystem { world := world } operations =
        abstractResults { store := storeOf (world.disk fileSystem.root) } operations ∧
      StoreLaws (abstractAfter { store := storeOf (world.disk fileSystem.root) } operations).store ∧
      AtMostOneExtension
        ((storeAfter fileSystem { world := world } operations).world.disk fileSystem.root) ∧
      ∀ handle file, (storeAfter fileSystem { world := world } operations).handles handle = some file →
        ∃ ids, storeResults fileSystem (storeAfter fileSystem { world := world } operations)
            [.listRecords handle] = [.ok (.names ids)] ∧
          storeResults fileSystem (storeAfter fileSystem { world := world } operations)
              (.resetReadNextCursor handle ::
                List.replicate (ids.length + 1) (.readNextRecord handle)) =
            .ok .done ::
              (ids.map (fun recordId => .ok (.next (some recordId))) ++ [.ok (.next none)]) := by
  have start : Tied fileSystem { world := world }
      { store := storeOf (world.disk fileSystem.root) } :=
    ⟨⟨faithful, alone, represents_storeOf unique⟩, fun _ => .closed⟩
  obtain ⟨same, last⟩ := start.run operations
  exact ⟨same, storeLaws _, last.serves.represents.unique, fun _ _ opened => last.enumerates opened⟩

/-- A program's source is written, replaced, listed and deleted. -/
def editedProgram : List StoreOperation :=
  [.createFile "BP", .write "BP" "HELLO" "10 PRINT 1", .write "BP" "HELLO" "10 PRINT 2\n",
    .openFile 0 "BP", .readRecord 0 "HELLO", .deleteRecord 0 "HELLO", .read "BP" "HELLO"]

/-- A session without locks. -/
def dataFiles : FileSystem where
  root := "data"

/-- A world without files. -/
def emptyWorld : World := {}

/-- A session that makes, edits and lists a program agrees with the map. -/
theorem editedProgram_refines :
    storeResults dataFiles { world := emptyWorld } editedProgram =
        abstractResults { store := storeOf (emptyWorld.disk dataFiles.root) } editedProgram ∧
      AtMostOneExtension
        ((storeAfter dataFiles { world := emptyWorld } editedProgram).world.disk dataFiles.root) := by
  have empty : AtMostOneExtension (emptyWorld.disk dataFiles.root) := by
    intro fileName recordName first second _ present
    simp [emptyWorld, Directory.content, Directory.records] at present
  have alone : Alone dataFiles emptyWorld := by
    intro fileName recordName enabled
    simp [dataFiles, FileSystem.lockingEnabled] at enabled
  obtain ⟨same, -, unique, -⟩ := recordStore_refines dataFiles emptyWorld rfl alone empty editedProgram
  exact ⟨same, unique⟩

end Gemini.PickFS
