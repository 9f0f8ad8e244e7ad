import Gemini.PickFS.RecordCells
import Gemini.PickShell.VocCache
import Gemini.VM.TryForms

/-!
# `ELSE` on the statements on files

What the `Try` forms of the file instructions let through, on the files of a session. The catch
clauses of `READ` and `WRITE` know lock conflicts alone: a file that is gone and a name that is
none end the program although there is an `ELSE`. `READV` catches nothing at all, and `OPEN`,
`READNEXT` and `WRITEV` catch everything.
-/

namespace Gemini.PickShell.FileElse

open Gemini.Semantics Program
open Gemini.PickFS (World FileSystem FileHandle FileM Record StructuredRecord Accessible TakesLock
  isValidName isValidRecordName)
open Gemini.Locking (LockConflict describeLockConflict)
open Gemini.English (FieldItems fileCall exec_fileCall)
open Gemini.VM
open VocCache (Surroundings inSurroundings fileBackend exec_inSurroundings)

/-! ## The texts of errors -/

/-- A text with a space inside is not within a text that ends in a name. -/
theorem infix_of_name {front back first name : List Char} (noSpace : ' ' ∉ name)
    (within : front ++ ' ' :: back <:+: first ++ name) : front <:+: first := by
  obtain ⟨before, after, same⟩ := within
  have split : (before ++ front) ++ (' ' :: back ++ after) = first ++ name := by
    rw [← same]
    simp
  rcases List.append_eq_append_iff.mp split with ⟨middle, begins, _⟩ | ⟨middle, begins, ends⟩
  · exact ⟨before, middle, begins.symm⟩
  · cases middle with
    | nil =>
        rw [List.append_nil] at begins
        exact ⟨before, [], by rw [List.append_nil, begins]⟩
    | cons char rest =>
        refine absurd ?_ noSpace
        rw [ends]
        simp

/-- A valid name has no space. -/
theorem space_not_mem_of_valid {name : String} (valid : isValidName name = true) :
    ' ' ∉ name.toList := by
  intro member
  unfold isValidName at valid
  rw [Bool.and_eq_true, List.all_eq_true] at valid
  exact absurd (valid.2 ' ' member) (by decide)

/-- An error is a lock conflict when its text has these words in it. -/
theorem isRecordLockConflict_iff {what : String} :
    (FileError.fileSystem what).isRecordLockConflict = true ↔
      "RECORD LOCKED".toList <:+: what.toList := by
  -- The instance that decides it is the one of the definition.
  have decided (fact : Prop) (instance_ : Decidable fact) : decide fact = true ↔ fact :=
    decide_eq_true_iff
  exact decided _ _

/-- The message of a file that is not there, or is none, is not that of a conflict. -/
theorem not_conflict_of_name {what name : String} (valid : isValidName name = true)
    (clear : ¬ "RECORD".toList <:+: what.toList) :
    ¬ (FileError.fileSystem (what ++ name)).isRecordLockConflict = true := by
  rw [isRecordLockConflict_iff, String.toList_append]
  exact fun within => clear (infix_of_name (space_not_mem_of_valid valid) within)

/-- The text for a lock conflict is one. -/
theorem conflict_describe (conflict : LockConflict) :
    (FileError.fileSystem (describeLockConflict conflict)).isRecordLockConflict = true := by
  rw [isRecordLockConflict_iff]
  unfold describeLockConflict
  simp only [String.toList_append, List.append_assoc]
  refine List.IsInfix.trans ?_ (List.prefix_append _ _).isInfix
  decide

/-! ## What reading and writing throws -/

section Throws

variable {fileSystem : FileSystem} {world : World} {fileName recordName : String}

/-- The file is there and the name of the record is one. -/
structure Addresses (fileSystem : FileSystem) (world : World) (fileName recordName : String) :
    Prop where
  name : isValidName fileName = true
  directory : ((world.disk fileSystem.root).records fileName).isSome = true
  record : isValidRecordName recordName = true

/-- A program throws nothing but lock conflicts. -/
def OnlyConflicts {Result : Type} (program : FileM Result) (world : World) : Prop :=
  ∀ what, (exec program world).1 = .error what →
    (FileError.fileSystem what).isRecordLockConflict = true

/-- A program that returns throws no conflict and nothing else. -/
theorem onlyConflicts_of_ok {Result : Type} {program : FileM Result} {result : Result}
    (done : (exec program world).1 = .ok result) : OnlyConflicts program world := by
  intro what failed
  rw [done] at failed
  cases failed

/-- A program that throws another error does not only throw conflicts. -/
theorem not_onlyConflicts {Result : Type} {program : FileM Result} {what : String}
    (failed : (exec program world).1 = .error what)
    (other : ¬ (FileError.fileSystem what).isRecordLockConflict = true) :
    ¬ OnlyConflicts program world :=
  fun only => other (only what failed)

/-- A program that opens a file first throws other errors than conflicts where the file cannot be
opened. -/
theorem onlyConflicts_open {Result : Type} {next : FileHandle → FileM Result}
    (faithful : world.faults = []) :
    OnlyConflicts (fileSystem.openFile fileName >>= next) world ↔
      isValidName fileName = true ∧ ((world.disk fileSystem.root).records fileName).isSome = true ∧
        OnlyConflicts (next (fileSystem.handle fileName)) world := by
  have opened := @PickFS.exec_openFile fileSystem world faithful fileName
  cases valid : isValidName fileName with
  | false =>
      simp only [valid, Bool.not_false, if_true] at opened
      have failed : (exec (fileSystem.openFile fileName >>= next) world).1 =
          .error "Invalid file name" := by rw [exec_bind, opened]
      refine iff_of_false (not_onlyConflicts failed ?_) (by simp)
      rw [isRecordLockConflict_iff]
      decide
  | true =>
      simp only [valid, Bool.not_true, Bool.false_eq_true, if_false] at opened
      cases known : (world.disk fileSystem.root).lookup fileName with
      | none =>
          have failed : (exec (fileSystem.openFile fileName >>= next) world).1 =
              .error ("File not found: " ++ fileName) := by rw [exec_bind, opened, known]
          refine iff_of_false
            (not_onlyConflicts failed (not_conflict_of_name valid (by decide))) ?_
          simp [PickFS.Directory.records, known]
      | some storage =>
          cases storage with
          | other =>
              have failed : (exec (fileSystem.openFile fileName >>= next) world).1 =
                  .error ("Invalid file storage for: " ++ fileName) := by
                rw [exec_bind, opened, known]
              refine iff_of_false
                (not_onlyConflicts failed (not_conflict_of_name valid (by decide))) ?_
              simp [PickFS.Directory.records, known]
          | directory records =>
              have same : exec (fileSystem.openFile fileName >>= next) world =
                  exec (next (fileSystem.handle fileName)) world := by
                rw [exec_bind, opened, known]
              simp [OnlyConflicts, same, PickFS.Directory.records, known]

/-- A check for locks that does not pass throws a conflict. -/
theorem onlyConflicts_of_locked {Result : Type} {next : FileM Result}
    (locked : ¬ Accessible fileSystem world fileName recordName) :
    OnlyConflicts (fileSystem.assertRecordAccessible fileName recordName >>= fun _ => next)
      world := by
  intro what failed
  unfold Accessible at locked
  push Not at locked
  obtain ⟨enabled, entry, found, foreign⟩ := locked
  unfold FileSystem.assertRecordAccessible at failed
  simp only [enabled, Bool.not_true, Bool.false_eq_true, if_false] at failed
  rw [exec_bind, exec_bind, PickFS.exec_lockCall, found] at failed
  simp only [if_neg foreign] at failed
  cases failed
  exact conflict_describe _

/-- A program that checks the name of a record and the locks, and then does not fail. -/
theorem onlyConflicts_named {Result : Type} {program next : FileM Result}
    (checks : program = if !isValidRecordName recordName then throw "Invalid record name"
      else fileSystem.assertRecordAccessible fileName recordName >>= fun _ => next)
    (succeeds : isValidRecordName recordName = true →
      Accessible fileSystem world fileName recordName →
        ∃ result, (exec program world).1 = .ok result) :
    OnlyConflicts program world ↔ isValidRecordName recordName = true := by
  cases valid : isValidRecordName recordName with
  | false =>
      simp only [valid, Bool.not_false, if_true] at checks
      have failed : (exec program world).1 = .error "Invalid record name" := by rw [checks]; rfl
      refine iff_of_false (not_onlyConflicts failed ?_) nofun
      rw [isRecordLockConflict_iff]
      decide
  | true =>
      refine iff_of_true ?_ rfl
      by_cases accessible : Accessible fileSystem world fileName recordName
      · obtain ⟨result, done⟩ := succeeds valid accessible
        exact onlyConflicts_of_ok done
      · simp only [valid, Bool.not_true, Bool.false_eq_true, if_false] at checks
        rw [checks]
        exact onlyConflicts_of_locked accessible

/-- What a file and a record name need to be an address. -/
theorem addresses_iff :
    Addresses fileSystem world fileName recordName ↔
      isValidName fileName = true ∧ ((world.disk fileSystem.root).records fileName).isSome = true ∧
        isValidRecordName recordName = true :=
  ⟨fun addresses => ⟨addresses.name, addresses.directory, addresses.record⟩,
    fun ⟨name, directory, record⟩ => ⟨name, directory, record⟩⟩

/-- A read throws nothing but conflicts exactly when it addresses a record. -/
theorem onlyConflicts_read (faithful : world.faults = []) :
    OnlyConflicts (fileSystem.read fileName recordName) world ↔
      Addresses fileSystem world fileName recordName := by
  rw [FileSystem.read, onlyConflicts_open faithful, addresses_iff]
  refine and_congr_right fun _ => and_congr_right fun _ => onlyConflicts_named rfl ?_
  intro valid accessible
  obtain ⟨found, done⟩ := PickVoc.exec_readRecord_of_accessible faithful
    (fileSystem.handle fileName) valid accessible
  exact ⟨found, by rw [done]⟩

/-- So does a write. -/
theorem onlyConflicts_write (faithful : world.faults = []) {text : String} :
    OnlyConflicts (fileSystem.write fileName (.ofText recordName text)) world ↔
      Addresses fileSystem world fileName recordName := by
  rw [FileSystem.write, onlyConflicts_open faithful, addresses_iff]
  refine and_congr_right fun validFile => and_congr_right fun directory =>
    onlyConflicts_named rfl ?_
  intro validRecord accessible
  have writable : PickFS.Writable fileSystem world fileName recordName :=
    { faithful, validFile, validRecord, directory, accessible }
  have done := PickFS.exec_write writable text
  rw [FileSystem.write, exec_bind, PickFS.exec_openFile_of_writable writable] at done
  dsimp only at done
  exact ⟨(), by rw [done]⟩

/-- The session asks for a lock and does not get it. -/
def Refused (fileSystem : FileSystem) (world : World) (fileName recordName : String) : Prop :=
  fileSystem.lockingEnabled = true ∧ ¬ TakesLock fileSystem world fileName recordName

/-- A lock that another session has is refused with a conflict. -/
theorem exec_acquireRecordLock_of_refused (refused : Refused fileSystem world fileName recordName)
    (lockType : Locking.LockType) :
    ∃ conflict, exec (fileSystem.acquireRecordLock fileName recordName lockType) world =
      (.error (describeLockConflict conflict), world) := by
  obtain ⟨enabled, notTaken⟩ := refused
  unfold FileSystem.acquireRecordLock
  simp only [enabled, Bool.not_true, Bool.false_eq_true, if_false]
  rw [exec_bind, PickFS.exec_lockCall]
  cases granted : world.locks.tryAcquire fileSystem.lockSessionId fileName recordName lockType with
  | ok locks => exact absurd ((PickFS.tryAcquire_eq_ok_iff enabled).mp granted).1 notTaken
  | error conflict => exact ⟨conflict, rfl⟩

/-- Any other lock is granted. -/
theorem exec_acquireRecordLock_of_granted (granted : ¬ Refused fileSystem world fileName recordName)
    (lockType : Locking.LockType) :
    exec (fileSystem.acquireRecordLock fileName recordName lockType) world =
      (.ok (), PickFS.lockedWorld fileSystem world fileName recordName lockType) := by
  unfold FileSystem.acquireRecordLock
  by_cases enabled : fileSystem.lockingEnabled = true
  · have takes : TakesLock fileSystem world fileName recordName := by
      by_contra notTaken
      exact granted ⟨enabled, notTaken⟩
    have acquired := (@PickFS.tryAcquire_eq_ok_iff _ _ _ _ lockType enabled _).mpr ⟨takes, rfl⟩
    simp only [enabled, Bool.not_true, Bool.false_eq_true, if_false]
    rw [exec_bind, PickFS.exec_lockCall, acquired, PickFS.lockedWorld, if_pos takes]
    rfl
  · have notTaken : ¬ TakesLock fileSystem world fileName recordName := fun takes =>
      enabled takes.enabled
    rw [PickFS.lockedWorld_of_not notTaken]
    simp only [enabled, Bool.not_false, if_true]
    rfl

/-- A program for update takes the lock first. -/
theorem onlyConflicts_locking {Result : Type} {next : FileM Result} {lockType : Locking.LockType} :
    OnlyConflicts (fileSystem.acquireRecordLock fileName recordName lockType >>= fun _ => next)
        world ↔
      Refused fileSystem world fileName recordName ∨
        OnlyConflicts next
          (PickFS.lockedWorld fileSystem world fileName recordName lockType) := by
  by_cases refused : Refused fileSystem world fileName recordName
  · obtain ⟨conflict, locked⟩ := exec_acquireRecordLock_of_refused refused lockType
    refine iff_of_true (fun what failed => ?_) (.inl refused)
    rw [exec_bind, locked] at failed
    cases failed
    exact conflict_describe conflict
  · have taken := exec_acquireRecordLock_of_granted refused lockType
    unfold OnlyConflicts
    rw [exec_bind, taken]
    simp only [refused, false_or]

/-- Locks do not decide what is an address. -/
theorem addresses_lockedWorld {lockType : Locking.LockType} :
    Addresses fileSystem (PickFS.lockedWorld fileSystem world fileName recordName lockType)
        fileName recordName ↔ Addresses fileSystem world fileName recordName := by
  unfold PickFS.lockedWorld
  split
  · rw [addresses_iff, addresses_iff]
  · rfl

/-- A read for update throws nothing but conflicts when its lock is refused, which comes first, or
when it addresses a record. -/
theorem onlyConflicts_readU (faithful : world.faults = []) :
    OnlyConflicts (fileSystem.readU fileName recordName) world ↔
      Refused fileSystem world fileName recordName ∨
        Addresses fileSystem world fileName recordName := by
  rw [FileSystem.readU, onlyConflicts_locking,
    onlyConflicts_read (PickFS.faithful_lockedWorld faithful), addresses_lockedWorld]

/-- So does a write for update. -/
theorem onlyConflicts_writeU (faithful : world.faults = []) {text : String} :
    OnlyConflicts (fileSystem.writeU fileName (.ofText recordName text)) world ↔
      Refused fileSystem world fileName recordName ∨
        Addresses fileSystem world fileName recordName := by
  have name : (Record.ofText recordName text).name = recordName := rfl
  rw [FileSystem.writeU, name, onlyConflicts_locking,
    onlyConflicts_write (PickFS.faithful_lockedWorld faithful), addresses_lockedWorld]

end Throws

/-! ## The files as the machine has them -/

section Backend

variable {Rest : Type} {fileSystem : FileSystem} {items : FieldItems}
  {world : Surroundings Rest} {fileName recordName text : String}

/-- A read of the backend is the read of the file system, with its error. -/
theorem exec_backend_read {Result : Type} (program : FileM (Option Record)) (read : Record → Result) :
    exec (inSurroundings do
        let record ← fileCall program
        return record.map read) world =
      (((exec program world.files).1.map (Option.map read)).mapError FileError.fileSystem,
        { world with files := (exec program world.files).2 }) := by
  rw [exec_inSurroundings, exec_bind, exec_fileCall]
  rcases exec program world.files with ⟨what | found, after⟩ <;> rfl

/-- The errors of a reading are those of the file system. -/
theorem onlyConflicts_backend_read {Result : Type} {program : FileM (Option Record)}
    {read : Record → Result} :
    (∀ error, (exec (inSurroundings do
        let record ← fileCall program
        return record.map read) world).1 = .error error → error.isRecordLockConflict = true) ↔
      OnlyConflicts program world.files := by
  rw [exec_backend_read]
  unfold OnlyConflicts
  cases (exec program world.files).1 <;> simp [Except.map, Except.mapError]

/-- The errors of a writing are those of the file system. -/
theorem onlyConflicts_backend_write {program : FileM Unit} :
    (∀ what, (exec (inSurroundings (fileCall program)) world).1 = .error (.fileSystem what) →
        (FileError.fileSystem what).isRecordLockConflict = true) ↔
      OnlyConflicts program world.files := by
  rw [exec_inSurroundings, exec_fileCall]
  unfold OnlyConflicts
  cases (exec program world.files).1 <;> simp [Except.mapError]

/-- A call of the file system throws no other kind of error. -/
theorem not_other_of_fileCall {Result : Type} {program : FileM Result} {what : String} :
    (exec (inSurroundings (fileCall program)) world).1 ≠ .error (.other what) := by
  rw [exec_inSurroundings, exec_fileCall]
  cases (exec program world.files).1 <;> simp [Except.mapError]

/-- A field is resolved without a change. -/
theorem exec_resolveField_files (faithful : world.files.faults = []) (token : String) :
    (exec ((fileBackend fileSystem items).resolveField fileName token) world).2 = world := by
  have kept := (@English.keeps_resolveField fileSystem items _
    (PickFS.steady_same faithful) fileName token).after rfl
  change (exec (inSurroundings _) world).2 = world
  rw [exec_inSurroundings]
  dsimp only
  rw [kept]

/-- What is read through the machine is what the file system reads. -/
theorem exec_read_backend (faithful : world.files.faults = []) :
    exec ((fileBackend fileSystem items).read fileName recordName) world =
      (((exec (fileSystem.read fileName recordName) world.files).1.map
        (Option.map Record.value)).mapError FileError.fileSystem, world) := by
  have same : (exec (fileSystem.read fileName recordName) world.files).2 = world.files :=
    ((PickFS.read_ensures (PickFS.steady_same faithful) fileName recordName).weakenPost
      fun _ _ => And.left).after rfl
  change exec (inSurroundings _) world = _
  rw [exec_backend_read, same]

end Backend

/-! ## Reading a record -/

section Reading

variable {fileSystem : FileSystem} {world : World} {fileName recordName : String}

/-- A read of an address is the read of its record. -/
theorem exec_read_of_addressed (faithful : world.faults = [])
    (addresses : Addresses fileSystem world fileName recordName) :
    exec (fileSystem.read fileName recordName) world =
      exec (fileSystem.readRecord (fileSystem.handle fileName) recordName) world := by
  obtain ⟨records, known⟩ := (PickFS.records_isSome fileName).mp addresses.directory
  rw [FileSystem.read, exec_bind, PickFS.exec_openFile faithful, addresses.name, known]
  rfl

/-- When a record can be read, and what is then read. -/
theorem exec_read_eq_ok_iff (faithful : world.faults = []) {text : Option String} {after : World} :
    (∃ found, exec (fileSystem.read fileName recordName) world = (.ok found, after) ∧
        found.map Record.value = text) ↔
      Addresses fileSystem world fileName recordName ∧
        Accessible fileSystem world fileName recordName ∧ after = world ∧
        PickVoc.storedText (world.disk fileSystem.root) fileName recordName = text := by
  have stored := @PickVoc.readRecord_ensures fileSystem _ faithful (fileSystem.handle fileName)
    recordName world rfl
  constructor
  · rintro ⟨found, done, is⟩
    have addresses := (onlyConflicts_read faithful).mp
      (onlyConflicts_of_ok (congrArg Prod.fst done))
    have ensured := @PickFS.read_ensures fileSystem _ (PickFS.steady_same faithful) fileName
      recordName world rfl
    rw [done] at ensured
    obtain ⟨rfl, accessible⟩ := ensured
    rw [exec_read_of_addressed faithful addresses] at done
    rw [done] at stored
    exact ⟨addresses, accessible, rfl, stored.2.symm.trans is⟩
  · rintro ⟨addresses, accessible, rfl, is⟩
    obtain ⟨found, done⟩ := PickVoc.exec_readRecord_of_accessible faithful
      (fileSystem.handle fileName) addresses.record accessible
    rw [done] at stored
    exact ⟨found, by rw [exec_read_of_addressed faithful addresses, done], stored.2.trans is⟩

end Reading

/-! ## What is captured -/

section Captures

variable {Double Rest : Type} [Doubles Double]

/-- `READV` can read the record, and a field that it reads there is clear. -/
structure ReadsField (fileSystem : FileSystem) (items : FieldItems) (world : Surroundings Rest)
    (fileName recordName : String) (attrSlot : Value Double) (valueIndex : Int) : Prop where
  addresses : Addresses fileSystem world.files fileName recordName
  accessible : Accessible fileSystem world.files fileName recordName
  field : ∀ raw,
    PickVoc.storedText (world.files.disk fileSystem.root) fileName recordName = some raw →
      FieldIsClear (fileBackend fileSystem items) fileName world attrSlot valueIndex raw

/-- The values on the stack are such that the `Try` form captures what happens to them. -/
def Covered (fileSystem : FileSystem) (items : FieldItems) (world : Surroundings Rest)
    (fileName : String) : TryForm → List (Value Double) → Prop
  | .readRec, id :: _ => Addresses fileSystem world.files fileName (valueToString id)
  | .writeRec, id :: _ => Addresses fileSystem world.files fileName (valueToString id)
  | .readRecU, id :: _ =>
      Refused fileSystem world.files fileName (valueToString id) ∨
        Addresses fileSystem world.files fileName (valueToString id)
  | .writeRecU, id :: _ =>
      Refused fileSystem world.files fileName (valueToString id) ∨
        Addresses fileSystem world.files fileName (valueToString id)
  | .readV, valueIndex :: attrSlot :: id :: _ =>
      ReadsField fileSystem items world fileName (valueToString id) attrSlot
        (coerceToInt valueIndex)
  | _, _ => True

variable {fileSystem : FileSystem} {items : FieldItems} {host : Host Double (Surroundings Rest)}
  {fileVar : String} {ip : Nat} {machine : Machine Double (Surroundings Rest)}

omit [Doubles Double] in
/-- The file system of an open file is the one that the session has bound. -/
theorem backend_of_opened
    (bound : ∀ backend, host.fileSystem = some backend → backend = fileBackend fileSystem items)
    {environment : Environment Double (Surroundings Rest)}
    {opened : FileHandle × FileBackend (Surroundings Rest)}
    (known : openedAt host fileVar environment = some opened) :
    opened = (opened.1, fileBackend fileSystem items) := by
  unfold openedAt at known
  obtain ⟨handle, _, made⟩ := Option.bind_eq_some_iff.mp known
  obtain ⟨backend, isBound, rfl⟩ := Option.map_eq_some_iff.mp made
  rw [bound backend isBound]

/-- When the `ELSE` of a `READV` takes every error of its record. -/
theorem captures_readV_iff
    (bound : ∀ backend, host.fileSystem = some backend → backend = fileBackend fileSystem items)
    {environment : Environment Double (Surroundings Rest)}
    (faithful : environment.world.files.faults = []) {id attrSlot valueIndex : Value Double}
    {rest : List (Value Double)} :
    Captures host .readV fileVar ip
        (leftAt machine (valueIndex :: attrSlot :: id :: rest) environment) ↔
      ∀ opened, openedAt host (canonicalVariableName fileVar) environment = some opened →
        ReadsField fileSystem items environment.world opened.1.name (valueToString id) attrSlot
          (coerceToInt valueIndex) := by
  rw [captures_readV]
  · refine forall₂_congr fun opened known => ?_
    rw [backend_of_opened bound known, exec_read_backend faithful]
    dsimp only
    rcases done : exec (fileSystem.read opened.1.name (valueToString id)) environment.world.files
      with ⟨what | found, after⟩
    · simp only [Except.map, Except.mapError, false_iff]
      intro reads
      obtain ⟨found, did, _⟩ := (exec_read_eq_ok_iff faithful).mpr
        ⟨reads.addresses, reads.accessible, rfl, rfl⟩
      rw [done] at did
      cases did
    · obtain ⟨addresses, accessible, rfl, stored⟩ := (exec_read_eq_ok_iff faithful).mp
        ⟨found, done, rfl⟩
      have reads : ReadsField fileSystem items environment.world opened.1.name (valueToString id)
          attrSlot (coerceToInt valueIndex) ↔ ∀ raw, found.map Record.value = some raw →
            FieldIsClear (fileBackend fileSystem items) opened.1.name environment.world attrSlot
              (coerceToInt valueIndex) raw := by
        rw [← stored]
        exact ⟨fun reads => reads.field, fun field => ⟨addresses, accessible, field⟩⟩
      rw [reads]
      cases found <;> simp [Except.map, Except.mapError]
  · intro opened known raw world read token
    rw [backend_of_opened bound known] at read ⊢
    rw [exec_read_backend faithful] at read
    obtain rfl := (Prod.mk.inj read).2
    exact exec_resolveField_files faithful token

/-- On a host whose system calls do not fail, with the operands on the stack: the `Try` form of an
instruction on a file captures what happens exactly when the values are covered. -/
theorem else_captures_iff
    (bound : ∀ backend, host.fileSystem = some backend → backend = fileBackend fileSystem items)
    (faithful : machine.memory.environment.world.files.faults = []) (form : TryForm)
    (operands : form.operands ≤ machine.memory.stack.length) :
    Captures host form fileVar ip machine ↔
      ∀ opened, openedAt host (canonicalVariableName fileVar) machine.memory.environment =
          some opened →
        Covered fileSystem items machine.memory.environment.world opened.1.name form
          machine.memory.stack := by
  obtain ⟨stack, stacked⟩ : ∃ stack, machine.memory.stack = stack := ⟨_, rfl⟩
  have whole : machine = leftAt machine stack machine.memory.environment := by rw [← stacked]; rfl
  rw [stacked] at operands ⊢
  generalize machine.memory.environment = environment at whole faithful ⊢
  rw [whole]
  clear stacked whole
  cases form with
  | openFile =>
      match stack, operands with
      | fileName :: rest, _ =>
          rw [captures_openFile]
          refine iff_of_true (fun backend known what failed => ?_) fun _ _ => trivial
          rw [bound backend known] at failed
          exact not_other_of_fileCall failed
  | readRec =>
      match stack, operands with
      | id :: rest, _ =>
          rw [readsBy_readRec.captures]
          refine forall₂_congr fun opened known => ?_
          rw [backend_of_opened bound known]
          exact onlyConflicts_backend_read.trans (onlyConflicts_read faithful)
  | readRecU =>
      match stack, operands with
      | id :: rest, _ =>
          rw [readsBy_readRecU.captures]
          refine forall₂_congr fun opened known => ?_
          rw [backend_of_opened bound known]
          exact onlyConflicts_backend_read.trans (onlyConflicts_readU faithful)
  | writeRec =>
      match stack, operands with
      | id :: value :: rest, _ =>
          rw [writesBy_writeRec.captures]
          refine forall₂_congr fun opened known => ?_
          rw [backend_of_opened bound known]
          exact onlyConflicts_backend_write.trans (onlyConflicts_write faithful)
  | writeRecU =>
      match stack, operands with
      | id :: value :: rest, _ =>
          rw [writesBy_writeRecU.captures]
          refine forall₂_congr fun opened known => ?_
          rw [backend_of_opened bound known]
          exact onlyConflicts_backend_write.trans (onlyConflicts_writeU faithful)
  | readNext => exact iff_of_true captures_readNext fun _ _ => trivial
  | readV =>
      match stack, operands with
      | valueIndex :: attrSlot :: id :: rest, _ => exact captures_readV_iff bound faithful
  | writeV =>
      match stack, operands with
      | valueIndex :: attrNo :: id :: value :: rest, _ =>
          exact iff_of_true captures_writeV fun _ _ => trivial

/-- A host with an account that has a file `DATA`. -/
def dataHost : Host Int (Surroundings Unit) where
  fileSystem := some (fileBackend VocCache.account VocCache.noBuiltins.items)

/-- `DATA` is open, and the name of a record is on the stack. -/
def dataOpened (id : String) : Machine Int (Surroundings Unit) where
  memory := {
    stack := [.string id]
    environment := {
      openFiles := AList.insert "F" { name := "DATA", root := "ACCT" } ∅
      input := []
      world := { files := { disk := fun _ => AList.insert "DATA" (.directory ∅) ∅ }, rest := () } } }

/-- A record that is not there is left to the `ELSE`. -/
theorem missing_record_captured : Captures dataHost .readRec "F" 0 (dataOpened "R1") := by
  refine (else_captures_iff (fun backend bound => (Option.some.inj bound).symm) rfl .readRec
    le_rfl).mpr ?_
  intro opened known
  have named : (openedAt dataHost (canonicalVariableName "F")
      (dataOpened "R1").memory.environment).map (fun opened => opened.1.name) = some "DATA" := by
    decide +kernel
  rw [known] at named
  have name : opened.1.name = "DATA" := Option.some.inj named
  rw [name]
  exact ⟨by decide, by decide, by decide⟩

/-- A name that no record can have ends the program: `READ` lets the error through. -/
theorem invalid_record_escapes :
    ¬ Captures dataHost .readRec "F" 0 (dataOpened "A B") := by
  intro captured
  obtain ⟨after, done, _⟩ := captured
  have thrown : (exec (execute dataHost { op := .readRecTry, operand := .string "F" } 0)
      (dataOpened "A B")).1 = .error (.exception "Invalid record name") := by
    decide +kernel
  rw [show (TryForm.readRec).tried = OpCode.readRecTry from rfl] at done
  rw [done] at thrown
  cases thrown

end Captures

end Gemini.PickShell.FileElse
