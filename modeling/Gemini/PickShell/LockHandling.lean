import Gemini.Basic.ErrorHandlers
import Gemini.PickShell.FileElse
import Gemini.VM.LockConflicts

/-!
# `ON ERROR GOTO` and locked records

A statement that meets a record which another session has locked is to set `STATUS` and to go on
at the line that the last `ON ERROR GOTO` has named. A run is a list of turns: instructions of the
program, and whatever the other sessions do to the files and the locks in between. `ErrorRun`
carries the line that the last `ON ERROR` has named, which is what the source program says, beside
the machine, which has an index.
-/

namespace Gemini.PickShell.LockHandling

open Gemini.Semantics Program
open Gemini.Basic (BasicLine EmittedProgram TargetsKnown onErrorAt onErrorInstr targetOf
  resolvedTarget assembled)
open Gemini.PickFS (World FileSystem FileHandle FileM Record Accessible TakesLock)
open Gemini.English (FieldItems fileCall exec_fileCall)
open Gemini.VM
open VocCache (Surroundings inSurroundings fileBackend exec_inSurroundings)
open FileElse

/-! ## When the file system throws a conflict -/

section Throws

variable {fileSystem : FileSystem} {world : World} {fileName recordName : String}

/-- A program throws a lock conflict. -/
def ThrowsConflict {Result : Type} (program : FileM Result) (world : World) : Prop :=
  ∃ what, (exec program world).1 = .error what ∧
    (FileError.fileSystem what).isRecordLockConflict = true

/-- What throws a conflict throws nothing else, and does not return. -/
theorem throwsConflict_iff {Result : Type} {program : FileM Result} :
    ThrowsConflict program world ↔
      OnlyConflicts program world ∧ ∀ result, (exec program world).1 ≠ .ok result := by
  unfold ThrowsConflict OnlyConflicts
  cases (exec program world).1 <;> simp

/-- A read throws a conflict exactly when its record is there to be read and locked by another
session. -/
theorem throwsConflict_read (faithful : world.faults = []) :
    ThrowsConflict (fileSystem.read fileName recordName) world ↔
      Addresses fileSystem world fileName recordName ∧
        ¬ Accessible fileSystem world fileName recordName := by
  rw [throwsConflict_iff, onlyConflicts_read faithful]
  refine and_congr_right fun addresses => ?_
  constructor
  · intro fails accessible
    obtain ⟨found, done, _⟩ := (exec_read_eq_ok_iff faithful).mpr
      ⟨addresses, accessible, rfl, rfl⟩
    exact fails found (congrArg Prod.fst done)
  · intro locked found done
    exact locked ((exec_read_eq_ok_iff faithful).mp ⟨found, Prod.ext done rfl, rfl⟩).2.1

/-- So does a write. -/
theorem throwsConflict_write (faithful : world.faults = []) {text : String} :
    ThrowsConflict (fileSystem.write fileName (.ofText recordName text)) world ↔
      Addresses fileSystem world fileName recordName ∧
        ¬ Accessible fileSystem world fileName recordName := by
  rw [throwsConflict_iff, onlyConflicts_write faithful]
  refine and_congr_right fun addresses => ?_
  constructor
  · intro fails accessible
    have writable : PickFS.Writable fileSystem world fileName recordName :=
      ⟨faithful, addresses.name, addresses.record, addresses.directory, accessible⟩
    exact fails () (congrArg Prod.fst (PickFS.exec_write writable text))
  · intro locked _ done
    exact locked (PickFS.writable_of_write faithful (Prod.ext done rfl)).accessible

/-- The session has access to a record whose lock it has asked for and got. -/
theorem accessible_lockedWorld (granted : ¬ Refused fileSystem world fileName recordName)
    (lockType : Locking.LockType) :
    Accessible fileSystem (PickFS.lockedWorld fileSystem world fileName recordName lockType)
      fileName recordName := by
  intro enabled entry found
  have takes : TakesLock fileSystem world fileName recordName := by
    by_contra notTaken
    exact granted ⟨enabled, notTaken⟩
  rw [PickFS.lockedWorld, if_pos takes] at found
  dsimp only at found
  rw [Locking.LockTable.lookup_setLock takes.file takes.record, if_pos ⟨rfl, rfl⟩] at found
  rw [← Option.some.inj found]

/-- A program for update throws a conflict when the session does not get the lock. -/
theorem throwsConflict_locking {Result : Type} {next : FileM Result} {lockType : Locking.LockType}
    (goesOn : Accessible fileSystem
        (PickFS.lockedWorld fileSystem world fileName recordName lockType) fileName recordName →
      ¬ ThrowsConflict next (PickFS.lockedWorld fileSystem world fileName recordName lockType)) :
    ThrowsConflict (fileSystem.acquireRecordLock fileName recordName lockType >>= fun _ => next)
        world ↔ Refused fileSystem world fileName recordName := by
  by_cases refused : Refused fileSystem world fileName recordName
  · obtain ⟨conflict, locked⟩ := exec_acquireRecordLock_of_refused refused lockType
    refine iff_of_true ⟨_, ?_, conflict_describe conflict⟩ refused
    rw [exec_bind, locked]
  · have taken := exec_acquireRecordLock_of_granted refused lockType
    refine iff_of_false ?_ refused
    rintro ⟨what, failed, conflict⟩
    rw [exec_bind, taken] at failed
    exact goesOn (accessible_lockedWorld refused lockType) ⟨what, failed, conflict⟩

/-- A read for update throws one exactly when its lock is refused. -/
theorem throwsConflict_readU (faithful : world.faults = []) :
    ThrowsConflict (fileSystem.readU fileName recordName) world ↔
      Refused fileSystem world fileName recordName := by
  refine throwsConflict_locking fun accessible throws => ?_
  exact ((throwsConflict_read (PickFS.faithful_lockedWorld faithful)).mp throws).2 accessible

/-- So does a write for update. -/
theorem throwsConflict_writeU (faithful : world.faults = []) {text : String} :
    ThrowsConflict (fileSystem.writeU fileName (.ofText recordName text)) world ↔
      Refused fileSystem world fileName recordName := by
  refine throwsConflict_locking fun accessible throws => ?_
  exact ((throwsConflict_write (PickFS.faithful_lockedWorld faithful)).mp throws).2 accessible

/-- Why a session does not get a lock: another session has it, or there is nothing to lock. -/
theorem refused_iff :
    Refused fileSystem world fileName recordName ↔
      ¬ Accessible fileSystem world fileName recordName ∨
        fileSystem.lockingEnabled = true ∧ (fileName = "" ∨ recordName = "") := by
  constructor
  · rintro ⟨enabled, notTaken⟩
    by_cases keys : fileName = "" ∨ recordName = ""
    · exact .inr ⟨enabled, keys⟩
    · obtain ⟨file, record⟩ := not_or.mp keys
      exact .inl fun accessible => notTaken ⟨enabled, file, record, accessible enabled⟩
  · rintro (locked | ⟨enabled, keys⟩)
    · have enabled : fileSystem.lockingEnabled = true := by
        by_contra disabled
        exact locked fun enabled => absurd enabled disabled
      exact ⟨enabled, fun takes => locked fun _ => takes.free⟩
    · refine ⟨enabled, fun takes => ?_⟩
      rcases keys with file | record
      · exact takes.file file
      · exact takes.record record

variable {Rest : Type} {surroundings : Surroundings Rest}

/-- The conflicts of a reading are those of the file system. -/
theorem throwsConflict_backend_read {Result : Type} {program : FileM (Option Record)}
    {read : Record → Result} :
    (∃ error, (exec (inSurroundings do
        let record ← fileCall program
        return record.map read) surroundings).1 = .error error ∧
          error.isRecordLockConflict = true) ↔
      ThrowsConflict program surroundings.files := by
  rw [exec_backend_read]
  unfold ThrowsConflict
  cases (exec program surroundings.files).1 <;> simp [Except.map, Except.mapError]

/-- So are those of a writing. -/
theorem throwsConflict_backend_write {program : FileM Unit} :
    (∃ error, (exec (inSurroundings (fileCall program)) surroundings).1 = .error error ∧
        error.isRecordLockConflict = true) ↔
      ThrowsConflict program surroundings.files := by
  rw [exec_inSurroundings, exec_fileCall]
  unfold ThrowsConflict
  cases (exec program surroundings.files).1 <;> simp [Except.mapError]

end Throws

/-! ## Statements on records -/

/-- The statements on records without `ELSE`. -/
inductive RecordAccess where
  | read
  | readU
  | write
  | writeU
  | readV
  | writeV
deriving DecidableEq

namespace RecordAccess

/-- The instruction of a statement. -/
def op : RecordAccess → OpCode
  | .read => .readRec
  | .readU => .readRecU
  | .write => .writeRec
  | .writeU => .writeRecU
  | .readV => .readV
  | .writeV => .writeV

/-- The keyword of a statement. -/
def name : RecordAccess → String
  | .read => "READ"
  | .readU => "READU"
  | .write => "WRITE"
  | .writeU => "WRITEU"
  | .readV => "READV"
  | .writeV => "WRITEV"

/-- The statements that take a lock. -/
def forUpdate : RecordAccess → Bool
  | .readU | .writeU => true
  | _ => false

/-- The statements on one attribute. -/
def onAttribute : RecordAccess → Bool
  | .readV | .writeV => true
  | _ => false

/-- The value that names the record, among those that the instruction takes. -/
def recordId {Double : Type} : RecordAccess → List (Value Double) → Option (Value Double)
  | .read, id :: _ => some id
  | .readU, id :: _ => some id
  | .write, id :: _ :: _ => some id
  | .writeU, id :: _ :: _ => some id
  | .readV, _ :: _ :: id :: _ => some id
  | .writeV, _ :: _ :: id :: _ :: _ => some id
  | _, _ => none

end RecordAccess

section Hits

variable {Double Rest : Type} [Doubles Double]

/-- The instruction is a statement on a record of an open file. -/
structure Names (host : Host Double (Surroundings Rest)) (access : RecordAccess)
    (instr : Instruction Double) (memory : Memory Double (Surroundings Rest))
    (fileName recordName : String) : Prop where
  op : instr.op = access.op
  file : ∃ fileVar opened, instr.operand = .string fileVar ∧
    openedAt host (canonicalVariableName fileVar) memory.environment = some opened ∧
    opened.1.name = fileName
  record : ∃ id, access.recordId memory.stack = some id ∧ valueToString id = recordName

/-- The statement meets a record that another session has locked. A statement for update asks for
the lock first, the others look for the file and at the name of the record before. -/
structure Hits (fileSystem : FileSystem) (host : Host Double (Surroundings Rest))
    (access : RecordAccess) (instr : Instruction Double)
    (memory : Memory Double (Surroundings Rest)) (fileName recordName : String) : Prop
    extends Names host access instr memory fileName recordName where
  locked : ¬ Accessible fileSystem memory.environment.world.files fileName recordName
  reaches : access.forUpdate = false →
    Addresses fileSystem memory.environment.world.files fileName recordName

variable {fileSystem : FileSystem} {items : FieldItems} {host : Host Double (Surroundings Rest)}
  {instr : Instruction Double} {ip : Nat} {memory : Memory Double (Surroundings Rest)}

/-- A statement on a record has an operand that names its file. -/
theorem Names.unique {access other : RecordAccess} {fileName recordName : String}
    (names : Names host access instr memory fileName recordName)
    (isOther : instr.op = other.op) : other = access := by
  have same := names.op
  rw [isOther] at same
  cases other <;> cases access <;> first | rfl | cases same

/-- The record that an instruction names by its operand and its stack. -/
theorem names_iff {access : RecordAccess} (isOp : instr.op = access.op) {fileVar : String}
    (operand : instr.operand = .string fileVar)
    (bound : ∀ backend, host.fileSystem = some backend → backend = fileBackend fileSystem items)
    (holds : FileBackend (Surroundings Rest) → String → String → Prop) :
    (∃ fileName recordName, Names host access instr memory fileName recordName ∧
        holds (fileBackend fileSystem items) fileName recordName) ↔
      ∃ id, access.recordId memory.stack = some id ∧
        ∃ opened, openedAt host (canonicalVariableName fileVar) memory.environment = some opened ∧
          holds opened.2 opened.1.name (valueToString id) := by
  constructor
  · rintro ⟨_, _, ⟨_, ⟨other, opened, isOther, known, rfl⟩, ⟨id, isId, rfl⟩⟩, does⟩
    rw [operand] at isOther
    cases isOther
    refine ⟨id, isId, opened, known, ?_⟩
    rw [backend_of_opened bound known]
    exact does
  · rintro ⟨id, isId, opened, known, does⟩
    rw [backend_of_opened bound known] at does
    exact ⟨_, _, ⟨isOp, ⟨fileVar, opened, operand, known, rfl⟩, ⟨id, isId, rfl⟩⟩, does⟩

/-- An instruction without a name for its operand names no record. -/
theorem not_names_of_operand {access : RecordAccess} {fileName recordName : String}
    (other : ∀ fileVar, instr.operand ≠ .string fileVar) :
    ¬ Names host access instr memory fileName recordName := by
  rintro ⟨_, ⟨fileVar, _, operand, _⟩, _⟩
  exact other fileVar operand

omit [Doubles Double] in
/-- An operand is a text or not. -/
theorem stringOperand_cases (instr : Instruction Double) :
    (∃ text, instr.operand = .string text) ∨ ∀ text, instr.operand ≠ .string text := by
  cases operand : instr.operand with
  | string text => exact .inl ⟨text, rfl⟩
  | int _ => exact .inr nofun
  | double _ => exact .inr nofun

omit [Doubles Double] in
/-- An instruction without a name operand fails. -/
theorem nameOperand_fails (other : ∀ text, instr.operand ≠ .string text) (ip : Nat) :
    ∃ fault, (nameOperandAtIp instr ip : MemoryM Double (Surroundings Rest) String) =
      throw fault := by
  unfold nameOperandAtIp stringOperandAtIp
  split
  · exact absurd ‹_› (other _)
  · exact ⟨_, rfl⟩

/-- `READ` and `READU` meet a conflict exactly when their call throws one. -/
theorem readRecord_meets {access : RecordAccess} (isOp : instr.op = access.op)
    (bound : ∀ backend, host.fileSystem = some backend → backend = fileBackend fileSystem items)
    {op : String} {read : ReadCall (Surroundings Rest)}
    (first : ∀ stack : List (Value Double), access.recordId stack = stack.head?) :
    (∃ after, exec (readRecord host op read instr ip) memory = (.ok true, after)) ↔
      ∃ fileName recordName, Names host access instr memory fileName recordName ∧
        ∃ error, (exec (read (fileBackend fileSystem items) fileName recordName)
          memory.environment.world).1 = .error error ∧ error.isRecordLockConflict = true := by
  rcases stringOperand_cases instr with ⟨fileVar, operand⟩ | other
  · rw [readRecord_conflict_iff operand,
      names_iff isOp operand bound fun backend fileName recordName =>
        ∃ error, (exec (read backend fileName recordName) memory.environment.world).1 =
          .error error ∧ error.isRecordLockConflict = true]
    simp only [first]
    cases memory.stack <;> simp
  · refine iff_of_false ?_ ?_
    · obtain ⟨fault, fails⟩ := @nameOperand_fails _ Rest instr other ip
      rintro ⟨after, done⟩
      rw [readRecord, fails] at done
      cases congrArg Prod.fst done
    · rintro ⟨_, _, names, _⟩
      exact not_names_of_operand other names

/-- `WRITE` and `WRITEU` meet a conflict exactly when their call throws one. -/
theorem writeRecord_meets {access : RecordAccess} (isOp : instr.op = access.op)
    (bound : ∀ backend, host.fileSystem = some backend → backend = fileBackend fileSystem items)
    {op : String} {write : WriteCall (Surroundings Rest)} {throws : String → String → Prop}
    (second : ∀ (id value : Value Double) rest, access.recordId (id :: value :: rest) = some id)
    (short : access.recordId ([] : List (Value Double)) = none ∧
      ∀ id : Value Double, access.recordId [id] = none)
    (calls : ∀ fileName recordName value, (∃ error,
      (exec (write (fileBackend fileSystem items) fileName recordName value)
        memory.environment.world).1 = .error error ∧ error.isRecordLockConflict = true) ↔
          throws fileName recordName) :
    (∃ after, exec (writeRecord host op write instr ip) memory = (.ok true, after)) ↔
      ∃ fileName recordName, Names host access instr memory fileName recordName ∧
        throws fileName recordName := by
  rcases stringOperand_cases instr with ⟨fileVar, operand⟩ | other
  · rw [writeRecord_conflict_iff operand,
      names_iff isOp operand bound fun _ fileName recordName => throws fileName recordName]
    match stacked : memory.stack with
    | [] => simp [short.1]
    | [id] => simp [short.2]
    | id :: value :: rest =>
        simp only [second, List.cons.injEq, Option.some.injEq, exists_and_left, and_assoc,
          exists_eq_left']
        refine exists_congr fun opened => and_congr_right fun known => ?_
        rw [backend_of_opened bound known]
        exact calls _ _ _
  · refine iff_of_false ?_ ?_
    · obtain ⟨fault, fails⟩ := @nameOperand_fails _ Rest instr other ip
      rintro ⟨after, done⟩
      rw [writeRecord, fails] at done
      cases congrArg Prod.fst done
    · rintro ⟨_, _, names, _⟩
      exact not_names_of_operand other names

/-- What the file system throws at a statement on a whole record. -/
def Throws (fileSystem : FileSystem) (access : RecordAccess) (files : World)
    (fileName recordName : String) : Prop :=
  if access.forUpdate then Refused fileSystem files fileName recordName
  else Addresses fileSystem files fileName recordName ∧
    ¬ Accessible fileSystem files fileName recordName

/-- A statement on a whole record looks at the handler when the file system throws a conflict. -/
theorem execute_orConflict {access : RecordAccess} (isOp : instr.op = access.op)
    (whole : access.onAttribute = false)
    (bound : ∀ backend, host.fileSystem = some backend → backend = fileBackend fileSystem items)
    (faithful : memory.environment.world.files.faults = []) (ip : Nat) :
    ∃ locked, execute host instr ip = orConflict access.name locked ∧
      ((∃ after, exec locked memory = (.ok true, after)) ↔
        ∃ fileName recordName, Names host access instr memory fileName recordName ∧
          Throws fileSystem access memory.environment.world.files fileName recordName) := by
  cases access with
  | read =>
      refine ⟨readRecord host "READ" FileBackend.read instr ip, ?_, ?_⟩
      · unfold execute
        rw [isOp]
        rfl
      · rw [readRecord_meets isOp bound fun stack => by cases stack <;> rfl]
        refine exists₂_congr fun fileName recordName => and_congr_right fun _ => ?_
        exact throwsConflict_backend_read.trans (throwsConflict_read faithful)
  | readU =>
      refine ⟨readRecord host "READU" FileBackend.readU instr ip, ?_, ?_⟩
      · unfold execute
        rw [isOp]
        rfl
      · rw [readRecord_meets isOp bound fun stack => by cases stack <;> rfl]
        refine exists₂_congr fun fileName recordName => and_congr_right fun _ => ?_
        exact throwsConflict_backend_read.trans (throwsConflict_readU faithful)
  | write =>
      refine ⟨writeRecord host "WRITE" FileBackend.write instr ip, ?_, ?_⟩
      · unfold execute
        rw [isOp]
        rfl
      · exact writeRecord_meets isOp bound (fun _ _ _ => rfl) ⟨rfl, fun _ => rfl⟩
          fun _ _ _ => throwsConflict_backend_write.trans (throwsConflict_write faithful)
  | writeU =>
      refine ⟨writeRecord host "WRITEU" FileBackend.writeU instr ip, ?_, ?_⟩
      · unfold execute
        rw [isOp]
        rfl
      · exact writeRecord_meets isOp bound (fun _ _ _ => rfl) ⟨rfl, fun _ => rfl⟩
          fun _ _ _ => throwsConflict_backend_write.trans (throwsConflict_writeU faithful)
  | readV => cases whole
  | writeV => cases whole

/-! ## Statements on attributes -/

omit [Doubles Double] in
/-- An error of the files is an exception with its text. -/
theorem exec_callFiles_of_error {Result : Type} {call : Program (Surroundings Rest) FileError Result}
    {environment : Environment Double (Surroundings Rest)} {error : FileError}
    (failed : (exec call environment.world).1 = .error error) :
    (exec (callFiles call) environment).1 = .error (.exception error.what) := by
  rw [exec_callFiles, failed]
  rfl

/-- A value is not fetched when the read fails. -/
theorem fetchValue_of_error {environment : Environment Double (Surroundings Rest)}
    {fileVar id : String} {attrSlot : Value Double} {valueIndex : Int}
    {opened : FileHandle × FileBackend (Surroundings Rest)} {error : FileError}
    (known : openedAt host fileVar environment = some opened)
    (failed : (exec (opened.2.read opened.1.name id) environment.world).1 = .error error) :
    (exec (fetchValue host fileVar id attrSlot valueIndex) environment).1 =
      .error (.exception error.what) := by
  unfold fetchValue
  rw [exec_bind, exec_requireOpenFile_of_opened known]
  exact exec_bind_of_error (exec_callFiles_of_error failed)

omit [Doubles Double] in
/-- Nor is it put when the write fails. -/
theorem putValue_of_error {environment : Environment Double (Surroundings Rest)}
    {fileVar id value : String} {attrNo valueIndex : Int}
    {opened : FileHandle × FileBackend (Surroundings Rest)} {error : FileError}
    (known : openedAt host fileVar environment = some opened)
    (failed : (exec (writeValue opened.2 opened.1.name id attrNo valueIndex value)
      environment.world).1 = .error error) :
    (exec (putValue host fileVar id attrNo valueIndex value) environment).1 =
      .error (.exception error.what) := by
  unfold putValue
  rw [exec_bind, exec_requireOpenFile_of_opened known]
  exact exec_bind_of_error (exec_callFiles_of_error failed)

/-- A write to an attribute reads the record first, and throws what the reading throws. -/
theorem writeValue_of_error {world : Surroundings Rest} {fileName recordName value what : String}
    {attrNo valueIndex : Int}
    (failed : (exec (fileSystem.read fileName recordName) world.files).1 = .error what) :
    (exec (writeValue (fileBackend fileSystem items) fileName recordName attrNo valueIndex value)
      world).1 = .error (.fileSystem what) := by
  have thrown {next : Option Record → FileM Unit} :
      (exec (inSurroundings (fileCall (fileSystem.read fileName recordName >>= next))) world).1 =
        .error (.fileSystem what) := by
    rw [exec_inSurroundings, exec_fileCall]
    dsimp only
    rw [exec_bind_of_error failed]
    rfl
  unfold writeValue
  split
  · change (exec (inSurroundings (fileCall (fileSystem.writeSubvalue _ _ _ _ _))) world).1 = _
    unfold FileSystem.writeSubvalue
    rw [if_neg (by omega)]
    exact thrown
  · exact thrown

omit [Doubles Double] in
/-- An error in the environment is an error of the machine. -/
theorem exec_onEnvironment_of_error {Result : Type}
    {code : EnvironmentM Double (Surroundings Rest) Result} {stack : List (Value Double)}
    {environment : Environment Double (Surroundings Rest)} {fault : Fault}
    (failed : (exec code environment).1 = .error fault) :
    (exec (onEnvironment code) { stack, environment }).1 = .error fault := by
  rw [exec_onEnvironment]
  exact failed

omit [Doubles Double] in
/-- Nothing follows a failure. -/
theorem exec_andNext_of_error {code : MemoryM Double (Surroundings Rest) Unit}
    {machine : Machine Double (Surroundings Rest)} {fault : Fault}
    (failed : (exec code machine.memory).1 = .error fault) :
    (exec (andNext code) machine).1 = .error fault := by
  rw [andNext]
  refine exec_bind_of_error ?_
  rw [onMemory, exec_zoom]
  exact failed

/-- `READV` and `WRITEV` do not catch a conflict. -/
theorem execute_onAttribute {access : RecordAccess} (onAttribute : access.onAttribute = true)
    (bound : ∀ backend, host.fileSystem = some backend → backend = fileBackend fileSystem items)
    {machine : Machine Double (Surroundings Rest)}
    (faithful : machine.memory.environment.world.files.faults = [])
    {fileName recordName : String}
    (hits : Hits fileSystem host access instr machine.memory fileName recordName) (ip : Nat) :
    ∃ what, (exec (execute host instr ip) machine).1 = .error (.exception what) := by
  obtain ⟨⟨isOp, ⟨fileVar, opened, operand, known, rfl⟩, ⟨id, isId, rfl⟩⟩, locked, reaches⟩ := hits
  obtain ⟨what, failed, _⟩ := (throwsConflict_read faithful).mpr
    ⟨reaches (by cases access <;> first | rfl | cases onAttribute), locked⟩
  have backend := backend_of_opened bound known
  obtain ⟨pointer, callStack, forStack, onErrorIp, ⟨stack, environment⟩⟩ := machine
  obtain ⟨opCode, _, call⟩ := instr
  dsimp only at *
  subst operand
  subst isOp
  cases access with
  | readV =>
      match stack, isId with
      | valueIndex :: attrSlot :: id :: rest, rfl =>
          have read : (exec (opened.2.read opened.1.name (valueToString id)) environment.world).1 =
              .error (.fileSystem what) := by
            rw [backend, exec_read_backend faithful, failed]
            rfl
          refine ⟨what, exec_andNext_of_error ?_⟩
          change (exec (pushFrom (fetchValue host (canonicalVariableName fileVar) (valueToString id)
            attrSlot (coerceToInt valueIndex))) { stack := rest, environment }).1 = _
          exact exec_bind_of_error
            (exec_onEnvironment_of_error (fetchValue_of_error known read))
  | writeV =>
      match stack, isId with
      | valueIndex :: attrNo :: id :: value :: rest, rfl =>
          have written : (exec (writeValue opened.2 opened.1.name (valueToString id)
              (coerceToInt attrNo) (coerceToInt valueIndex) (valueToString value))
              environment.world).1 = .error (.fileSystem what) := by
            rw [backend]
            exact writeValue_of_error failed
          refine ⟨what, exec_andNext_of_error ?_⟩
          change (exec (onEnvironment (putValue host (canonicalVariableName fileVar)
            (valueToString id) (coerceToInt attrNo) (coerceToInt valueIndex) (valueToString value)))
            { stack := rest, environment }).1 = _
          exact exec_onEnvironment_of_error (putValue_of_error known written)
  | _ => cases onAttribute

end Hits

/-! ## Runs -/

section Runs

variable {Double Rest : Type} [Doubles Double]

/-- A machine in a run of a program, and the line that the last `ON ERROR` has named. -/
structure ErrorRun (Double Rest : Type) where
  machine : Machine Double (Surroundings Rest)
  named : Option Int := none

/-- A turn of a run: an instruction, or something that others do to the surroundings. -/
inductive Turn (Rest : Type) where
  | instruction
  | others (world : Surroundings Rest)

/-- The machine in other surroundings. -/
def withWorld (machine : Machine Double (Surroundings Rest)) (world : Surroundings Rest) :
    Machine Double (Surroundings Rest) :=
  { machine with memory := { machine.memory with
      environment := { machine.memory.environment with world } } }

/-- One turn. An instruction that throws ends the run. -/
def errorStep (host : Host Double (Surroundings Rest)) (lines : List (BasicLine Double))
    (program : List (Instruction Double)) (state : ErrorRun Double Rest) :
    Turn Rest → Option (ErrorRun Double Rest)
  | .instruction =>
      (stepState host program state.machine ()).map fun machine =>
        { machine, named := (onErrorAt lines state.machine.ip).getD state.named }
  | .others world => some { state with machine := withWorld state.machine world }

/-- A conflict is handled: `STATUS` is 1, and the run goes on at the line that is named, or fails
where none is. -/
def Handled (host : Host Double (Surroundings Rest)) (lines : List (BasicLine Double))
    (program : List (Instruction Double)) (state : ErrorRun Double Rest) (statement : String) :
    Prop :=
  match state.named with
  | some line =>
      ∃ start more after, targetOf lines line = some start ∧
        exec (step host program) state.machine = (.ok more, after) ∧ after.ip = start ∧
        after.memory.environment.statusCode = 1
  | none =>
      ∃ after, exec (step host program) state.machine =
          (.error (makeIoError statement .recordLocked ""), after) ∧
        after.memory.environment.statusCode = 1

/-- The next instruction is a statement on a record, which it finds locked. -/
def FindsLocked (fileSystem : FileSystem) (host : Host Double (Surroundings Rest))
    (program : List (Instruction Double)) (machine : Machine Double (Surroundings Rest))
    (access : RecordAccess) : Prop :=
  ∃ instr fileName recordName, program[machine.ip]? = some instr ∧
    Hits fileSystem host access instr machine.memory fileName recordName

/-- Lock conflicts are handled alike, and nothing else looks at the handler. -/
structure Uniform (fileSystem : FileSystem) (host : Host Double (Surroundings Rest))
    (lines : List (BasicLine Double)) (program : List (Instruction Double))
    (state : ErrorRun Double Rest) : Prop where
  locked : ∀ access, FindsLocked fileSystem host program state.machine access →
    Handled host lines program state access.name
  other : (∀ access, ¬ FindsLocked fileSystem host program state.machine access) →
    ∀ instr, program[state.machine.ip]? = some instr → instr.op ≠ .setOnErrorHandler →
      Blind host instr state.machine.ip state.machine

/-- What the next instruction must not do: find the record of a `READV` or `WRITEV` locked, find
one locked while the handler is the start of the program, or ask for a lock without a name. -/
structure Regular (fileSystem : FileSystem) (host : Host Double (Surroundings Rest))
    (lines : List (BasicLine Double)) (program : List (Instruction Double))
    (state : ErrorRun Double Rest) : Prop where
  whole : ∀ access, FindsLocked fileSystem host program state.machine access →
    access.onAttribute = false
  line : ∀ access, FindsLocked fileSystem host program state.machine access →
    ∀ line, state.named = some line → targetOf lines line ≠ some 0
  names : fileSystem.lockingEnabled = true → ∀ instr access fileName recordName,
    program[state.machine.ip]? = some instr → access.forUpdate = true →
    Names host access instr state.machine.memory fileName recordName →
    fileName ≠ "" ∧ recordName ≠ ""

/-- The handler of the machine is the start of the line that is named, unless that is 0. -/
def HandlerOf (lines : List (BasicLine Double)) (state : ErrorRun Double Rest) : Prop :=
  match state.named with
  | none => state.machine.onErrorIp = none
  | some line =>
      ∃ start, targetOf lines line = some start ∧
        state.machine.onErrorIp = if start = 0 then none else some start

variable {fileSystem : FileSystem} {items : FieldItems} {host : Host Double (Surroundings Rest)}
  {lines : List (BasicLine Double)} {state next : ErrorRun Double Rest}

omit [Doubles Double] in
/-- The line that an `ON ERROR` names is a line of the program. -/
theorem targetOf_onError (known : TargetsKnown lines) {ip : Nat} {line : Int}
    (found : onErrorAt lines ip = some (some line)) :
    ∃ start, targetOf lines line = some start ∧ resolvedTarget lines line = start := by
  obtain ⟨position, owner, isLine, -, statement⟩ := Basic.onErrorAt_eq_some found
  have refers : line ∈ owner.statement.lineTargets := by
    rw [statement]
    exact List.mem_singleton.mpr rfl
  have isThere := known owner (List.mem_of_getElem? isLine) line refers
  obtain ⟨place, isPlace⟩ := Option.isSome_iff_exists.mp (Basic.linePosition_isSome isThere)
  have target : targetOf lines line = some (Basic.lineStart lines place) := by
    rw [targetOf, isPlace]
    rfl
  exact ⟨_, target, by rw [resolvedTarget, target]; rfl⟩

/-- What the instruction of an `ON ERROR` sets the handler to. -/
theorem onErrorIp_set (known : TargetsKnown lines) {ip : Nat} {targetLine : Option Int}
    (found : onErrorAt lines ip = some targetLine)
    (machine : Machine Double (Surroundings Rest)) :
    HandlerOf lines
      { machine := (exec (execute host (onErrorInstr (resolvedTarget lines) targetLine) ip)
          machine).2
        named := targetLine : ErrorRun Double Rest } := by
  cases targetLine with
  | none => rfl
  | some line =>
      obtain ⟨start, target, resolved⟩ := targetOf_onError known found
      refine ⟨start, target, ?_⟩
      change (if ((resolvedTarget lines line : Int)) ≤ 0 then none
        else some (resolvedTarget lines line : Int).toNat) = _
      rw [resolved]
      cases start with
      | zero => rfl
      | succ start => rw [if_neg (by omega), if_neg (by omega)]; rfl

/-- A step keeps the handler on a line of the program. -/
theorem handlerOf_step (known : TargetsKnown lines) (accepted : ∀ line ∈ lines, line.Accepted)
    {turn : Turn Rest} (holds : HandlerOf lines state)
    (stepped : errorStep host lines (assembled lines).program state turn = some next) :
    HandlerOf lines next := by
  cases turn with
  | others world =>
      cases stepped
      exact holds
  | instruction =>
      obtain ⟨machine, moved, rfl⟩ := Option.map_eq_some_iff.mp stepped
      unfold stepState at moved
      rw [exec_step] at moved
      cases found : (assembled lines).program[state.machine.ip]? with
      | none =>
          have notSet : onErrorAt lines state.machine.ip = none := by
            rw [Option.eq_none_iff_forall_ne_some]
            intro targetLine isSet
            rw [Basic.instr_of_onErrorAt isSet] at found
            cases found
          rw [found] at moved
          cases moved
          rw [notSet]
          exact holds
      | some instr =>
          rw [found] at moved
          dsimp only at moved
          rcases done : exec (execute host instr state.machine.ip) state.machine
            with ⟨fault | flow, after⟩
          · rw [done] at moved
            cases moved
          · rw [done] at moved
            cases moved
            by_cases sets : instr.op = .setOnErrorHandler
            · obtain ⟨targetLine, isSet⟩ := Basic.onErrorAt_of_instr accepted found sets
              rw [Basic.instr_of_onErrorAt isSet] at found
              cases found
              have handler := @onErrorIp_set _ Rest _ host lines known _ _ isSet state.machine
              rw [done] at handler
              rw [isSet]
              exact handler
            · have notSet : onErrorAt lines state.machine.ip = none := by
                rw [Option.eq_none_iff_forall_ne_some]
                intro targetLine isSet
                rw [Basic.instr_of_onErrorAt isSet] at found
                cases found
                exact sets rfl
              have same := onErrorIp_execute host sets state.machine.ip state.machine
              rw [done] at same
              rw [notSet]
              unfold HandlerOf at holds ⊢
              dsimp only [Option.getD_none] at same ⊢
              rw [same]
              exact holds

/-! ## When conflicts are handled alike -/

section Handled

variable {program : List (Instruction Double)} {instr : Instruction Double} {access : RecordAccess}

/-- A conflict that the instruction meets is handled unless the line that is named starts at 0,
which the machine takes for no handler. -/
theorem handled_iff (holds : HandlerOf lines state)
    (found : program[state.machine.ip]? = some instr) {locked : MemoryM Double (Surroundings Rest) Bool}
    {statement : String}
    (executes : execute host instr state.machine.ip = orConflict statement locked)
    {after : Memory Double (Surroundings Rest)}
    (conflict : exec locked state.machine.memory = (.ok true, after)) :
    Handled host lines program state statement ↔
      ∀ line, state.named = some line → targetOf lines line ≠ some 0 := by
  have executed := @exec_orConflict_of_conflict _ _ statement locked state.machine after conflict
  unfold Handled
  rw [exec_step, found]
  dsimp only
  rw [executes, executed]
  unfold HandlerOf at holds
  cases named : state.named with
  | none =>
      rw [named] at holds
      dsimp only at holds
      rw [holds]
      simp [conflicted, kStatusRecordLocked]
  | some line =>
      rw [named] at holds
      obtain ⟨start, target, handler⟩ := holds
      rw [handler]
      cases start with
      | zero => simp [target]
      | succ start => simp [target, conflicted, kStatusRecordLocked, Flow.land]

/-- An instruction that meets a conflict looks at the handler. -/
theorem not_blind_of_conflict {locked : MemoryM Double (Surroundings Rest) Bool}
    {statement : String} {ip : Nat} {machine : Machine Double (Surroundings Rest)}
    (executes : execute host instr ip = orConflict statement locked)
    {after : Memory Double (Surroundings Rest)}
    (conflict : exec locked machine.memory = (.ok true, after)) :
    ¬ Blind host instr ip machine := by
  intro blind
  have without := blind none
  have handled := blind (some 0)
  rw [executes] at without handled
  rw [@exec_orConflict_of_conflict _ _ statement locked (withHandler none machine) after conflict]
    at without
  rw [@exec_orConflict_of_conflict _ _ statement locked (withHandler (some 0) machine) after
    conflict] at handled
  have same := (congrArg Prod.fst without).trans (congrArg Prod.fst handled).symm
  cases same

/-- A statement names one record. -/
theorem Names.same {fileName recordName otherFile otherRecord : String}
    {memory : Memory Double (Surroundings Rest)}
    (names : Names host access instr memory fileName recordName)
    (others : Names host access instr memory otherFile otherRecord) :
    fileName = otherFile ∧ recordName = otherRecord := by
  obtain ⟨_, ⟨fileVar, opened, operand, known, rfl⟩, ⟨id, isId, rfl⟩⟩ := names
  obtain ⟨_, ⟨otherVar, otherOpened, otherOperand, otherKnown, rfl⟩, ⟨otherId, isOther, rfl⟩⟩ := others
  rw [operand] at otherOperand
  cases otherOperand
  rw [known] at otherKnown
  cases otherKnown
  rw [isId] at isOther
  cases isOther
  exact ⟨rfl, rfl⟩

/-- A record that is locked has a name, and so has its file. -/
theorem names_of_locked {files : World} {fileName recordName : String}
    (locked : ¬ Accessible fileSystem files fileName recordName) :
    fileName ≠ "" ∧ recordName ≠ "" := by
  by_contra unnamed
  refine locked fun _ entry found => ?_
  rw [Locking.LockTable.lookup_invalid unnamed] at found
  cases found

/-- A statement that is about to be executed finds a lock in one way. -/
theorem findsLocked_iff (found : program[state.machine.ip]? = some instr)
    (isOp : instr.op = access.op) {other : RecordAccess} :
    FindsLocked fileSystem host program state.machine other ↔
      other = access ∧ ∃ fileName recordName,
        Hits fileSystem host access instr state.machine.memory fileName recordName := by
  constructor
  · rintro ⟨isInstr, fileName, recordName, isFound, hits⟩
    rw [found] at isFound
    cases isFound
    obtain rfl := hits.toNames.unique isOp
    exact ⟨rfl, fileName, recordName, hits⟩
  · rintro ⟨rfl, fileName, recordName, hits⟩
    exact ⟨instr, fileName, recordName, found, hits⟩

/-- A statement on a whole record meets a conflict when it finds the record locked, or asks for a
lock without a name. -/
theorem meets_iff {memory : Memory Double (Surroundings Rest)} :
    (∃ fileName recordName, Names host access instr memory fileName recordName ∧
        Throws fileSystem access memory.environment.world.files fileName recordName) ↔
      (∃ fileName recordName, Hits fileSystem host access instr memory fileName recordName) ∨
        fileSystem.lockingEnabled = true ∧ access.forUpdate = true ∧ ∃ fileName recordName,
          Names host access instr memory fileName recordName ∧
            ¬ (fileName ≠ "" ∧ recordName ≠ "") := by
  unfold Throws
  cases update : access.forUpdate with
  | false =>
      simp only [Bool.false_eq_true, if_false, false_and, and_false, or_false]
      constructor
      · rintro ⟨fileName, recordName, names, reaches, locked⟩
        exact ⟨fileName, recordName, names, locked, fun _ => reaches⟩
      · rintro ⟨fileName, recordName, hits⟩
        exact ⟨fileName, recordName, hits.toNames, hits.reaches update, hits.locked⟩
  | true =>
      simp only [if_true, refused_iff, true_and]
      constructor
      · rintro ⟨fileName, recordName, names, locked | ⟨enabled, unnamed⟩⟩
        · refine .inl ⟨fileName, recordName, names, locked, fun plain => ?_⟩
          rw [update] at plain
          cases plain
        · exact .inr ⟨enabled, fileName, recordName, names, by tauto⟩
      · rintro (⟨fileName, recordName, hits⟩ | ⟨enabled, fileName, recordName, names, unnamed⟩)
        · exact ⟨fileName, recordName, hits.toNames, .inl hits.locked⟩
        · exact ⟨fileName, recordName, names, .inr ⟨enabled, by tauto⟩⟩

/-- An instruction on no record is regular and handles what it finds alike. -/
theorem uniform_of_other (found : program[state.machine.ip]? = some instr)
    (other : ∀ access : RecordAccess, instr.op ≠ access.op) :
    Uniform fileSystem host lines program state ∧ Regular fileSystem host lines program state := by
  have notFound : ∀ access, ¬ FindsLocked fileSystem host program state.machine access := by
    rintro access ⟨isInstr, _, _, isFound, hits⟩
    rw [found] at isFound
    cases isFound
    exact other access hits.op
  refine ⟨⟨fun access finds => absurd finds (notFound access), fun _ isInstr isFound notSet => ?_⟩,
    ⟨fun access finds => absurd finds (notFound access),
      fun access finds => absurd finds (notFound access), ?_⟩⟩
  · rw [found] at isFound
    cases isFound
    refine blind_of_other host ?_ notSet _ _
    cases op : instr.op with
    | readRec => exact absurd op (other .read)
    | readRecU => exact absurd op (other .readU)
    | writeRec => exact absurd op (other .write)
    | writeRecU => exact absurd op (other .writeU)
    | _ => rfl
  · rintro _ isInstr access _ _ isFound _ names
    rw [found] at isFound
    cases isFound
    exact absurd names.op (other access)

/-- A conflict of `READV` or `WRITEV` is not handled. -/
theorem not_handled_of_onAttribute (onAttribute : access.onAttribute = true)
    (bound : ∀ backend, host.fileSystem = some backend → backend = fileBackend fileSystem items)
    (faithful : state.machine.memory.environment.world.files.faults = [])
    (found : program[state.machine.ip]? = some instr) {fileName recordName : String}
    (hits : Hits fileSystem host access instr state.machine.memory fileName recordName) :
    ¬ Handled host lines program state access.name := by
  obtain ⟨what, thrown⟩ := execute_onAttribute onAttribute bound faithful hits state.machine.ip
  have failed : (exec (step host program) state.machine).1 = .error (.exception what) := by
    rw [exec_step, found]
    dsimp only
    rcases done : exec (execute host instr state.machine.ip) state.machine with ⟨fault | flow, after⟩
    · rw [done] at thrown
      exact congrArg Except.error (Except.error.inj thrown)
    · rw [done] at thrown
      cases thrown
  unfold Handled
  split
  · rintro ⟨_, _, _, -, done, -⟩
    rw [done] at failed
    cases failed
  · rintro ⟨_, done, -⟩
    rw [done] at failed
    cases failed

/-- A statement on an attribute handles what it finds alike unless it finds its record locked. -/
theorem uniform_iff_regular_of_onAttribute (onAttribute : access.onAttribute = true)
    (bound : ∀ backend, host.fileSystem = some backend → backend = fileBackend fileSystem items)
    (faithful : state.machine.memory.environment.world.files.faults = [])
    (found : program[state.machine.ip]? = some instr) (isOp : instr.op = access.op) :
    Uniform fileSystem host lines program state ↔ Regular fileSystem host lines program state := by
  by_cases hit : ∃ fileName recordName,
      Hits fileSystem host access instr state.machine.memory fileName recordName
  · have finds : FindsLocked fileSystem host program state.machine access :=
      (findsLocked_iff found isOp).mpr ⟨rfl, hit⟩
    obtain ⟨fileName, recordName, hits⟩ := hit
    refine iff_of_false (fun uniform => ?_) fun regular => ?_
    · exact not_handled_of_onAttribute onAttribute bound faithful found hits
        (uniform.locked access finds)
    · have whole := regular.whole access finds
      rw [onAttribute] at whole
      cases whole
  · have notFound : ∀ other, ¬ FindsLocked fileSystem host program state.machine other :=
      fun other finds => hit ((findsLocked_iff found isOp).mp finds).2
    refine iff_of_true
      ⟨fun other finds => absurd finds (notFound other), fun _ isInstr isFound notSet => ?_⟩
      ⟨fun other finds => absurd finds (notFound other),
        fun other finds => absurd finds (notFound other), ?_⟩
    · rw [found] at isFound
      cases isFound
      refine blind_of_other host ?_ notSet _ _
      rw [isOp]
      cases access <;> first | rfl | cases onAttribute
    · rintro _ isInstr other _ _ isFound update names
      rw [found] at isFound
      cases isFound
      obtain rfl := names.unique isOp
      cases access <;> first | (cases update; done) | cases onAttribute

/-- A statement on a whole record handles what it finds alike unless the handler starts the program
or it asks for a lock without a name. -/
theorem uniform_iff_regular_of_whole (holds : HandlerOf lines state)
    (whole : access.onAttribute = false)
    (bound : ∀ backend, host.fileSystem = some backend → backend = fileBackend fileSystem items)
    (faithful : state.machine.memory.environment.world.files.faults = [])
    (found : program[state.machine.ip]? = some instr) (isOp : instr.op = access.op) :
    Uniform fileSystem host lines program state ↔ Regular fileSystem host lines program state := by
  obtain ⟨locked, executes, meets⟩ := execute_orConflict isOp whole bound faithful state.machine.ip
  rw [meets_iff] at meets
  have namesOf {isInstr : Instruction Double} {other : RecordAccess} {fileName recordName : String}
      (isFound : program[state.machine.ip]? = some isInstr)
      (names : Names host other isInstr state.machine.memory fileName recordName) :
      Names host access instr state.machine.memory fileName recordName := by
    rw [found] at isFound
    cases isFound
    obtain rfl := names.unique isOp
    exact names
  by_cases hit : ∃ fileName recordName,
      Hits fileSystem host access instr state.machine.memory fileName recordName
  · have finds : FindsLocked fileSystem host program state.machine access :=
      (findsLocked_iff found isOp).mpr ⟨rfl, hit⟩
    obtain ⟨after, conflict⟩ := meets.mpr (.inl hit)
    have handled := handled_iff holds found executes conflict
    obtain ⟨fileName, recordName, hits⟩ := hit
    constructor
    · intro uniform
      refine ⟨fun other isFinds => ?_, fun _ _ => handled.mp (uniform.locked access finds), ?_⟩
      · rw [((findsLocked_iff found isOp).mp isFinds).1]
        exact whole
      · intro _ isInstr other otherFile otherRecord isFound _ names
        obtain ⟨rfl, rfl⟩ := (namesOf isFound names).same hits.toNames
        exact names_of_locked hits.locked
    · intro regular
      refine ⟨fun other isFinds => ?_, fun none => absurd finds (none access)⟩
      rw [((findsLocked_iff found isOp).mp isFinds).1]
      exact handled.mpr (regular.line access finds)
  · have notFound : ∀ other, ¬ FindsLocked fileSystem host program state.machine other :=
      fun other finds => hit ((findsLocked_iff found isOp).mp finds).2
    by_cases unnamed : fileSystem.lockingEnabled = true ∧ access.forUpdate = true ∧
        ∃ fileName recordName, Names host access instr state.machine.memory fileName recordName ∧
          ¬ (fileName ≠ "" ∧ recordName ≠ "")
    · obtain ⟨after, conflict⟩ := meets.mpr (.inr unnamed)
      obtain ⟨enabled, update, fileName, recordName, names, unnamed⟩ := unnamed
      refine iff_of_false (fun uniform => ?_) fun regular => ?_
      · refine not_blind_of_conflict executes conflict (uniform.other notFound instr found ?_)
        rw [isOp]
        cases access <;> nofun
      · exact unnamed (regular.names enabled instr access fileName recordName found update names)
    · refine iff_of_true
        ⟨fun other finds => absurd finds (notFound other), fun _ isInstr isFound _ => ?_⟩
        ⟨fun other finds => absurd finds (notFound other),
          fun other finds => absurd finds (notFound other), ?_⟩
      · rw [found] at isFound
        cases isFound
        intro handler
        rw [executes]
        refine exec_orConflict_of_none (fun after conflict => ?_) handler
        exact (meets.mp ⟨after, conflict⟩).elim hit unnamed
      · intro enabled isInstr other fileName recordName isFound update names
        have isAccess := namesOf isFound names
        rw [found] at isFound
        cases isFound
        obtain rfl := names.unique isOp
        by_contra noName
        exact unnamed ⟨enabled, update, fileName, recordName, names, noName⟩

/-- Conflicts are handled alike exactly in the regular states. -/
theorem uniform_iff_regular (holds : HandlerOf lines state)
    (bound : ∀ backend, host.fileSystem = some backend → backend = fileBackend fileSystem items)
    (faithful : state.machine.memory.environment.world.files.faults = []) :
    Uniform fileSystem host lines program state ↔ Regular fileSystem host lines program state := by
  cases found : program[state.machine.ip]? with
  | none =>
      have notFound : ∀ access, ¬ FindsLocked fileSystem host program state.machine access := by
        rintro access ⟨_, _, _, isFound, _⟩
        rw [found] at isFound
        cases isFound
      refine iff_of_true
        ⟨fun access finds => absurd finds (notFound access), fun _ isInstr isFound => ?_⟩
        ⟨fun access finds => absurd finds (notFound access),
          fun access finds => absurd finds (notFound access), fun _ isInstr _ _ _ isFound => ?_⟩
      · rw [found] at isFound
        cases isFound
      · rw [found] at isFound
        cases isFound
  | some instr =>
      by_cases isAccess : ∃ access : RecordAccess, instr.op = access.op
      · obtain ⟨access, isOp⟩ := isAccess
        cases onAttribute : access.onAttribute with
        | true => exact uniform_iff_regular_of_onAttribute onAttribute bound faithful found isOp
        | false => exact uniform_iff_regular_of_whole holds onAttribute bound faithful found isOp
      · have both := @uniform_of_other _ _ _ fileSystem host lines state program instr found
          fun access isOp => isAccess ⟨access, isOp⟩
        exact iff_of_true both.1 both.2

end Handled

/-- In every state of every run of a compiled program, whatever the other sessions do: on a host
whose system calls do not fail, lock conflicts are handled alike exactly when the state is
regular. -/
theorem conflicts_uniform_iff
    (bound : ∀ backend, host.fileSystem = some backend → backend = fileBackend fileSystem items)
    {normalized : List (BasicLine Double)} {emitted : EmittedProgram Double}
    (analyzed : Basic.analyze lines = .ok normalized) (compiled : Basic.emit normalized = .ok emitted)
    (input : List String) (world : Surroundings Rest) (turns : List (Turn Rest)) :
    Always (errorStep host normalized emitted.program)
      (fun state => state.machine.memory.environment.world.files.faults = [] →
        (Uniform fileSystem host normalized emitted.program state ↔
          Regular fileSystem host normalized emitted.program state))
      { machine := loadProgram input world } turns := by
  obtain ⟨known, rfl⟩ := Basic.analyze_eq_ok.mp analyzed
  obtain ⟨accepted, rfl⟩ := Basic.emit_eq_ok.mp compiled
  have always : Always (errorStep host normalized (assembled normalized).program)
      (HandlerOf normalized) { machine := loadProgram input world } turns :=
    always_of_invariant (fun holds _ stepped => handlerOf_step known accepted holds stepped) rfl
      (eachStep_of_forall (fun _ _ => trivial) _)
  exact always.mono fun state holds faithful => uniform_iff_regular holds bound faithful

/-- An account of a session that locks records. -/
def sharedAccount : FileSystem where
  root := "ACCT"
  lockTable := true
  lockSessionId := "S1"

/-- The files of that account as a host. -/
def sharedHost : Host Int (Surroundings Unit) where
  fileSystem := some (fileBackend sharedAccount VocCache.noBuiltins.items)

/-- There is a file `DATA`. -/
def sharedWorld : Surroundings Unit where
  files := { disk := fun _ => AList.insert "DATA" (.directory ∅) ∅ }
  rest := ()

/-- Another session has locked the record `R1` of `DATA`. -/
def lockedByOther : Surroundings Unit where
  files := {
    disk := sharedWorld.files.disk
    locks := ({} : Locking.LockTable).setLock "DATA" "R1" { ownerSessionId := "S2" } }
  rest := ()

/-- A program that opens `DATA` as `F` and names line 40 before the statement. -/
def guarded (statement : Basic.Stmt Int) : List (BasicLine Int) :=
  [{ lineNumber := 10, statement := .openStmt (.stringLiteral "DATA") "F" none },
    { lineNumber := 20, statement := .onError (some 40) },
    { lineNumber := 30, statement },
    { lineNumber := 40, statement := .endStmt }]

/-- A statement on `R1` of the file that is open as `F` finds it locked by the other session. -/
theorem hits_lockedByOther {machine : Machine Int (Surroundings Unit)} {access : RecordAccess}
    {instr : Instruction Int} (isOp : instr.op = access.op) (operand : instr.operand = .string "F")
    (file : (machine.memory.environment.openFiles.lookup "F").map FileHandle.name = some "DATA")
    (record : (access.recordId machine.memory.stack).map valueToString = some "R1") :
    Hits sharedAccount sharedHost access instr (withWorld machine lockedByOther).memory
      "DATA" "R1" := by
  obtain ⟨handle, opened, named⟩ := Option.map_eq_some_iff.mp file
  obtain ⟨id, isId, isText⟩ := Option.map_eq_some_iff.mp record
  refine ⟨⟨isOp, ⟨"F", (handle, fileBackend sharedAccount VocCache.noBuiltins.items), operand, ?_,
    named⟩, ⟨id, isId, isText⟩⟩, ?_, fun _ => ?_⟩
  · unfold openedAt
    rw [show canonicalVariableName "F" = "F" by decide +kernel]
    change (machine.memory.environment.openFiles.lookup "F").bind _ = _
    rw [opened]
    rfl
  · intro accessible
    have found : lockedByOther.files.locks.lookup "DATA" "R1" = some { ownerSessionId := "S2" } := by
      decide +kernel
    exact absurd (accessible (by decide) _ found) (by decide)
  · have isThere : ((lockedByOther.files.disk sharedAccount.root).records "DATA").isSome = true := by
      decide +kernel
    exact ⟨by decide, isThere, by decide⟩

/-- The machine comes to a statement on `R1` of the file that is open as `F`, and line 40 is
named. -/
def comesTo (access : RecordAccess) (ip : Nat) (state : ErrorRun Int Unit) : Bool :=
  state.machine.ip == ip && state.named == some 40 &&
    (state.machine.memory.environment.openFiles.lookup "F").map FileHandle.name == some "DATA" &&
    (access.recordId state.machine.memory.stack).map valueToString == some "R1"

/-- The program comes to a statement, and then the other session locks the record. -/
theorem reaches_locked {program : List (Instruction Int)} {lines : List (BasicLine Int)}
    {access : RecordAccess} {ip count : Nat} {instr : Instruction Int}
    (comes : ((run (errorStep sharedHost lines program) { machine := loadProgram [] sharedWorld }
      (List.replicate count .instruction)).map (comesTo access ip)) = some true)
    (found : program[ip]? = some instr) (isOp : instr.op = access.op)
    (operand : instr.operand = .string "F") :
    ∃ state, run (errorStep sharedHost lines program) { machine := loadProgram [] sharedWorld }
        (List.replicate count .instruction ++ [.others lockedByOther]) = some state ∧
      program[state.machine.ip]? = some instr ∧ state.named = some 40 ∧
      state.machine.memory.environment.world.files.faults = [] ∧
      Hits sharedAccount sharedHost access instr state.machine.memory "DATA" "R1" := by
  obtain ⟨before, ran, isThere⟩ := Option.map_eq_some_iff.mp comes
  unfold comesTo at isThere
  simp only [Bool.and_eq_true, beq_iff_eq] at isThere
  obtain ⟨⟨⟨isIp, named⟩, file⟩, record⟩ := isThere
  refine ⟨{ before with machine := withWorld before.machine lockedByOther }, ?_, ?_, named, rfl,
    hits_lockedByOther isOp operand file record⟩
  · rw [run_append ran]
    rfl
  · rw [← isIp] at found
    exact found

/-- `READ R FROM F, "R1"`. -/
def readLines : List (BasicLine Int) := guarded (.read "R" "F" (.stringLiteral "R1") none)

/-- The record is locked when the program comes to the `READ`, and the run goes on at line 40. -/
theorem locked_read_handled :
    ∃ state, run (errorStep sharedHost readLines (assembled readLines).program)
        { machine := loadProgram [] sharedWorld }
        (List.replicate 4 .instruction ++ [.others lockedByOther]) = some state ∧
      FindsLocked sharedAccount sharedHost (assembled readLines).program state.machine .read ∧
      Handled sharedHost readLines (assembled readLines).program state "READ" := by
  have always := @conflicts_uniform_iff Int Unit _ sharedAccount VocCache.noBuiltins.items sharedHost
    readLines (fun backend bound => (Option.some.inj bound).symm) readLines (assembled readLines) rfl
    (by rfl) [] sharedWorld (List.replicate 4 .instruction ++ [.others lockedByOther])
  obtain ⟨state, reached, found, named, faithful, hits⟩ :=
    @reaches_locked (assembled readLines).program readLines .read 4 4
      { op := .readRec, operand := .string "F" } (by decide +kernel) (by decide +kernel) rfl rfl
  have finds : FindsLocked sharedAccount sharedHost (assembled readLines).program state.machine
      .read := ⟨_, _, _, found, hits⟩
  refine ⟨state, reached, finds, ?_⟩
  refine ((always.finish reached faithful).mpr ⟨?_, ?_, ?_⟩).locked .read finds
  · intro access isFinds
    rw [((findsLocked_iff found hits.op).mp isFinds).1]
    rfl
  · intro _ _ line isLine
    rw [named] at isLine
    cases isLine
    decide +kernel
  · intro _ instr access _ _ isFound update names
    rw [found] at isFound
    cases isFound
    obtain rfl := names.unique hits.op
    cases update

/-- `READV R FROM F, "R1", 1`. -/
def readVLines : List (BasicLine Int) :=
  guarded (.readV "R" "F" (.stringLiteral "R1") (.intLiteral 1) none none)

/-- The record is locked when the program comes to the `READV`, which throws. -/
theorem locked_readV_not_handled :
    Basic.analyze readVLines = .ok readVLines ∧
      Basic.emit readVLines = .ok (assembled readVLines) ∧
      ¬ Always (errorStep sharedHost readVLines (assembled readVLines).program)
        (Uniform sharedAccount sharedHost readVLines (assembled readVLines).program)
        { machine := loadProgram [] sharedWorld }
        (List.replicate 6 .instruction ++ [.others lockedByOther]) := by
  obtain ⟨state, reached, found, named, faithful, hits⟩ :=
    @reaches_locked (assembled readVLines).program readVLines .readV 6 6
      { op := .readV, operand := .string "F" } (by decide +kernel) (by decide +kernel) rfl rfl
  refine ⟨rfl, by rfl, fun always => ?_⟩
  exact not_handled_of_onAttribute rfl
    (fun backend bound => (Option.some.inj bound).symm) faithful found hits
    ((always.finish reached).locked .readV ⟨_, _, _, found, hits⟩)

end Runs

end Gemini.PickShell.LockHandling
