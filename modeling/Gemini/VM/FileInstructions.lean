import Gemini.VM.CoreInstructions

/-!
# The instructions on files

The cases of `Runtime::step` that open, read, write and close files. Most come in two forms:
one that throws, and a `Try` form that pushes a flag, with a placeholder under it where a
value was to be read.

A record lock conflict is the one error that `ON ERROR GOTO` catches, so an instruction that
can meet one reports it to its caller.
-/

namespace Gemini.VM

open Gemini.Semantics
open Gemini.PickFS (FileHandle RecordAttribute StructuredRecord)
open Gemini.PickFS.FileSystem (resetReadNextCursor)

variable {Double World : Type}

/-! ## Open files -/

/-- The error of a machine without files. -/
def backendUnavailable (op : String) : Fault :=
  makeIoError op .backendUnavailable "filesystem backend not configured"

/-- The open file of a file variable and the file system, or the errors without them. -/
def requireOpenFile (host : Host Double World) (op fileVar : String) :
    EnvironmentM Double World (FileHandle × FileBackend World) := do
  match (← get).openFiles.lookup fileVar with
  | none => throw (makeIoError op .fileVarNotOpen fileVar)
  | some handle =>
      match host.fileSystem with
      | none => throw (backendUnavailable op)
      | some fileSystem => return (handle, fileSystem)

/-- The open file of a file variable and the file system, when both are there. -/
def findOpenFile (host : Host Double World) (fileVar : String) :
    EnvironmentM Double World (Option (FileHandle × FileBackend World)) := do
  let environment ← get
  return (environment.openFiles.lookup fileVar).bind fun handle =>
    host.fileSystem.map fun fileSystem => (handle, fileSystem)

/-- A file variable is open on a file. -/
def setOpenFile (fileVar : String) (handle : FileHandle) : EnvironmentM Double World Unit :=
  modify fun environment =>
    { environment with openFiles := environment.openFiles.insert fileVar handle }

/-- A file variable reads its file from the start. -/
def resetCursor (fileVar : String) (handle : FileHandle) : EnvironmentM Double World Unit :=
  setOpenFile fileVar (resetReadNextCursor handle)

/-- A file variable is closed. -/
def eraseOpenFile (fileVar : String) : EnvironmentM Double World Unit :=
  modify fun environment =>
    { environment with openFiles := environment.openFiles.erase fileVar }

/-! ## What a `Try` form pushes -/

/-- The flag of an action that has no value. -/
def pushFlag (done : Bool) : MemoryM Double World Unit := push (.int (if done then 1 else 0))

/-- A value and the flag that it was read, or a placeholder and the flag that it was not. -/
def pushFlagged : Option String → MemoryM Double World Unit
  | some text => do
      push (.string text)
      push (.int 1)
  | none => do
      push (.string "")
      push (.int 0)

/-! ## Opening -/

/-- `OPEN`. -/
def openNamed (host : Host Double World) (fileVar fileName : String) :
    EnvironmentM Double World Unit := do
  match host.fileSystem with
  | none => throw (backendUnavailable "OPEN")
  | some fileSystem =>
      match ← attempt (fileSystem.openFile fileName) with
      | .ok handle => resetCursor fileVar handle
      | .error (.fileSystem _) => throw (makeIoError "OPEN" .missingFile fileName)
      | .error (.other what) => throw (.exception what)

/-- `OPEN` with an `ELSE`. -/
def openNamedTry (host : Host Double World) (fileVar fileName : String) :
    EnvironmentM Double World Bool := do
  match host.fileSystem with
  | none => return false
  | some fileSystem =>
      match ← attempt (fileSystem.openFile fileName) with
      | .ok handle =>
          resetCursor fileVar handle
          return true
      | .error (.fileSystem _) => return false
      | .error (.other what) => throw (.exception what)

/-! ## Records -/

/-- The calls of the two kinds of reading and of writing: plain and for update. -/
abbrev ReadCall (World : Type) :=
  FileBackend World → String → String → Program World FileError (Option String)

/-- The calls that write a record. -/
abbrev WriteCall (World : Type) :=
  FileBackend World → String → String → String → Program World FileError Unit

/-- `ReadRec` and `ReadRecU`; no record when the record is locked. -/
def fetchRecord (host : Host Double World) (op : String) (read : ReadCall World)
    (fileVar id : String) : EnvironmentM Double World (Option String) := do
  let (handle, fileSystem) ← requireOpenFile host op fileVar
  match ← attempt (read fileSystem handle.name id) with
  | .ok (some value) => return some value
  | .ok none => throw (makeIoError op .missingRecord id)
  | .error error =>
      if error.isRecordLockConflict then return none else throw (.exception error.what)

/-- `ReadRecTry` and `ReadRecUTry`. -/
def fetchRecordTry (host : Host Double World) (read : ReadCall World) (fileVar id : String) :
    EnvironmentM Double World (Option String) := do
  match ← findOpenFile host fileVar with
  | none => return none
  | some (handle, fileSystem) =>
      match ← attempt (read fileSystem handle.name id) with
      | .ok found => return found
      | .error error =>
          if error.isRecordLockConflict then return none else throw (.exception error.what)

/-- `WriteRec` and `WriteRecU`; false when the record is locked. -/
def putRecord (host : Host Double World) (op : String) (write : WriteCall World)
    (fileVar id value : String) : EnvironmentM Double World Bool := do
  let (handle, fileSystem) ← requireOpenFile host op fileVar
  match ← attempt (write fileSystem handle.name id value) with
  | .ok () =>
      resetCursor fileVar handle
      return true
  | .error error =>
      if error.isRecordLockConflict then return false else throw (.exception error.what)

/-- `WriteRecTry` and `WriteRecUTry`. A `FileSystemError` other than a lock conflict goes on,
any other exception is a failure of the write. -/
def putRecordTry (host : Host Double World) (write : WriteCall World)
    (fileVar id value : String) : EnvironmentM Double World Bool := do
  match ← findOpenFile host fileVar with
  | none => return false
  | some (handle, fileSystem) =>
      match ← attempt (write fileSystem handle.name id value) with
      | .ok () =>
          resetCursor fileVar handle
          return true
      | .error (.fileSystem what) =>
          if (FileError.fileSystem what).isRecordLockConflict then return false
          else throw (.exception what)
      | .error (.other _) => return false

/-- `RELEASE`. -/
def releaseNamed (host : Host Double World) (fileVar id : String) :
    EnvironmentM Double World Unit := do
  let (handle, fileSystem) ← requireOpenFile host "RELEASE" fileVar
  let _ ← callFiles (fileSystem.releaseRecord handle.name id)
  return ()

/-- `READNEXT`. -/
def nextRecord (host : Host Double World) (fileVar : String) :
    EnvironmentM Double World (Value Double) := do
  let (handle, fileSystem) ← requireOpenFile host "READNEXT" fileVar
  let exhausted := makeIoError "READNEXT" .cursorExhausted ("file=" ++ handle.name)
  match ← attempt (fileSystem.readNextRecord handle) with
  | .ok (found, after) =>
      setOpenFile fileVar after
      match found with
      | some id => return .string id
      | none => throw exhausted
  | .error (.fileSystem _) => throw exhausted
  | .error (.other what) => throw (.exception what)

/-- `READNEXT` with an `ELSE`. -/
def nextRecordTry (host : Host Double World) (fileVar : String) :
    EnvironmentM Double World (Option String) := do
  match ← findOpenFile host fileVar with
  | none => return none
  | some (handle, fileSystem) =>
      match ← attempt (fileSystem.readNextRecord handle) with
      | .ok (found, after) =>
          setOpenFile fileVar after
          return found
      | .error _ => return none

/-! ## Attributes -/

/-- The cell of a dictionary field in a record. -/
def evaluateDictFieldCell (fileSystem : FileBackend World) (dataFileName token : String)
    (dataRecord : StructuredRecord) : EnvironmentM Double World String := do
  let ref ← callFiles (fileSystem.resolveField dataFileName token)
  match ref.cell dataRecord with
  | .ok cell => return cell
  | .error error => throw (.exception error.what)

/-- What `READV` reads in a record, or why it does not. -/
def readAttribute (record : StructuredRecord) (attrNo valueIndex : Int) :
    Except (IoErrorKind × String) String :=
  if record.hasAttribute attrNo then
    let attr := record.attributeAt attrNo
    if 0 < valueIndex then
      if attr.hasValueAt valueIndex then .ok (attr.valueAt valueIndex)
      else .error (.missingSubvalue,
        "attr=" ++ toString attrNo ++ ",value=" ++ toString valueIndex)
    else .ok attr.raw
  else .error (.missingAttribute, "attr=" ++ toString attrNo)

/-- What `ResolveDictAttr` pushes for a field: the attribute it stands for, the token of a
correlative, or 0. -/
def resolvedSlot (token : String) (field : FieldRef) : Value Double :=
  match field.kind with
  | .attribute => .int (field.attributeNo.getD 0)
  | _ => if fieldRefIsResolved field then .string token else .int 0

/-- The attribute number of a field name in the dictionary, 0 when there is none. -/
def resolveSlot (host : Host Double World) (fileVar token : String) :
    EnvironmentM Double World (Value Double) := do
  match ← findOpenFile host fileVar with
  | none => return .int 0
  | some (handle, fileSystem) =>
      match ← attempt (fileSystem.resolveField handle.name token) with
      | .ok field => return resolvedSlot token field
      | .error _ => return .int 0

/-- The call of `WRITEV`: a value of an attribute, or the whole attribute. -/
def writeValue (fileSystem : FileBackend World) (fileName id : String) (attrNo valueIndex : Int)
    (value : String) : Program World FileError Unit :=
  if 0 < valueIndex then fileSystem.writeSubvalue fileName id attrNo valueIndex value
  else fileSystem.writeAttributeValue fileName id attrNo value

/-- `WRITEV`. -/
def putValue (host : Host Double World) (fileVar id : String) (attrNo valueIndex : Int)
    (value : String) : EnvironmentM Double World Unit := do
  let (handle, fileSystem) ← requireOpenFile host "WRITEV" fileVar
  callFiles (writeValue fileSystem handle.name id attrNo valueIndex value)
  resetCursor fileVar handle

/-- `WRITEV` with an `ELSE`. -/
def putValueTry (host : Host Double World) (fileVar id : String) (attrNo valueIndex : Int)
    (value : String) : EnvironmentM Double World Bool := do
  match ← findOpenFile host fileVar with
  | none => return false
  | some (handle, fileSystem) =>
      match ← attempt (writeValue fileSystem handle.name id attrNo valueIndex value) with
      | .ok () =>
          resetCursor fileVar handle
          return true
      | .error _ => return false

variable [Doubles Double]

/-- `READV`. -/
def fetchValue (host : Host Double World) (fileVar id : String) (attrSlot : Value Double)
    (valueIndex : Int) : EnvironmentM Double World (Value Double) := do
  let (handle, fileSystem) ← requireOpenFile host "READV" fileVar
  match ← callFiles (fileSystem.read handle.name id) with
  | none => throw (makeIoError "READV" .missingRecord id)
  | some raw =>
      let record := StructuredRecord.fromRaw raw
      match attrSlot with
      | .string token =>
          if 0 < valueIndex then
            throw (makeIoError "READV" .missingSubvalue
              "computed field does not support value index")
          else
            let cell ← evaluateDictFieldCell fileSystem handle.name token record
            return .string cell
      | slot =>
          match readAttribute record (coerceToInt slot) valueIndex with
          | .ok text => return .string text
          | .error (kind, detail) => throw (makeIoError "READV" kind detail)

/-- `READV` with an `ELSE`. -/
def fetchValueTry (host : Host Double World) (fileVar id : String) (attrSlot : Value Double)
    (valueIndex : Int) : EnvironmentM Double World (Option String) := do
  match ← findOpenFile host fileVar with
  | none => return none
  | some (handle, fileSystem) =>
      match ← callFiles (fileSystem.read handle.name id) with
      | none => return none
      | some raw =>
          let record := StructuredRecord.fromRaw raw
          match attrSlot with
          | .string token =>
              if 0 < valueIndex then return none
              else
                let ref ← callFiles (fileSystem.resolveField handle.name token)
                if fieldRefIsResolved ref then
                  let cell ← evaluateDictFieldCell fileSystem handle.name token record
                  return some cell
                else return none
          | slot => return (readAttribute record (coerceToInt slot) valueIndex).toOption

/-! ## The instructions -/

/-- `CLOSE_FILE`. -/
def closeFile (instr : Instruction Double) (ip : Nat) : MemoryM Double World Unit := do
  let fileVar ← nameOperandAtIp instr ip
  onEnvironment (eraseOpenFile fileVar)

/-- `OPEN_FILE`. -/
def openFile (host : Host Double World) (instr : Instruction Double) (ip : Nat) :
    MemoryM Double World Unit := do
  let fileVar ← nameOperandAtIp instr ip
  let fileName ← popText
  onEnvironment (openNamed host fileVar fileName)

/-- `OPEN_FILE_TRY`. -/
def openFileTry (host : Host Double World) (instr : Instruction Double) (ip : Nat) :
    MemoryM Double World Unit := do
  let fileVar ← nameOperandAtIp instr ip
  let fileName ← popText
  pushFlag (← onEnvironment (openNamedTry host fileVar fileName))

/-- `ReadRec` and `ReadRecU`; whether the record is locked. -/
def readRecord (host : Host Double World) (op : String) (read : ReadCall World)
    (instr : Instruction Double) (ip : Nat) : MemoryM Double World Bool := do
  let fileVar ← nameOperandAtIp instr ip
  let id ← popText
  match ← onEnvironment (fetchRecord host op read fileVar id) with
  | none => return true
  | some value =>
      push (.string value)
      return false

/-- `READ_REC_TRY` and `READ_REC_U_TRY`. -/
def readRecordTry (host : Host Double World) (read : ReadCall World)
    (instr : Instruction Double) (ip : Nat) : MemoryM Double World Unit := do
  let fileVar ← nameOperandAtIp instr ip
  let id ← popText
  pushFlagged (← onEnvironment (fetchRecordTry host read fileVar id))

/-- `WriteRec` and `WriteRecU`; whether the record is locked. -/
def writeRecord (host : Host Double World) (op : String) (write : WriteCall World)
    (instr : Instruction Double) (ip : Nat) : MemoryM Double World Bool := do
  let fileVar ← nameOperandAtIp instr ip
  let id ← popText
  let value ← popText
  return !(← onEnvironment (putRecord host op write fileVar id value))

/-- `WRITE_REC_TRY` and `WRITE_REC_U_TRY`. -/
def writeRecordTry (host : Host Double World) (write : WriteCall World)
    (instr : Instruction Double) (ip : Nat) : MemoryM Double World Unit := do
  let fileVar ← nameOperandAtIp instr ip
  let id ← popText
  let value ← popText
  pushFlag (← onEnvironment (putRecordTry host write fileVar id value))

/-- `RELEASE_REC`. -/
def releaseRec (host : Host Double World) (instr : Instruction Double) (ip : Nat) :
    MemoryM Double World Unit := do
  let fileVar ← nameOperandAtIp instr ip
  let id ← popText
  onEnvironment (releaseNamed host fileVar id)

/-- `READ_NEXT`. -/
def readNext (host : Host Double World) (instr : Instruction Double) (ip : Nat) :
    MemoryM Double World Unit := do
  let fileVar ← nameOperandAtIp instr ip
  pushFrom (nextRecord host fileVar)

/-- `READ_NEXT_TRY`. -/
def readNextTry (host : Host Double World) (instr : Instruction Double) (ip : Nat) :
    MemoryM Double World Unit := do
  let fileVar ← nameOperandAtIp instr ip
  pushFlagged (← onEnvironment (nextRecordTry host fileVar))

/-- `READ_V`. -/
def readV (host : Host Double World) (instr : Instruction Double) (ip : Nat) :
    MemoryM Double World Unit := do
  let fileVar ← nameOperandAtIp instr ip
  let valueIndex ← popCoercedInt
  let attrSlot ← pop
  let id ← popText
  pushFrom (fetchValue host fileVar id attrSlot valueIndex)

/-- `READ_V_TRY`. -/
def readVTry (host : Host Double World) (instr : Instruction Double) (ip : Nat) :
    MemoryM Double World Unit := do
  let fileVar ← nameOperandAtIp instr ip
  let valueIndex ← popCoercedInt
  let attrSlot ← pop
  let id ← popText
  pushFlagged (← onEnvironment (fetchValueTry host fileVar id attrSlot valueIndex))

/-- `ExtractAttr` on its three values. -/
def extractedAttr (rawRecord attrNo valueIndex : Value Double) : Value Double :=
  let attr := (StructuredRecord.fromRaw (valueToString rawRecord)).attributeAt (coerceToInt attrNo)
  .string (if 0 < coerceToInt valueIndex then attr.valueAt (coerceToInt valueIndex) else attr.raw)

/-- `EXTRACT_ATTR`. -/
def extractAttr : MemoryM Double World Unit := do
  let valueIndex ← pop
  let attrNo ← pop
  let rawRecord ← pop
  push (extractedAttr rawRecord attrNo valueIndex)

/-- `RESOLVE_DICT_ATTR`. -/
def resolveDictAttr (host : Host Double World) (instr : Instruction Double) (ip : Nat) :
    MemoryM Double World Unit := do
  let fileVar ← nameOperandAtIp instr ip
  let token ← popText
  pushFrom (resolveSlot host fileVar token)

/-- `CHAIN`: the name leaves the machine as an exception. -/
def chain : MemoryM Double World Unit := do
  let programName ← popText
  if programName = "" then throw (.runtimeError "CHAIN requires a program name")
  else throw (.chainRequest programName)

/-- `WRITE_V`. -/
def writeV (host : Host Double World) (instr : Instruction Double) (ip : Nat) :
    MemoryM Double World Unit := do
  let fileVar ← nameOperandAtIp instr ip
  let valueIndex ← popCoercedInt
  let attrNo ← popCoercedInt
  let id ← popText
  let value ← popText
  onEnvironment (putValue host fileVar id attrNo valueIndex value)

/-- `WRITE_V_TRY`. -/
def writeVTry (host : Host Double World) (instr : Instruction Double) (ip : Nat) :
    MemoryM Double World Unit := do
  let fileVar ← nameOperandAtIp instr ip
  let valueIndex ← popCoercedInt
  let attrNo ← popCoercedInt
  let id ← popText
  let value ← popText
  pushFlag (← onEnvironment (putValueTry host fileVar id attrNo valueIndex value))

end Gemini.VM
