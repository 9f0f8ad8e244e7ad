import Mathlib.Data.List.Infix
import Gemini.VM.Instruction
import Gemini.PickFS.FileSystem

/-!
# The machine and its surroundings

`Machine` is the state of a `Runtime` while a program runs. It has three layers: the
environment of variables, files and streams, the operand stack, and what decides where the
machine goes on. Most instructions are code on the lower layers alone. The file system, the dictionary,
the reader of system variables and the language registry are what the session has bound to
the runtime: `Host` holds them as functions on a world of any type, so that a statement about
every host is about every behaviour of them.

What code has changed before it throws stays changed.
-/

namespace Gemini.VM

open Gemini.Semantics
open Gemini.PickFS (FileHandle RecordAttribute StructuredRecord)

variable {Double World : Type}

/-! ## Errors -/

/-- What ends a run early: an exception of the machine itself, one of its surroundings, or
the request to go on with another program. -/
inductive Fault where
  | stackUnderflow
  | arityMismatch
  | runtimeError (what : String)
  | exception (what : String)
  | chainRequest (programName : String)
deriving DecidableEq

/-- The text of an exception; a `CHAIN` has none. -/
def Fault.what : Fault → Option String
  | .stackUnderflow => some "VM stack underflow"
  | .arityMismatch => some "LANG: arity mismatch"
  | .runtimeError what => some what
  | .exception what => some what
  | .chainRequest _ => none

/-- The kinds of errors of the file statements. -/
inductive IoErrorKind where
  | backendUnavailable
  | missingFile
  | fileVarNotOpen
  | missingRecord
  | cursorExhausted
  | missingAttribute
  | missingSubvalue
  | recordLocked
deriving DecidableEq

/-- Their names. -/
def ioErrorKindName : IoErrorKind → String
  | .backendUnavailable => "BACKEND.UNAVAILABLE"
  | .missingFile => "FILE.NOT.FOUND"
  | .fileVarNotOpen => "FILE.VAR.NOT.OPEN"
  | .missingRecord => "RECORD.NOT.FOUND"
  | .cursorExhausted => "CURSOR.EXHAUSTED"
  | .missingAttribute => "ATTRIBUTE.NOT.FOUND"
  | .missingSubvalue => "SUBVALUE.NOT.FOUND"
  | .recordLocked => "ERR_RECORD_LOCKED"

/-- `makeIoError`. -/
def makeIoError (op : String) (kind : IoErrorKind) (detail : String) : Fault :=
  .runtimeError
    (op ++ ": " ++ ioErrorKindName kind ++ if detail = "" then "" else " (" ++ detail ++ ")")

/-! ## The surroundings -/

/-- An exception of the file system layer: a `FileSystemError`, or any other. -/
inductive FileError where
  | fileSystem (what : String)
  | other (what : String)

/-- The text of an error of the files. -/
def FileError.what : FileError → String
  | .fileSystem what => what
  | .other what => what

/-- `isRecordLockConflict`. -/
def FileError.isRecordLockConflict : FileError → Bool
  | .fileSystem what => decide ("RECORD LOCKED".toList <:+: what.toList)
  | .other _ => false

/-- The kinds of fields of a dictionary. -/
inductive DictFieldKind where
  | attribute
  | fCorrelative
  | iCorrelative
deriving DecidableEq

/-- A resolved dictionary field; `cell` is what `evaluateFieldCell` gives for it. -/
structure FieldRef where
  kind : DictFieldKind
  attributeNo : Option Int
  correlative : Bool
  cell : StructuredRecord → Except FileError String

/-- A field is resolved when it has what its kind needs. -/
def fieldRefIsResolved (field : FieldRef) : Bool :=
  match field.kind with
  | .attribute => field.attributeNo.isSome
  | .fCorrelative => field.correlative
  | .iCorrelative => field.correlative

/-- The calls of the file system and of the dictionary resolver that the machine makes. A
handle that `readNextRecord` leaves is the second part of its result, which has no record
where the call throws at the end of the cursor. -/
structure FileBackend (World : Type) where
  openFile : String → Program World FileError FileHandle
  read : String → String → Program World FileError (Option String)
  readU : String → String → Program World FileError (Option String)
  write : String → String → String → Program World FileError Unit
  writeU : String → String → String → Program World FileError Unit
  releaseRecord : String → String → Program World FileError Bool
  readNextRecord : FileHandle → Program World FileError (Option String × FileHandle)
  writeAttributeValue : String → String → Int → String → Program World FileError Unit
  writeSubvalue : String → String → Int → Int → String → Program World FileError Unit
  resolveField : String → String → Program World FileError FieldRef

/-- A builtin: from the status code and the stack to the stack it leaves. -/
abbrev Handler (Double World : Type) :=
  Int → List (Value Double) → Program World String (List (Value Double))

/-- A function of the registry. -/
structure LanguageFunctionEntry (Double World : Type) where
  arity : Int
  fn : Option (Handler Double World)

/-- The registered namespaces, each with its functions by number. -/
abbrev LanguageRegistry (Double World : Type) :=
  Nat → Option (List (LanguageFunctionEntry Double World))

/-- What a machine is connected with. -/
structure Host (Double World : Type) where
  fileSystem : Option (FileBackend World) := none
  systemVarReader : Option (World → String → Option (Value Double)) := none
  languageRegistry : Option (LanguageRegistry Double World) := none

/-! ## The state of a run -/

/-- A `FOR` loop that is open. -/
structure ForFrame where
  varName : String
  limit : Int
  step : Int
  bodyIP : Nat
deriving DecidableEq

/-- The variables, arrays, files and streams of a run, and the world around it. -/
structure Environment (Double World : Type) where
  variableMap : AList fun _ : String => Value Double := ∅
  arrays : AList fun _ : String => List (Value Double) := ∅
  openFiles : AList fun _ : String => FileHandle := ∅
  statusCode : Int := 0
  input : List String
  output : String := ""
  world : World

/-- What the instructions compute with: the operand stack, its top first, and the
environment. -/
structure Memory (Double World : Type) where
  stack : List (Value Double) := []
  environment : Environment Double World

/-- A `Runtime` while a program runs: its memory and what decides where it goes on. The
stacks have their top first. -/
structure Machine (Double World : Type) where
  ip : Nat := 0
  callStack : List Nat := []
  forStack : List ForFrame := []
  onErrorIp : Option Nat := none
  memory : Memory Double World

/-- `loadProgram`: what the machine is before the first step. -/
def loadProgram (input : List String) (world : World) : Machine Double World where
  memory := { environment := { input := input, world := world } }

/-- Code that does not touch the operand stack. -/
abbrev EnvironmentM (Double World : Type) := Program (Environment Double World) Fault

/-- The code of an instruction that leaves control alone. -/
abbrev MemoryM (Double World : Type) := Program (Memory Double World) Fault

/-- A program on a machine. -/
abbrev MachineM (Double World : Type) := Program (Machine Double World) Fault

/-- A call of the surroundings, with the exception it throws as a value. -/
def attempt {Error Result : Type} (call : Program World Error Result) :
    EnvironmentM Double World (Except Error Result) :=
  Program.caught Environment.world (fun environment world => { environment with world }) call

/-- A call of the file system whose exceptions the instruction does not catch. -/
def callFiles {Result : Type} (call : Program World FileError Result) :
    EnvironmentM Double World Result := do
  match ← attempt call with
  | .ok result => return result
  | .error error => throw (.exception error.what)

/-- Code on the environment, in the memory. -/
def onEnvironment {Result : Type} (code : EnvironmentM Double World Result) :
    MemoryM Double World Result :=
  Program.zoom Memory.environment (fun memory environment => { memory with environment }) code

/-- Code on the memory, in the machine. -/
def onMemory {Result : Type} (code : MemoryM Double World Result) :
    MachineM Double World Result :=
  Program.zoom Machine.memory (fun machine memory => { machine with memory }) code

/-! ## The operand stack -/

/-- Push a value. -/
def push (value : Value Double) : MemoryM Double World Unit :=
  modify fun memory => { memory with stack := value :: memory.stack }

/-- Pop a value. -/
def pop : MemoryM Double World (Value Double) := do
  let memory ← get
  match memory.stack with
  | [] => throw .stackUnderflow
  | value :: rest =>
      set { memory with stack := rest }
      return value

/-- A value that is pushed is on top. -/
@[simp] theorem exec_push (value : Value Double) (memory : Memory Double World) :
    Program.exec (push value) memory =
      (.ok (), { memory with stack := value :: memory.stack }) := rfl

/-- The value on top is popped. -/
@[simp] theorem exec_pop_cons (value : Value Double) (rest : List (Value Double))
    (environment : Environment Double World) :
    Program.exec pop { stack := value :: rest, environment } =
      (.ok value, { stack := rest, environment }) := rfl

end Gemini.VM
