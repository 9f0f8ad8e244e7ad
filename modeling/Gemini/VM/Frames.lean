import Gemini.VM.Debugging

/-!
# What an instruction leaves alone

The frame rule of the machine. Only the `INPUT` instructions read lines of the input stream; all
other instructions do the same with any input, which they leave as it is. The world around the
machine changes only by the calls of its host: a property of the world that these calls keep is
kept by the instructions.
-/

namespace Gemini.VM

open Gemini.Semantics
open Gemini.PickFS (FileHandle StructuredRecord)

variable {Double World : Type} {Result Other : Type}

/-- A state that an input stream is part of. -/
class HasInput (State : Type) where
  withInput : List String → State → State

instance : HasInput (Environment Double World) where
  withInput lines environment := { environment with input := lines }

instance : HasInput (Memory Double World) where
  withInput lines memory :=
    { memory with environment := HasInput.withInput lines memory.environment }

instance : HasInput (Machine Double World) where
  withInput lines machine := { machine with memory := HasInput.withInput lines machine.memory }

/-- A state that the world around the machine is part of. -/
class HasWorld (State : Type) (World : outParam Type) where
  world : State → World

instance : HasWorld (Environment Double World) World where
  world := Environment.world

instance : HasWorld (Memory Double World) World where
  world memory := memory.environment.world

instance : HasWorld (Machine Double World) World where
  world machine := machine.memory.environment.world

/-- The code does the same with any input, and leaves it as it is. -/
def IgnoresInput {State : Type} [HasInput State] (code : Program State Fault Result) : Prop :=
  ∀ lines, Program.Commutes (HasInput.withInput lines) code

/-- An instruction that reads a line of the input. -/
def IgnoresInput.readsInput (op : OpCode) : Bool :=
  op = .inputInt || op = .inputFlt || op = .inputStr

/-- The code ignores the input, and keeps a property of the world. -/
structure Frames {State : Type} [HasInput State] [HasWorld State World] (kept : World → Prop)
    (code : Program State Fault Result) : Prop where
  ignores : IgnoresInput code
  keeps : Program.Keeps (fun state => kept (HasWorld.world state)) code

/-! ## The calls of a host -/

/-- The calls of the file system that write nothing keep a property of the world. -/
structure SparedFiles (kept : World → Prop) (fileSystem : FileBackend World) : Prop where
  openFile : ∀ fileName, Program.Keeps kept (fileSystem.openFile fileName)
  read : ∀ fileName id, Program.Keeps kept (fileSystem.read fileName id)
  readU : ∀ fileName id, Program.Keeps kept (fileSystem.readU fileName id)
  releaseRecord : ∀ fileName id, Program.Keeps kept (fileSystem.releaseRecord fileName id)
  readNextRecord : ∀ handle, Program.Keeps kept (fileSystem.readNextRecord handle)
  resolveField : ∀ fileName token, Program.Keeps kept (fileSystem.resolveField fileName token)

/-- The builtins keep a property of the world. -/
def SparedBuiltins (kept : World → Prop) (registry : LanguageRegistry Double World) : Prop :=
  ∀ {nsId functions entry handler}, registry nsId = some functions → entry ∈ functions →
    entry.fn = some handler → ∀ status stack, Program.Keeps kept (handler status stack)

/-- All calls but those that write keep a property of the world. -/
structure Spared (kept : World → Prop) (host : Host Double World) : Prop where
  files : ∀ {fileSystem}, host.fileSystem = some fileSystem → SparedFiles kept fileSystem
  builtins : ∀ {registry}, host.languageRegistry = some registry → SparedBuiltins kept registry

/-- A call that reads keeps it. -/
def SparedRead (kept : World → Prop) (host : Host Double World) (read : ReadCall World) : Prop :=
  ∀ {fileSystem}, host.fileSystem = some fileSystem →
    ∀ fileName id, Program.Keeps kept (read fileSystem fileName id)

/-- A call that writes keeps it. -/
def SparedWrite (kept : World → Prop) (host : Host Double World) (write : WriteCall World) : Prop :=
  ∀ {fileSystem}, host.fileSystem = some fileSystem →
    ∀ fileName id value, Program.Keeps kept (write fileSystem fileName id value)

/-- The calls that write one value keep it. -/
def SparedValues (kept : World → Prop) (host : Host Double World) : Prop :=
  ∀ {fileSystem}, host.fileSystem = some fileSystem → ∀ fileName id attrNo valueIndex value,
    Program.Keeps kept (writeValue fileSystem fileName id attrNo valueIndex value)

/-- The calls that write keep a property of the world too. -/
structure SparedWrites (kept : World → Prop) (host : Host Double World) : Prop where
  write : SparedWrite kept host FileBackend.write
  writeU : SparedWrite kept host FileBackend.writeU
  values : SparedValues kept host

variable {kept : World → Prop}

namespace Frames

section Rules

variable {State : Type} [HasInput State] [HasWorld State World]

/-- A value. -/
@[simp] theorem pure (value : Result) :
    Frames kept (Pure.pure value : Program State Fault Result) where
  ignores _ := .pure value
  keeps _ before := before

/-- An error. -/
@[simp] theorem throw (fault : Fault) :
    Frames kept (MonadExcept.throw fault : Program State Fault Result) where
  ignores _ := .throw fault
  keeps _ before := before

/-- Two codes after each other. -/
@[simp] theorem bind {code : Program State Fault Result}
    {next : Result → Program State Fault Other} (first : Frames kept code)
    (second : ∀ value, Frames kept (next value)) : Frames kept (code >>= next) where
  ignores lines := (first.ignores lines).bind fun value => (second value).ignores lines
  keeps := Program.Ensures.bind first.keeps fun value => (second value).keeps

/-- A result in another form. -/
@[simp] theorem map {code : Program State Fault Result} (form : Result → Other)
    (frames : Frames kept code) : Frames kept (form <$> code) := by
  rw [map_eq_pure_bind]
  exact bind frames fun _ => pure _

/-- A look at the state that does not see the input. -/
theorem look {next : State → Program State Fault Other}
    (blind : ∀ lines state, next (HasInput.withInput lines state) = next state)
    (second : ∀ state, Frames kept (next state)) : Frames kept (get >>= next) where
  ignores lines := .get (blind lines) fun state => (second state).ignores lines
  keeps state before := (second state).keeps state before

/-- A change of the state that does not see the input and leaves the world. -/
theorem change {changes : State → State}
    (same : ∀ lines state,
      changes (HasInput.withInput lines state) = HasInput.withInput lines (changes state))
    (untouched : ∀ state, HasWorld.world (changes state) = HasWorld.world state) :
    Frames kept (modify changes : Program State Fault Unit) where
  ignores lines state := by rw [Program.exec_modify, Program.exec_modify, same]
  keeps state before := by
    rw [Program.exec_modify]
    dsimp only
    rwa [untouched]

/-- Both arms of a decision. -/
@[simp] theorem ite {condition : Prop} [Decidable condition]
    {first second : Program State Fault Result} :
    Frames kept (if condition then first else second) ↔
      (condition → Frames kept first) ∧ (¬ condition → Frames kept second) := by
  split <;> simp [*]

end Rules

/-! ## Code in the environment -/

/-- A call of the host whose error is a value. -/
@[simp] theorem attempt {Error : Type} {call : Program World Error Result}
    (keeps : Program.Keeps kept call) :
    Frames kept (attempt call : EnvironmentM Double World (Except Error Result)) where
  ignores _ _ := rfl
  keeps _ before := keeps.after before

/-- A call of the files. -/
@[simp] theorem callFiles {call : Program World FileError Result}
    (keeps : Program.Keeps kept call) :
    Frames kept (callFiles call : EnvironmentM Double World Result) := by
  refine bind (attempt keeps) fun outcome => ?_
  cases outcome with
  | ok => exact pure _
  | error => exact throw _

@[simp] theorem emitText (text : String) :
    Frames kept (emitText text : EnvironmentM Double World Unit) :=
  change (fun _ _ => rfl) fun _ => rfl

/-! ### Variables and arrays -/

@[simp] theorem requireWritable (name : String) :
    Frames kept (requireWritable name : EnvironmentM Double World Unit) := by
  unfold VM.requireWritable
  simp

@[simp] theorem loadVariable (host : Host Double World) (name : String) :
    Frames kept (loadVariable host name) := by
  refine look (fun _ _ => rfl) fun environment => ?_
  split
  · simp
  · split <;> simp

@[simp] theorem storeVariable (name : String) (value : Value Double) :
    Frames kept (storeVariable name value : EnvironmentM Double World Unit) :=
  change (fun _ _ => rfl) fun _ => rfl

@[simp] theorem clearVars : Frames kept (clearVars : EnvironmentM Double World Unit) :=
  change (fun _ _ => rfl) fun _ => rfl

@[simp] theorem findArray (name : String) (missing : Fault) :
    Frames kept (findArray name missing : EnvironmentM Double World (List (Value Double))) := by
  refine look (fun _ _ => rfl) fun environment => ?_
  split <;> simp

@[simp] theorem setArray (name : String) (elements : List (Value Double)) :
    Frames kept (setArray name elements : EnvironmentM Double World Unit) :=
  change (fun _ _ => rfl) fun _ => rfl

@[simp] theorem dimension (name : String) (size : Int) :
    Frames kept (dimension name size : EnvironmentM Double World Unit) := by
  unfold VM.dimension
  simp

@[simp] theorem loadElement (name : String) (idx : Int) :
    Frames kept (loadElement name idx : EnvironmentM Double World (Value Double)) := by
  refine bind (findArray name _) fun elements => ?_
  split
  · simp
  · split <;> simp

@[simp] theorem storeElement (name : String) (idx : Int) (value : Value Double) :
    Frames kept (storeElement name idx value : EnvironmentM Double World Unit) := by
  unfold VM.storeElement
  simp

/-! ### Files -/

/-- What follows the open file of a file variable. -/
theorem requireOpenFile {host : Host Double World} {op fileVar : String}
    {next : FileHandle × FileBackend World → EnvironmentM Double World Result}
    (second : ∀ handle fileSystem, host.fileSystem = some fileSystem →
      Frames kept (next (handle, fileSystem))) :
    Frames kept (requireOpenFile host op fileVar >>= next) := by
  unfold VM.requireOpenFile
  rw [bind_assoc]
  refine look (fun _ _ => rfl) fun environment => ?_
  split
  · exact throw _
  · split
    · exact throw _
    · next known => exact second _ _ known

/-- What follows the search for the open file of a file variable. -/
theorem findOpenFile {host : Host Double World} {fileVar : String}
    {next : Option (FileHandle × FileBackend World) → EnvironmentM Double World Result}
    (missing : Frames kept (next none))
    (second : ∀ handle fileSystem, host.fileSystem = some fileSystem →
      Frames kept (next (some (handle, fileSystem)))) :
    Frames kept (findOpenFile host fileVar >>= next) := by
  unfold VM.findOpenFile
  rw [bind_assoc]
  refine look (fun _ _ => rfl) fun environment => ?_
  rw [pure_bind]
  cases environment.openFiles.lookup fileVar with
  | none => exact missing
  | some handle =>
      cases known : host.fileSystem with
      | none => exact missing
      | some fileSystem => exact second handle fileSystem known

@[simp] theorem setOpenFile (fileVar : String) (handle : FileHandle) :
    Frames kept (setOpenFile fileVar handle : EnvironmentM Double World Unit) :=
  change (fun _ _ => rfl) fun _ => rfl

@[simp] theorem resetCursor (fileVar : String) (handle : FileHandle) :
    Frames kept (resetCursor fileVar handle : EnvironmentM Double World Unit) :=
  setOpenFile fileVar _

@[simp] theorem eraseOpenFile (fileVar : String) :
    Frames kept (eraseOpenFile fileVar : EnvironmentM Double World Unit) :=
  change (fun _ _ => rfl) fun _ => rfl

variable {host : Host Double World} (fileVar id : String)

section Files

variable (spared : Spared kept host)

include spared

@[simp] theorem openNamed (fileName : String) :
    Frames kept (openNamed host fileVar fileName) := by
  unfold VM.openNamed
  split
  · simp
  · next known =>
      refine bind (attempt ((spared.files known).openFile _)) fun outcome => ?_
      split <;> simp

@[simp] theorem openNamedTry (fileName : String) :
    Frames kept (openNamedTry host fileVar fileName) := by
  unfold VM.openNamedTry
  split
  · simp
  · next known =>
      refine bind (attempt ((spared.files known).openFile _)) fun outcome => ?_
      split <;> simp

@[simp] theorem releaseNamed : Frames kept (releaseNamed host fileVar id) :=
  requireOpenFile fun _ _ known => bind (callFiles ((spared.files known).releaseRecord _ _)) fun _ =>
    pure _

@[simp] theorem nextRecord : Frames kept (nextRecord host fileVar) := by
  refine requireOpenFile fun _ _ known =>
    bind (attempt ((spared.files known).readNextRecord _)) fun outcome => ?_
  split
  · refine bind (setOpenFile _ _) fun _ => ?_
    split <;> simp
  · simp
  · simp

@[simp] theorem nextRecordTry : Frames kept (nextRecordTry host fileVar) := by
  refine findOpenFile (pure _) fun _ _ known =>
    bind (attempt ((spared.files known).readNextRecord _)) fun outcome => ?_
  split <;> simp

@[simp] theorem resolveSlot (token : String) :
    Frames kept (resolveSlot host fileVar token) := by
  refine findOpenFile (pure _) fun _ _ known =>
    bind (attempt ((spared.files known).resolveField _ _)) fun outcome => ?_
  split <;> simp

end Files

section Calls

variable {read : ReadCall World} {write : WriteCall World}

@[simp] theorem fetchRecord (op : String) (reads : SparedRead kept host read) :
    Frames kept (fetchRecord host op read fileVar id) := by
  refine requireOpenFile fun _ _ known => bind (attempt (reads known _ _)) fun outcome => ?_
  split <;> simp

@[simp] theorem fetchRecordTry (reads : SparedRead kept host read) :
    Frames kept (fetchRecordTry host read fileVar id) := by
  refine findOpenFile (pure _) fun _ _ known => bind (attempt (reads known _ _)) fun outcome => ?_
  split <;> simp

@[simp] theorem putRecord (op value : String) (writes : SparedWrite kept host write) :
    Frames kept (putRecord host op write fileVar id value) := by
  refine requireOpenFile fun _ _ known => bind (attempt (writes known _ _ _)) fun outcome => ?_
  split <;> simp

@[simp] theorem putRecordTry (value : String) (writes : SparedWrite kept host write) :
    Frames kept (putRecordTry host write fileVar id value) := by
  refine findOpenFile (pure _) fun _ _ known => bind (attempt (writes known _ _ _)) fun outcome => ?_
  split <;> simp

@[simp] theorem putValue (attrNo valueIndex : Int) (value : String)
    (writes : SparedValues kept host) :
    Frames kept (putValue host fileVar id attrNo valueIndex value) :=
  requireOpenFile fun _ _ known => bind (callFiles (writes known _ _ _ _ _)) fun _ =>
    resetCursor _ _

@[simp] theorem putValueTry (attrNo valueIndex : Int) (value : String)
    (writes : SparedValues kept host) :
    Frames kept (putValueTry host fileVar id attrNo valueIndex value) := by
  refine findOpenFile (pure _) fun _ _ known =>
    bind (attempt (writes known _ _ _ _ _)) fun outcome => ?_
  split <;> simp

end Calls

theorem evaluateDictFieldCell {fileSystem : FileBackend World} (files : SparedFiles kept fileSystem)
    (dataFileName token : String) (dataRecord : StructuredRecord) :
    Frames kept (evaluateDictFieldCell fileSystem dataFileName token dataRecord :
      EnvironmentM Double World String) := by
  refine bind (callFiles (files.resolveField _ _)) fun field => ?_
  split <;> simp

variable [Doubles Double]

@[simp] theorem advanceLoop (frame : ForFrame) :
    Frames kept (advanceLoop frame : EnvironmentM Double World Bool) :=
  bind (requireWritable _) fun _ => look (fun _ _ => rfl) fun _ => by simp

@[simp] theorem fillArray (name : String) (scalar : Value Double) :
    Frames kept (fillArray name scalar : EnvironmentM Double World Unit) := by
  unfold VM.fillArray
  simp

@[simp] theorem copyArray (dst src : String) :
    Frames kept (copyArray dst src : EnvironmentM Double World Unit) := by
  unfold VM.copyArray
  simp

@[simp] theorem loadArrayFromRecord (name raw : String) :
    Frames kept (loadArrayFromRecord name raw : EnvironmentM Double World Unit) := by
  unfold VM.loadArrayFromRecord
  simp

@[simp] theorem recordOfArray (name : String) :
    Frames kept (recordOfArray name : EnvironmentM Double World String) := by
  unfold VM.recordOfArray
  simp

@[simp] theorem fetchValue (spared : Spared kept host) (attrSlot : Value Double)
    (valueIndex : Int) : Frames kept (fetchValue host fileVar id attrSlot valueIndex) := by
  refine requireOpenFile fun _ _ known =>
    bind (callFiles ((spared.files known).read _ _)) fun record => ?_
  split
  · simp
  · split
    · split
      · simp
      · exact bind (evaluateDictFieldCell (spared.files known) _ _ _) fun _ => pure _
    · dsimp only
      split <;> simp

@[simp] theorem fetchValueTry (spared : Spared kept host) (attrSlot : Value Double)
    (valueIndex : Int) : Frames kept (fetchValueTry host fileVar id attrSlot valueIndex) := by
  refine findOpenFile (pure _) fun _ _ known =>
    bind (callFiles ((spared.files known).read _ _)) fun record => ?_
  split
  · simp
  · split
    · split
      · simp
      · refine bind (callFiles ((spared.files known).resolveField _ _)) fun ref => ?_
        split
        · exact bind (evaluateDictFieldCell (spared.files known) _ _ _) fun _ => pure _
        · simp
    · simp

/-! ## Code on the operand stack -/

section Stack

omit [Doubles Double]

@[simp] theorem onEnvironment {code : EnvironmentM Double World Result}
    (frames : Frames kept code) : Frames kept (onEnvironment code) where
  ignores lines := (frames.ignores lines).zoom (fun _ => rfl) fun _ _ => rfl
  keeps := by
    apply Program.Ensures.zoom frames.keeps
    exact fun _ _ => rfl

@[simp] theorem push (value : Value Double) :
    Frames kept (push value : MemoryM Double World Unit) :=
  change (fun _ _ => rfl) fun _ => rfl

@[simp] theorem pop : Frames kept (pop : MemoryM Double World (Value Double)) where
  ignores lines memory := by
    obtain ⟨stack, environment⟩ := memory
    cases stack with
    | nil => rfl
    | cons value rest => rfl
  keeps memory before := by
    obtain ⟨stack, environment⟩ := memory
    cases stack with
    | nil => exact before
    | cons value rest => exact before

variable (instr : Instruction Double) (ip : Nat)

@[simp] theorem intOperandAtIp :
    Frames kept (intOperandAtIp instr ip : MemoryM Double World Int) := by
  unfold VM.intOperandAtIp
  split <;> simp

@[simp] theorem stringOperandAtIp :
    Frames kept (stringOperandAtIp instr ip : MemoryM Double World String) := by
  unfold VM.stringOperandAtIp
  split <;> simp

@[simp] theorem floatOperandAtIp :
    Frames kept (floatOperandAtIp instr ip : MemoryM Double World Double) := by
  unfold VM.floatOperandAtIp
  split <;> simp

@[simp] theorem nameOperandAtIp :
    Frames kept (nameOperandAtIp instr ip : MemoryM Double World String) :=
  bind (stringOperandAtIp instr ip) fun _ => pure _

@[simp] theorem popInt (op : OpCode) : Frames kept (popInt op : MemoryM Double World Int) := by
  refine bind pop fun value => ?_
  split <;> simp

@[simp] theorem popString (op : OpCode) :
    Frames kept (popString op : MemoryM Double World String) := by
  refine bind pop fun value => ?_
  split <;> simp

@[simp] theorem pushFrom {code : EnvironmentM Double World (Value Double)}
    (frames : Frames kept code) : Frames kept (pushFrom code) :=
  bind (onEnvironment frames) fun _ => push _

@[simp] theorem pushFlag (done : Bool) :
    Frames kept (pushFlag done : MemoryM Double World Unit) :=
  push _

@[simp] theorem pushFlagged (found : Option String) :
    Frames kept (pushFlagged found : MemoryM Double World Unit) := by
  cases found <;> exact bind (push _) fun _ => push _

@[simp] theorem binary (operation : Value Double → Value Double → Except Fault (Value Double)) :
    Frames kept (binary operation : MemoryM Double World Unit) := by
  refine bind pop fun b => bind pop fun a => ?_
  split <;> simp

@[simp] theorem dup : Frames kept (dup : MemoryM Double World Unit) := by
  refine look (fun _ _ => rfl) fun memory => ?_
  split <;> simp

end Stack

@[simp] theorem popCoercedInt : Frames kept (popCoercedInt : MemoryM Double World Int) :=
  bind pop fun _ => pure _

@[simp] theorem popText : Frames kept (popText : MemoryM Double World String) :=
  bind pop fun _ => pure _

omit [Doubles Double] in
theorem runHandler {handler : Handler Double World}
    (keeps : ∀ status stack, Program.Keeps kept (handler status stack)) :
    Frames kept (runHandler handler) := by
  refine look (fun _ _ => rfl) fun memory =>
    bind (onEnvironment (attempt (keeps _ _))) fun outcome => ?_
  cases outcome with
  | error => exact throw _
  | ok => exact change (fun _ _ => rfl) fun _ => rfl

omit [Doubles Double] in
/-- A builtin that keeps the property. -/
theorem dispatch {registry : LanguageRegistry Double World} (builtins : SparedBuiltins kept registry)
    (nsId fnId : Nat) (argCount : Int) : Frames kept (dispatch registry nsId fnId argCount) := by
  unfold VM.dispatch
  split
  · simp
  · next functions known =>
      split
      · simp
      · next entry found =>
          split
          · simp
          · next handler bound =>
              refine look (fun _ _ => rfl) fun memory => ?_
              simp [runHandler (builtins known (List.mem_of_getElem? found) bound)]

omit [Doubles Double] in
theorem invokeBuiltinShim {registry : Option (LanguageRegistry Double World)}
    (builtins : ∀ bound, registry = some bound → SparedBuiltins kept bound)
    (name : String) : Frames kept (invokeBuiltinShim registry name) := by
  unfold VM.invokeBuiltinShim
  split
  · simp
  · next bound =>
      refine look (fun _ _ => rfl) fun memory => ?_
      dsimp only
      split
      · simp
      · simp [dispatch (builtins bound rfl)]

omit [Doubles Double] in
theorem callFunc (spared : Spared kept host) (call : CallFuncOperand) :
    Frames kept (callFunc host call) := by
  unfold VM.callFunc
  split
  · simp
  · next bound known =>
      exact look (fun _ _ => rfl) fun memory => by simp [dispatch (spared.builtins known)]

/-! ## Instructions -/

section Plain

omit [Doubles Double]

@[simp] theorem modulo : Frames kept (modulo : MemoryM Double World Unit) :=
  bind (popInt _) fun _ => bind (popInt _) fun _ => by simp

@[simp] theorem concat : Frames kept (concat : MemoryM Double World Unit) :=
  bind (popString _) fun _ => bind (popString _) fun _ => push _

theorem printInt :
    Frames kept (VM.popInt .printInt >>= fun value =>
      VM.onEnvironment (VM.emitText (toString value)) : MemoryM Double World Unit) :=
  bind (popInt _) fun _ => onEnvironment (emitText _)

@[simp] theorem printStr :
    Frames kept (VM.popString .printStr >>= fun text =>
      VM.onEnvironment (VM.emitText text) : MemoryM Double World Unit) :=
  bind (popString _) fun _ => onEnvironment (emitText _)

@[simp] theorem printChar : Frames kept (printChar : MemoryM Double World Unit) :=
  bind (popInt _) fun _ => by simp

variable (instr : Instruction Double) (ip : Nat)

@[simp] theorem loadVar : Frames kept (loadVar host instr ip) :=
  bind (nameOperandAtIp instr ip) fun _ => pushFrom (loadVariable host _)

@[simp] theorem storeVar : Frames kept (storeVar instr ip : MemoryM Double World Unit) :=
  bind (nameOperandAtIp instr ip) fun _ => bind (onEnvironment (requireWritable _)) fun _ =>
    bind pop fun _ => onEnvironment (storeVariable _ _)

@[simp] theorem closeFile : Frames kept (closeFile instr ip : MemoryM Double World Unit) :=
  bind (nameOperandAtIp instr ip) fun _ => onEnvironment (eraseOpenFile _)

@[simp] theorem readNext (spared : Spared kept host) : Frames kept (readNext host instr ip) :=
  bind (nameOperandAtIp instr ip) fun _ => pushFrom (nextRecord _ spared)

@[simp] theorem readNextTry (spared : Spared kept host) :
    Frames kept (readNextTry host instr ip) :=
  bind (nameOperandAtIp instr ip) fun _ => bind (onEnvironment (nextRecordTry _ spared)) fun _ =>
    pushFlagged _

end Plain

section Coercing

variable (instr : Instruction Double) (ip : Nat)

@[simp] theorem printVal : Frames kept (printVal : MemoryM Double World Unit) :=
  bind popText fun _ => onEnvironment (emitText _)

@[simp] theorem dimArray : Frames kept (dimArray instr ip : MemoryM Double World Unit) :=
  bind (nameOperandAtIp instr ip) fun _ => bind (onEnvironment (requireWritable _)) fun _ =>
    bind popCoercedInt fun _ => onEnvironment (dimension _ _)

@[simp] theorem loadArr : Frames kept (loadArr instr ip : MemoryM Double World Unit) :=
  bind (nameOperandAtIp instr ip) fun _ => bind popCoercedInt fun _ => pushFrom (loadElement _ _)

@[simp] theorem storeArr : Frames kept (storeArr instr ip : MemoryM Double World Unit) :=
  bind (nameOperandAtIp instr ip) fun _ => bind (onEnvironment (requireWritable _)) fun _ =>
    bind popCoercedInt fun _ => bind pop fun _ => onEnvironment (storeElement _ _ _)

@[simp] theorem matInit : Frames kept (matInit instr ip : MemoryM Double World Unit) :=
  bind (nameOperandAtIp instr ip) fun _ => bind (onEnvironment (requireWritable _)) fun _ =>
    bind pop fun _ => onEnvironment (fillArray _ _)

@[simp] theorem matCopy : Frames kept (matCopy instr ip : MemoryM Double World Unit) := by
  refine bind (stringOperandAtIp instr ip) fun operand => ?_
  split
  · simp
  · exact bind (onEnvironment (requireWritable _)) fun _ => onEnvironment (copyArray _ _)

@[simp] theorem matLoadFromRec :
    Frames kept (matLoadFromRec instr ip : MemoryM Double World Unit) :=
  bind (nameOperandAtIp instr ip) fun _ => bind (onEnvironment (requireWritable _)) fun _ =>
    bind popText fun _ => onEnvironment (loadArrayFromRecord _ _)

@[simp] theorem matStoreToRec :
    Frames kept (matStoreToRec instr ip : MemoryM Double World Unit) :=
  bind (nameOperandAtIp instr ip) fun _ => bind (onEnvironment (recordOfArray _)) fun _ => push _

@[simp] theorem extractAttr : Frames kept (extractAttr : MemoryM Double World Unit) :=
  bind pop fun _ => bind pop fun _ => bind pop fun _ => push _

@[simp] theorem chain : Frames kept (chain : MemoryM Double World Unit) :=
  bind popText fun _ => by simp

@[simp] theorem openFile (spared : Spared kept host) : Frames kept (openFile host instr ip) :=
  bind (nameOperandAtIp instr ip) fun _ => bind popText fun _ =>
    onEnvironment (openNamed _ spared _)

@[simp] theorem openFileTry (spared : Spared kept host) :
    Frames kept (openFileTry host instr ip) :=
  bind (nameOperandAtIp instr ip) fun _ => bind popText fun _ =>
    bind (onEnvironment (openNamedTry _ spared _)) fun _ => pushFlag _

@[simp] theorem readRecord (op : String) {read : ReadCall World}
    (reads : SparedRead kept host read) : Frames kept (readRecord host op read instr ip) := by
  refine bind (nameOperandAtIp instr ip) fun _ => bind popText fun _ =>
    bind (onEnvironment (fetchRecord _ _ op reads)) fun found => ?_
  cases found with
  | none => exact pure _
  | some value => exact bind (push _) fun _ => pure _

@[simp] theorem readRecordTry {read : ReadCall World} (reads : SparedRead kept host read) :
    Frames kept (readRecordTry host read instr ip) :=
  bind (nameOperandAtIp instr ip) fun _ => bind popText fun _ =>
    bind (onEnvironment (fetchRecordTry _ _ reads)) fun _ => pushFlagged _

@[simp] theorem writeRecord (op : String) {write : WriteCall World}
    (writes : SparedWrite kept host write) : Frames kept (writeRecord host op write instr ip) :=
  bind (nameOperandAtIp instr ip) fun _ => bind popText fun _ => bind popText fun _ =>
    bind (onEnvironment (putRecord _ _ op _ writes)) fun _ => pure _

@[simp] theorem writeRecordTry {write : WriteCall World} (writes : SparedWrite kept host write) :
    Frames kept (writeRecordTry host write instr ip) :=
  bind (nameOperandAtIp instr ip) fun _ => bind popText fun _ => bind popText fun _ =>
    bind (onEnvironment (putRecordTry _ _ _ writes)) fun _ => pushFlag _

@[simp] theorem releaseRec (spared : Spared kept host) : Frames kept (releaseRec host instr ip) :=
  bind (nameOperandAtIp instr ip) fun _ => bind popText fun _ =>
    onEnvironment (releaseNamed _ _ spared)

@[simp] theorem readV (spared : Spared kept host) : Frames kept (readV host instr ip) :=
  bind (nameOperandAtIp instr ip) fun _ => bind popCoercedInt fun _ => bind pop fun _ =>
    bind popText fun _ => pushFrom (fetchValue _ _ spared _ _)

@[simp] theorem readVTry (spared : Spared kept host) : Frames kept (readVTry host instr ip) :=
  bind (nameOperandAtIp instr ip) fun _ => bind popCoercedInt fun _ => bind pop fun _ =>
    bind popText fun _ => bind (onEnvironment (fetchValueTry _ _ spared _ _)) fun _ =>
      pushFlagged _

@[simp] theorem resolveDictAttr (spared : Spared kept host) :
    Frames kept (resolveDictAttr host instr ip) :=
  bind (nameOperandAtIp instr ip) fun _ => bind popText fun _ =>
    pushFrom (resolveSlot _ spared _)

@[simp] theorem writeV (writes : SparedValues kept host) : Frames kept (writeV host instr ip) :=
  bind (nameOperandAtIp instr ip) fun _ => bind popCoercedInt fun _ =>
    bind popCoercedInt fun _ => bind popText fun _ => bind popText fun _ =>
      onEnvironment (putValue _ _ _ _ _ writes)

@[simp] theorem writeVTry (writes : SparedValues kept host) :
    Frames kept (writeVTry host instr ip) :=
  bind (nameOperandAtIp instr ip) fun _ => bind popCoercedInt fun _ =>
    bind popCoercedInt fun _ => bind popText fun _ => bind popText fun _ =>
      bind (onEnvironment (putValueTry _ _ _ _ _ writes)) fun _ => pushFlag _

end Coercing

/-! ## Code that transfers control -/

section Control

omit [Doubles Double]

/-- Code on the memory. -/
@[simp] theorem onMemory {code : MemoryM Double World Result} (frames : Frames kept code) :
    Frames kept (onMemory code) where
  ignores lines := (frames.ignores lines).zoom (fun _ => rfl) fun _ _ => rfl
  keeps := by
    apply Program.Ensures.zoom frames.keeps
    exact fun _ _ => rfl

/-- An instruction that goes on with the next one. -/
@[simp] theorem andNext {code : MemoryM Double World Unit} (frames : Frames kept code) :
    Frames kept (andNext code) :=
  bind (onMemory frames) fun _ => pure _

theorem handleRecordLockConflict (op : String) :
    Frames kept (handleRecordLockConflict op : MachineM Double World Flow) := by
  refine bind (onMemory (onEnvironment (change (fun _ _ => rfl) fun _ => rfl))) fun _ => ?_
  refine look (fun _ _ => rfl) fun machine => ?_
  split <;> simp

/-- An instruction that may meet a lock. -/
@[simp] theorem orConflict (op : String) {locked : MemoryM Double World Bool}
    (frames : Frames kept locked) : Frames kept (orConflict op locked) := by
  refine bind (onMemory frames) fun conflict => ?_
  split
  · exact handleRecordLockConflict op
  · simp

variable (instr : Instruction Double) (ip : Nat)

@[simp] theorem jump : Frames kept (jump instr ip : MachineM Double World Flow) :=
  bind (onMemory (intOperandAtIp instr ip)) fun _ => pure _

@[simp] theorem jumpIfZero : Frames kept (jumpIfZero instr ip : MachineM Double World Flow) :=
  bind (onMemory (intOperandAtIp instr ip)) fun _ => bind (onMemory (popInt _)) fun _ => pure _

@[simp] theorem call : Frames kept (call instr ip : MachineM Double World Flow) :=
  bind (onMemory (intOperandAtIp instr ip)) fun _ =>
    bind (change (fun _ _ => rfl) fun _ => rfl) fun _ => pure _

@[simp] theorem returnFromCall :
    Frames kept (returnFromCall : MachineM Double World Flow) where
  ignores lines machine := by
    obtain ⟨ip, callStack, forStack, onErrorIp, memory⟩ := machine
    cases callStack with
    | nil => rfl
    | cons address rest => rfl
  keeps machine before := by
    obtain ⟨ip, callStack, forStack, onErrorIp, memory⟩ := machine
    cases callStack with
    | nil => exact before
    | cons address rest => exact before

@[simp] theorem setOnErrorHandler :
    Frames kept (setOnErrorHandler instr ip : MachineM Double World Flow) :=
  bind (onMemory (intOperandAtIp instr ip)) fun _ =>
    bind (change (fun _ _ => rfl) fun _ => rfl) fun _ => pure _

end Control

variable (instr : Instruction Double) (ip : Nat)

@[simp] theorem forSetup : Frames kept (forSetup instr ip : MachineM Double World Flow) := by
  refine bind (onMemory (nameOperandAtIp instr ip)) fun varName =>
    bind (onMemory popCoercedInt) fun step => bind (onMemory popCoercedInt) fun limit => ?_
  split
  · simp
  · exact bind (change (fun _ _ => rfl) fun _ => rfl) fun _ => pure _

@[simp] theorem forNext : Frames kept (forNext instr ip : MachineM Double World Flow) := by
  refine bind (onMemory (nameOperandAtIp instr ip)) fun varName => ?_
  refine look (fun _ _ => rfl) fun machine => ?_
  split
  · simp
  · next frame outer _ =>
      split
      · simp
      · refine bind (onMemory (onEnvironment (advanceLoop frame))) fun done => ?_
        split
        · exact bind (change (fun _ _ => rfl) fun _ => rfl) fun _ => pure _
        · simp


/-! ## All instructions -/

/-- An instruction that writes a record. -/
def writesRecords (op : OpCode) : Bool :=
  op = .writeRec || op = .writeRecTry || op = .writeRecU || op = .writeRecUTry || op = .writeV ||
    op = .writeVTry

/-- Only the `INPUT` instructions read the input, and only the calls of the host change the
world. -/
theorem execute (spared : Spared kept host) (notInput : IgnoresInput.readsInput instr.op = false)
    (writes : writesRecords instr.op = true → SparedWrites kept host) :
    Frames kept (execute host instr ip) := by
  have read : SparedRead kept host FileBackend.read := fun known => (spared.files known).read
  have readU : SparedRead kept host FileBackend.readU := fun known => (spared.files known).readU
  unfold VM.execute
  split
  case h_26 op => simp [op, IgnoresInput.readsInput] at notInput
  case h_27 op => simp [op, IgnoresInput.readsInput] at notInput
  case h_28 op => simp [op, IgnoresInput.readsInput] at notInput
  case h_19 => exact andNext printInt
  case h_46 =>
    exact andNext (bind (stringOperandAtIp instr ip) fun _ =>
      invokeBuiltinShim (fun _ => spared.builtins) _)
  case h_47 => exact andNext (callFunc spared _)
  case h_54 op => exact orConflict _ (writeRecord _ _ _ (writes (by simp [op, writesRecords])).write)
  case h_55 op => exact andNext (writeRecordTry _ _ (writes (by simp [op, writesRecords])).write)
  case h_56 op => exact orConflict _ (writeRecord _ _ _ (writes (by simp [op, writesRecords])).writeU)
  case h_57 op => exact andNext (writeRecordTry _ _ (writes (by simp [op, writesRecords])).writeU)
  case h_67 op => exact andNext (writeV _ _ (writes (by simp [op, writesRecords])).values)
  case h_68 op => exact andNext (writeVTry _ _ (writes (by simp [op, writesRecords])).values)
  all_goals
    simp [spared, read, readU, arithmetic, divide, comparison, coerceTopToInt, coerceTopToFlt, absInt,
      sgnInt, seqStr]

end Frames

end Gemini.VM
