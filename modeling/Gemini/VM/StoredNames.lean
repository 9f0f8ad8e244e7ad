import Gemini.VM.Numerals
import Gemini.VM.Runtime
import Gemini.Semantics.Run

/-!
# The names that a program stores under

The variables and the arrays of a machine change only where an instruction clears them or stores
under a name in upper case that is not one of the session. What these changes keep of them is kept
by every step.
-/

namespace Gemini.VM

open Gemini.Semantics
open Gemini.PickFS (FileHandle StructuredRecord)

variable {Double World : Type} {Result Other : Type}

/-- A state with variables and arrays, and with the loops that have names for them. -/
class HasStore (State : Type) (Double World : outParam Type) where
  environment : State → Environment Double World
  forStack : State → List ForFrame

instance : HasStore (Environment Double World) Double World where
  environment environment := environment
  forStack _ := []

instance : HasStore (Memory Double World) Double World where
  environment := Memory.environment
  forStack _ := []

instance : HasStore (Machine Double World) Double World where
  environment machine := machine.memory.environment
  forStack := Machine.forStack

/-- A name that a program can store under. -/
structure StorableName (name : String) : Prop where
  canonical : canonicalVariableName name = name
  writable : isReadOnlySystemVariableName name = false

/-- A property of the variables and the arrays. -/
abbrev StoreProperty (Double : Type) :=
  (AList fun _ : String => Value Double) → (AList fun _ : String => List (Value Double)) → Prop

/-- The changes that a program can make keep the property. -/
structure KeptByStores (store : StoreProperty Double) : Prop where
  variable_ : ∀ {variableMap arrays name} (value : Value Double), StorableName name →
    store variableMap arrays → store (variableMap.insert name value) arrays
  array : ∀ {variableMap arrays name} (elements : List (Value Double)), StorableName name →
    store variableMap arrays → store variableMap (arrays.insert name elements)
  clear : store ∅ ∅

/-- The variables and the arrays have the property, and the names of the loops are in upper
case. -/
def StoreHolds {State : Type} [HasStore State Double World] (store : StoreProperty Double)
    (state : State) : Prop :=
  store (HasStore.environment state).variableMap (HasStore.environment state).arrays ∧
    ∀ frame ∈ HasStore.forStack state, canonicalVariableName frame.varName = frame.varName

/-- The code keeps a property of the variables and the arrays, whichever way it ends. -/
def KeepsStore {State : Type} [HasStore State Double World] (store : StoreProperty Double)
    (code : Program State Fault Result) : Prop :=
  Program.Keeps (StoreHolds store) code

variable {store : StoreProperty Double}

namespace KeepsStore

section Rules

variable {State : Type} [HasStore State Double World]

/-- A value. -/
@[simp] theorem pure (value : Result) :
    KeepsStore store (Pure.pure value : Program State Fault Result) := fun _ before => before

/-- An error. -/
@[simp] theorem throw (fault : Fault) :
    KeepsStore store (MonadExcept.throw fault : Program State Fault Result) :=
  fun _ before => before

/-- Two codes after each other. -/
@[simp] theorem bind {code : Program State Fault Result}
    {next : Result → Program State Fault Other} (first : KeepsStore store code)
    (second : ∀ value, KeepsStore store (next value)) : KeepsStore store (code >>= next) :=
  Program.Ensures.bind first second

/-- A look at the state. -/
@[simp] theorem look {next : State → Program State Fault Other}
    (second : ∀ state, KeepsStore store (next state)) : KeepsStore store (get >>= next) :=
  Program.Keeps.look second

/-- A result in another form. -/
@[simp] theorem map {code : Program State Fault Result} (form : Result → Other)
    (keeps : KeepsStore store code) : KeepsStore store (form <$> code) := by
  rw [map_eq_pure_bind]
  exact bind keeps fun _ => pure _

/-- A change of the state that keeps the property. -/
theorem change {changes : State → State}
    (keeps : ∀ state, StoreHolds store state → StoreHolds store (changes state)) :
    KeepsStore store (modify changes : Program State Fault Unit) :=
  keeps

/-- Both arms of a decision. -/
@[simp] theorem ite {condition : Prop} [Decidable condition]
    {first second : Program State Fault Result} :
    KeepsStore store (if condition then first else second) ↔
      (condition → KeepsStore store first) ∧ (¬ condition → KeepsStore store second) := by
  split <;> simp [*]

end Rules

/-! ## Code in the environment -/

/-- A call of the host stores nothing. -/
@[simp] theorem attempt {Error : Type} (call : Program World Error Result) :
    KeepsStore store (attempt call : EnvironmentM Double World (Except Error Result)) :=
  fun _ before => before

/-- Nor does a call of the files. -/
@[simp] theorem callFiles (call : Program World FileError Result) :
    KeepsStore store (callFiles call : EnvironmentM Double World Result) := by
  refine bind (attempt call) fun outcome => ?_
  split <;> simp

@[simp] theorem emitText (text : String) :
    KeepsStore store (emitText text : EnvironmentM Double World Unit) :=
  change fun _ before => before

@[simp] theorem readInputLine (op : OpCode) :
    KeepsStore store (readInputLine op : EnvironmentM Double World String) := by
  rw [KeepsStore, Program.keeps_iff]
  rintro ⟨variableMap, arrays, openFiles, statusCode, input, output, world⟩ before
  cases input <;> exact before

@[simp] theorem inputInt : KeepsStore store (inputInt : EnvironmentM Double World _) := by
  refine bind (readInputLine _) fun line => ?_
  split <;> simp

@[simp] theorem inputStr : KeepsStore store (inputStr : EnvironmentM Double World _) :=
  bind (readInputLine _) fun _ => pure _

@[simp] theorem loadVariable (host : Host Double World) (name : String) :
    KeepsStore store (loadVariable host name) := by
  refine look fun environment => ?_
  split
  · simp
  · split <;> simp

@[simp] theorem findArray (name : String) (missing : Fault) :
    KeepsStore store (findArray name missing : EnvironmentM Double World _) := by
  refine look fun environment => ?_
  split <;> simp

@[simp] theorem loadElement (name : String) (idx : Int) :
    KeepsStore store (loadElement name idx : EnvironmentM Double World (Value Double)) := by
  refine bind (findArray name _) fun elements => ?_
  split
  · simp
  · split <;> simp

/-! ### Files -/

@[simp] theorem requireOpenFile (host : Host Double World) (op fileVar : String) :
    KeepsStore store (requireOpenFile host op fileVar) := by
  refine look fun environment => ?_
  split
  · simp
  · split <;> simp

@[simp] theorem findOpenFile (host : Host Double World) (fileVar : String) :
    KeepsStore store (findOpenFile host fileVar) :=
  look fun _ => pure _

@[simp] theorem setOpenFile (fileVar : String) (handle : FileHandle) :
    KeepsStore store (setOpenFile fileVar handle : EnvironmentM Double World Unit) :=
  change fun _ before => before

@[simp] theorem resetCursor (fileVar : String) (handle : FileHandle) :
    KeepsStore store (resetCursor fileVar handle : EnvironmentM Double World Unit) :=
  setOpenFile fileVar _

@[simp] theorem eraseOpenFile (fileVar : String) :
    KeepsStore store (eraseOpenFile fileVar : EnvironmentM Double World Unit) :=
  change fun _ before => before

section Files

variable (host : Host Double World) (fileVar id : String)

@[simp] theorem openNamed (fileName : String) :
    KeepsStore store (openNamed host fileVar fileName) := by
  unfold VM.openNamed
  split
  · simp
  · refine bind (attempt _) fun outcome => ?_
    split <;> simp

@[simp] theorem openNamedTry (fileName : String) :
    KeepsStore store (openNamedTry host fileVar fileName) := by
  unfold VM.openNamedTry
  split
  · simp
  · refine bind (attempt _) fun outcome => ?_
    split <;> simp

@[simp] theorem releaseNamed : KeepsStore store (releaseNamed host fileVar id) :=
  bind (requireOpenFile _ _ _) fun _ => bind (callFiles _) fun _ => pure _

@[simp] theorem nextRecord : KeepsStore store (nextRecord host fileVar) := by
  refine bind (requireOpenFile _ _ _) fun opened => bind (attempt _) fun outcome => ?_
  split
  · refine bind (setOpenFile _ _) fun _ => ?_
    split <;> simp
  · simp
  · simp

@[simp] theorem nextRecordTry : KeepsStore store (nextRecordTry host fileVar) := by
  refine bind (findOpenFile _ _) fun opened => ?_
  split
  · simp
  · refine bind (attempt _) fun outcome => ?_
    split <;> simp

@[simp] theorem resolveSlot (token : String) :
    KeepsStore store (resolveSlot host fileVar token) := by
  refine bind (findOpenFile _ _) fun opened => ?_
  split
  · simp
  · refine bind (attempt _) fun outcome => ?_
    split <;> simp

@[simp] theorem fetchRecord (op : String) (read : ReadCall World) :
    KeepsStore store (fetchRecord host op read fileVar id) := by
  refine bind (requireOpenFile _ _ _) fun opened => bind (attempt _) fun outcome => ?_
  split <;> simp

@[simp] theorem fetchRecordTry (read : ReadCall World) :
    KeepsStore store (fetchRecordTry host read fileVar id) := by
  refine bind (findOpenFile _ _) fun opened => ?_
  split
  · simp
  · refine bind (attempt _) fun outcome => ?_
    split <;> simp

@[simp] theorem putRecord (op value : String) (write : WriteCall World) :
    KeepsStore store (putRecord host op write fileVar id value) := by
  refine bind (requireOpenFile _ _ _) fun opened => bind (attempt _) fun outcome => ?_
  split <;> simp

@[simp] theorem putRecordTry (value : String) (write : WriteCall World) :
    KeepsStore store (putRecordTry host write fileVar id value) := by
  refine bind (findOpenFile _ _) fun opened => ?_
  split
  · simp
  · refine bind (attempt _) fun outcome => ?_
    split <;> simp

@[simp] theorem putValue (attrNo valueIndex : Int) (value : String) :
    KeepsStore store (putValue host fileVar id attrNo valueIndex value) :=
  bind (requireOpenFile _ _ _) fun _ => bind (callFiles _) fun _ => resetCursor _ _

@[simp] theorem putValueTry (attrNo valueIndex : Int) (value : String) :
    KeepsStore store (putValueTry host fileVar id attrNo valueIndex value) := by
  refine bind (findOpenFile _ _) fun opened => ?_
  split
  · simp
  · refine bind (attempt _) fun outcome => ?_
    split <;> simp

@[simp] theorem evaluateDictFieldCell (fileSystem : FileBackend World)
    (dataFileName token : String) (dataRecord : StructuredRecord) :
    KeepsStore store (evaluateDictFieldCell fileSystem dataFileName token dataRecord :
      EnvironmentM Double World String) := by
  refine bind (callFiles _) fun field => ?_
  split <;> simp

end Files

variable [Doubles Double]

@[simp] theorem inputFlt : KeepsStore store (inputFlt : EnvironmentM Double World _) := by
  refine bind (readInputLine _) fun line => ?_
  split <;> simp

@[simp] theorem recordOfArray (name : String) :
    KeepsStore store (recordOfArray name : EnvironmentM Double World String) :=
  bind (findArray _ _) fun _ => pure _

section Files

variable (host : Host Double World) (fileVar id : String) (attrSlot : Value Double)
  (valueIndex : Int)

@[simp] theorem fetchValue : KeepsStore store (fetchValue host fileVar id attrSlot valueIndex) := by
  refine bind (requireOpenFile _ _ _) fun opened => bind (callFiles _) fun record => ?_
  split
  · simp
  · split
    · simp
    · dsimp only
      split <;> simp

@[simp] theorem fetchValueTry :
    KeepsStore store (fetchValueTry host fileVar id attrSlot valueIndex) := by
  refine bind (findOpenFile _ _) fun opened => ?_
  split
  · simp
  · refine bind (callFiles _) fun record => ?_
    split
    · simp
    · split <;> simp

end Files

/-! ## Code on the operand stack -/

section Stack

omit [Doubles Double]

/-- Code on the environment, in the memory. -/
@[simp] theorem onEnvironment {code : EnvironmentM Double World Result}
    (keeps : KeepsStore store code) : KeepsStore store (onEnvironment code) := by
  apply Program.Ensures.zoom keeps
  exact fun _ _ => rfl

@[simp] theorem push (value : Value Double) :
    KeepsStore store (push value : MemoryM Double World Unit) :=
  change fun _ before => before

@[simp] theorem pop : KeepsStore store (pop : MemoryM Double World (Value Double)) := by
  rw [KeepsStore, Program.keeps_iff]
  rintro ⟨stack, environment⟩ before
  cases stack <;> exact before

variable (instr : Instruction Double) (ip : Nat)

@[simp] theorem intOperandAtIp :
    KeepsStore store (intOperandAtIp instr ip : MemoryM Double World Int) := by
  unfold VM.intOperandAtIp
  split <;> simp

@[simp] theorem stringOperandAtIp :
    KeepsStore store (stringOperandAtIp instr ip : MemoryM Double World String) := by
  unfold VM.stringOperandAtIp
  split <;> simp

@[simp] theorem floatOperandAtIp :
    KeepsStore store (floatOperandAtIp instr ip : MemoryM Double World Double) := by
  unfold VM.floatOperandAtIp
  split <;> simp

@[simp] theorem nameOperandAtIp :
    KeepsStore store (nameOperandAtIp instr ip : MemoryM Double World String) :=
  bind (stringOperandAtIp instr ip) fun _ => pure _

@[simp] theorem popInt (op : OpCode) :
    KeepsStore store (popInt op : MemoryM Double World Int) := by
  refine bind pop fun value => ?_
  split <;> simp

@[simp] theorem popString (op : OpCode) :
    KeepsStore store (popString op : MemoryM Double World String) := by
  refine bind pop fun value => ?_
  split <;> simp

@[simp] theorem pushFrom {code : EnvironmentM Double World (Value Double)}
    (keeps : KeepsStore store code) : KeepsStore store (pushFrom code) :=
  bind (onEnvironment keeps) fun _ => push _

@[simp] theorem pushFlag (done : Bool) :
    KeepsStore store (pushFlag done : MemoryM Double World Unit) :=
  push _

@[simp] theorem pushFlagged (found : Option String) :
    KeepsStore store (pushFlagged found : MemoryM Double World Unit) := by
  cases found <;> exact bind (push _) fun _ => push _

@[simp] theorem binary (operation : Value Double → Value Double → Except Fault (Value Double)) :
    KeepsStore store (binary operation : MemoryM Double World Unit) := by
  refine bind pop fun b => bind pop fun a => ?_
  split <;> simp

@[simp] theorem dup : KeepsStore store (dup : MemoryM Double World Unit) := by
  refine look fun memory => ?_
  split <;> simp

@[simp] theorem dispatch (registry : LanguageRegistry Double World) (nsId fnId : Nat)
    (argCount : Int) : KeepsStore store (dispatch registry nsId fnId argCount) := by
  have runs (handler : Handler Double World) : KeepsStore store (runHandler handler) := by
    refine look fun memory => bind (onEnvironment (attempt _)) fun outcome => ?_
    cases outcome with
    | error => exact throw _
    | ok => exact change fun _ before => before
  unfold VM.dispatch
  split
  · simp
  · split
    · simp
    · split
      · simp
      · exact look fun memory => by simp [runs]

@[simp] theorem invokeBuiltinShim (registry : Option (LanguageRegistry Double World))
    (name : String) : KeepsStore store (invokeBuiltinShim registry name) := by
  unfold VM.invokeBuiltinShim
  split
  · simp
  · refine look fun memory => ?_
    dsimp only
    split <;> simp

@[simp] theorem callFunc (host : Host Double World) (call : CallFuncOperand) :
    KeepsStore store (callFunc host call) := by
  unfold VM.callFunc
  split
  · simp
  · exact look fun memory => by simp

end Stack

@[simp] theorem popCoercedInt : KeepsStore store (popCoercedInt : MemoryM Double World Int) :=
  bind pop fun _ => pure _

@[simp] theorem popText : KeepsStore store (popText : MemoryM Double World String) :=
  bind pop fun _ => pure _

/-! ## Instructions that store -/

section Stores

variable (stores : KeptByStores store)

omit [Doubles Double] in
/-- Upper case of upper case. -/
theorem canonicalVariableName_canonical (name : String) :
    canonicalVariableName (canonicalVariableName name) = canonicalVariableName name := by
  rw [canonicalVariableName, canonicalVariableName, String.map_map]
  congr 1
  funext c
  exact toUpper_toUpper c

omit [Doubles Double] in
/-- What follows a name has it in upper case. -/
theorem named (instr : Instruction Double) (ip : Nat)
    {rest : String → MemoryM Double World Result}
    (second : ∀ name, canonicalVariableName name = name → KeepsStore store (rest name)) :
    KeepsStore store (VM.nameOperandAtIp instr ip >>= rest) := by
  unfold VM.nameOperandAtIp
  rw [bind_assoc]
  refine bind (stringOperandAtIp instr ip) fun name => ?_
  rw [pure_bind]
  exact second _ (canonicalVariableName_canonical name)

omit [Doubles Double] in
/-- What follows the test of a name is done for names that are not of the session. -/
theorem allowed {name : String} {rest : EnvironmentM Double World Result}
    (second : isReadOnlySystemVariableName name = false → KeepsStore store rest) :
    KeepsStore store (requireWritable name >>= fun _ => rest) := by
  unfold requireWritable
  split
  · exact fun _ before => before
  · next writable =>
      rw [pure_bind]
      exact second (by simpa using writable)

omit [Doubles Double] in
/-- What follows the check of a name may store under it. -/
theorem allowedThen {name : String} {rest : MemoryM Double World Result}
    (second : isReadOnlySystemVariableName name = false → KeepsStore store rest) :
    KeepsStore store (VM.onEnvironment (requireWritable name) >>= fun _ => rest) := by
  unfold requireWritable
  split
  · exact fun _ before => before
  · next writable => exact second (by simpa using writable)

include stores

omit [Doubles Double] in
/-- A store under a name that may be stored under. -/
theorem storeVariable {name : String} (storable : StorableName name) (value : Value Double) :
    KeepsStore store (storeVariable name value : EnvironmentM Double World Unit) :=
  change fun _ before => ⟨stores.variable_ value storable before.1, before.2⟩

omit [Doubles Double] in
/-- A store of an array under such a name. -/
theorem setArray {name : String} (storable : StorableName name)
    (elements : List (Value Double)) :
    KeepsStore store (setArray name elements : EnvironmentM Double World Unit) :=
  change fun _ before => ⟨stores.array elements storable before.1, before.2⟩

omit [Doubles Double] in
theorem clearVars : KeepsStore store (clearVars : EnvironmentM Double World Unit) :=
  change fun _ before => ⟨stores.clear, before.2⟩

variable (instr : Instruction Double) (ip : Nat)

omit [Doubles Double] in
theorem storeVar : KeepsStore store (storeVar instr ip : MemoryM Double World Unit) :=
  named instr ip fun _ canonical => allowedThen fun writable =>
    bind pop fun _ => onEnvironment (storeVariable stores ⟨canonical, writable⟩ _)

theorem dimArray : KeepsStore store (dimArray instr ip : MemoryM Double World Unit) := by
  refine named instr ip fun name canonical => allowedThen fun writable =>
    bind popCoercedInt fun size => onEnvironment ?_
  unfold dimension
  simp [setArray stores ⟨canonical, writable⟩]

theorem storeArr : KeepsStore store (storeArr instr ip : MemoryM Double World Unit) := by
  refine named instr ip fun name canonical => allowedThen fun writable =>
    bind popCoercedInt fun idx => bind pop fun value => onEnvironment ?_
  unfold storeElement
  simp [setArray stores ⟨canonical, writable⟩]

theorem matInit : KeepsStore store (matInit instr ip : MemoryM Double World Unit) :=
  named instr ip fun _ canonical => allowedThen fun writable =>
    bind pop fun _ => onEnvironment (bind (findArray _ _) fun _ =>
      setArray stores ⟨canonical, writable⟩ _)

theorem copyArray {dst : String} (storable : StorableName dst) (src : String) :
    KeepsStore store (copyArray dst src : EnvironmentM Double World Unit) := by
  unfold VM.copyArray
  simp [setArray stores storable]

theorem matCopy : KeepsStore store (matCopy instr ip : MemoryM Double World Unit) := by
  refine bind (stringOperandAtIp instr ip) fun operand => ?_
  split
  · exact throw _
  · exact allowedThen fun writable => onEnvironment
      (copyArray stores ⟨canonicalVariableName_canonical _, writable⟩ _)

theorem matLoadFromRec :
    KeepsStore store (matLoadFromRec instr ip : MemoryM Double World Unit) := by
  refine named instr ip fun name canonical => allowedThen fun writable =>
    bind popText fun raw => onEnvironment ?_
  unfold loadArrayFromRecord
  simp [setArray stores ⟨canonical, writable⟩]

theorem advanceLoop {frame : ForFrame}
    (canonical : canonicalVariableName frame.varName = frame.varName) :
    KeepsStore store (advanceLoop frame : EnvironmentM Double World Bool) :=
  allowed fun writable => look fun _ =>
    bind (storeVariable stores ⟨canonical, writable⟩ _) fun _ => pure _

end Stores

/-! ## Instructions that do not store -/

section Coercing

variable (host : Host Double World) (instr : Instruction Double) (ip : Nat)

section Plain

omit [Doubles Double]

@[simp] theorem modulo : KeepsStore store (modulo : MemoryM Double World Unit) :=
  bind (popInt _) fun _ => bind (popInt _) fun _ => by simp

@[simp] theorem concat : KeepsStore store (concat : MemoryM Double World Unit) :=
  bind (popString _) fun _ => bind (popString _) fun _ => push _

theorem printInt :
    KeepsStore store (VM.popInt .printInt >>= fun value =>
      VM.onEnvironment (VM.emitText (toString value)) : MemoryM Double World Unit) :=
  bind (popInt _) fun _ => onEnvironment (emitText _)

@[simp] theorem printStr :
    KeepsStore store (VM.popString .printStr >>= fun text =>
      VM.onEnvironment (VM.emitText text) : MemoryM Double World Unit) :=
  bind (popString _) fun _ => onEnvironment (emitText _)

@[simp] theorem printChar : KeepsStore store (printChar : MemoryM Double World Unit) :=
  bind (popInt _) fun _ => by simp

@[simp] theorem loadVar : KeepsStore store (loadVar host instr ip) :=
  bind (nameOperandAtIp instr ip) fun _ => pushFrom (loadVariable host _)

@[simp] theorem closeFile : KeepsStore store (closeFile instr ip : MemoryM Double World Unit) :=
  bind (nameOperandAtIp instr ip) fun _ => onEnvironment (eraseOpenFile _)

@[simp] theorem readNext : KeepsStore store (readNext host instr ip) :=
  bind (nameOperandAtIp instr ip) fun _ => pushFrom (nextRecord _ _)

@[simp] theorem readNextTry : KeepsStore store (readNextTry host instr ip) :=
  bind (nameOperandAtIp instr ip) fun _ => bind (onEnvironment (nextRecordTry _ _)) fun _ =>
    pushFlagged _

end Plain

@[simp] theorem printVal : KeepsStore store (printVal : MemoryM Double World Unit) :=
  bind popText fun _ => onEnvironment (emitText _)

@[simp] theorem loadArr : KeepsStore store (loadArr instr ip : MemoryM Double World Unit) :=
  bind (nameOperandAtIp instr ip) fun _ => bind popCoercedInt fun _ => pushFrom (loadElement _ _)

@[simp] theorem matStoreToRec :
    KeepsStore store (matStoreToRec instr ip : MemoryM Double World Unit) :=
  bind (nameOperandAtIp instr ip) fun _ => bind (onEnvironment (recordOfArray _)) fun _ => push _

@[simp] theorem extractAttr : KeepsStore store (extractAttr : MemoryM Double World Unit) :=
  bind pop fun _ => bind pop fun _ => bind pop fun _ => push _

@[simp] theorem chain : KeepsStore store (chain : MemoryM Double World Unit) :=
  bind popText fun _ => by simp

/-- What follows a file variable and the text on top of the stack. -/
theorem fileAndText {rest : String → String → MemoryM Double World Result}
    (second : ∀ fileVar text, KeepsStore store (rest fileVar text)) :
    KeepsStore store (VM.nameOperandAtIp instr ip >>= fun fileVar =>
      VM.popText >>= rest fileVar) :=
  bind (nameOperandAtIp instr ip) fun _ => bind popText fun _ => second _ _

@[simp] theorem openFile : KeepsStore store (openFile host instr ip) :=
  fileAndText instr ip fun _ _ => onEnvironment (openNamed _ _ _)

@[simp] theorem openFileTry : KeepsStore store (openFileTry host instr ip) :=
  fileAndText instr ip fun _ _ => bind (onEnvironment (openNamedTry _ _ _)) fun _ => pushFlag _

@[simp] theorem readRecord (op : String) (read : ReadCall World) :
    KeepsStore store (readRecord host op read instr ip) := by
  refine fileAndText instr ip fun fileVar id =>
    bind (onEnvironment (fetchRecord _ _ _ op read)) fun found => ?_
  cases found with
  | none => exact pure _
  | some value => exact bind (push _) fun _ => pure _

@[simp] theorem readRecordTry (read : ReadCall World) :
    KeepsStore store (readRecordTry host read instr ip) :=
  fileAndText instr ip fun _ _ => bind (onEnvironment (fetchRecordTry _ _ _ read)) fun _ =>
    pushFlagged _

@[simp] theorem writeRecord (op : String) (write : WriteCall World) :
    KeepsStore store (writeRecord host op write instr ip) :=
  fileAndText instr ip fun _ _ => bind popText fun _ =>
    bind (onEnvironment (putRecord _ _ _ op _ write)) fun _ => pure _

@[simp] theorem writeRecordTry (write : WriteCall World) :
    KeepsStore store (writeRecordTry host write instr ip) :=
  fileAndText instr ip fun _ _ => bind popText fun _ =>
    bind (onEnvironment (putRecordTry _ _ _ _ write)) fun _ => pushFlag _

@[simp] theorem releaseRec : KeepsStore store (releaseRec host instr ip) :=
  fileAndText instr ip fun _ _ => onEnvironment (releaseNamed _ _ _)

@[simp] theorem resolveDictAttr : KeepsStore store (resolveDictAttr host instr ip) :=
  fileAndText instr ip fun _ _ => pushFrom (resolveSlot _ _ _)

@[simp] theorem readV : KeepsStore store (readV host instr ip) :=
  bind (nameOperandAtIp instr ip) fun _ => bind popCoercedInt fun _ => bind pop fun _ =>
    bind popText fun _ => pushFrom (fetchValue _ _ _ _ _)

@[simp] theorem readVTry : KeepsStore store (readVTry host instr ip) :=
  bind (nameOperandAtIp instr ip) fun _ => bind popCoercedInt fun _ => bind pop fun _ =>
    bind popText fun _ => bind (onEnvironment (fetchValueTry _ _ _ _ _)) fun _ => pushFlagged _

@[simp] theorem writeV : KeepsStore store (writeV host instr ip) :=
  bind (nameOperandAtIp instr ip) fun _ => bind popCoercedInt fun _ =>
    bind popCoercedInt fun _ => bind popText fun _ => bind popText fun _ =>
      onEnvironment (putValue _ _ _ _ _ _)

@[simp] theorem writeVTry : KeepsStore store (writeVTry host instr ip) :=
  bind (nameOperandAtIp instr ip) fun _ => bind popCoercedInt fun _ =>
    bind popCoercedInt fun _ => bind popText fun _ => bind popText fun _ =>
      bind (onEnvironment (putValueTry _ _ _ _ _ _)) fun _ => pushFlag _

end Coercing

/-! ## Code that transfers control -/

section Control

omit [Doubles Double]

@[simp] theorem onMemory {code : MemoryM Double World Result} (keeps : KeepsStore store code) :
    KeepsStore store (onMemory code) := by
  rw [KeepsStore, Program.keeps_iff]
  intro machine before
  have holds : StoreHolds store machine.memory := ⟨before.1, by nofun⟩
  have done := Program.Keeps.after keeps holds
  rw [VM.onMemory, Program.exec_zoom]
  exact ⟨done.1, before.2⟩

@[simp] theorem andNext {code : MemoryM Double World Unit} (keeps : KeepsStore store code) :
    KeepsStore store (andNext code) :=
  bind (onMemory keeps) fun _ => pure _

@[simp] theorem orConflict (op : String) {locked : MemoryM Double World Bool}
    (keeps : KeepsStore store locked) : KeepsStore store (orConflict op locked) := by
  refine bind (onMemory keeps) fun conflict => ?_
  split
  · refine bind (onMemory (onEnvironment (change fun _ before => before))) fun _ =>
      look fun machine => ?_
    split <;> simp
  · exact pure _

variable (instr : Instruction Double) (ip : Nat)

@[simp] theorem jump : KeepsStore store (jump instr ip : MachineM Double World Flow) :=
  bind (onMemory (intOperandAtIp instr ip)) fun _ => pure _

@[simp] theorem jumpIfZero :
    KeepsStore store (jumpIfZero instr ip : MachineM Double World Flow) :=
  bind (onMemory (intOperandAtIp instr ip)) fun _ => bind (onMemory (popInt _)) fun _ => pure _

@[simp] theorem call : KeepsStore store (call instr ip : MachineM Double World Flow) :=
  bind (onMemory (intOperandAtIp instr ip)) fun _ =>
    bind (change fun _ before => before) fun _ => pure _

@[simp] theorem returnFromCall :
    KeepsStore store (returnFromCall : MachineM Double World Flow) := by
  rw [KeepsStore, Program.keeps_iff]
  rintro ⟨ip, callStack, forStack, onErrorIp, memory⟩ before
  cases callStack <;> exact before

@[simp] theorem setOnErrorHandler :
    KeepsStore store (setOnErrorHandler instr ip : MachineM Double World Flow) :=
  bind (onMemory (intOperandAtIp instr ip)) fun _ =>
    bind (change fun _ before => before) fun _ => pure _

end Control

section Loops

variable (instr : Instruction Double) (ip : Nat)

omit [Doubles Double] in
theorem namedOnMemory {rest : String → MachineM Double World Result}
    (second : ∀ name, canonicalVariableName name = name → KeepsStore store (rest name)) :
    KeepsStore store (VM.onMemory (VM.nameOperandAtIp instr ip) >>= rest) := by
  unfold VM.nameOperandAtIp VM.stringOperandAtIp
  split
  · exact second _ (canonicalVariableName_canonical _)
  · exact fun _ before => before

/-- A loop starts with a name in upper case. -/
@[simp] theorem forSetup : KeepsStore store (forSetup instr ip : MachineM Double World Flow) := by
  refine namedOnMemory instr ip fun varName canonical =>
    bind (onMemory popCoercedInt) fun step => bind (onMemory popCoercedInt) fun limit => ?_
  split
  · exact throw _
  · refine bind (change fun machine before => ⟨before.1, ?_⟩) fun _ => pure _
    exact List.forall_mem_cons.mpr ⟨canonical, before.2⟩

theorem forNext (stores : KeptByStores store) :
    KeepsStore store (forNext instr ip : MachineM Double World Flow) := by
  refine bind (onMemory (nameOperandAtIp instr ip)) fun varName => ?_
  refine Program.Ensures.get fun start before => ?_
  split
  · rintro _ rfl
    exact before
  · next frame outer inside =>
      have known : ∀ other ∈ frame :: outer, canonicalVariableName other.varName = other.varName := by
        rw [← inside]
        exact before.2
      split
      · rintro _ rfl
        exact before
      · have advance := @advanceLoop _ World _ _ stores _ (known frame List.mem_cons_self)
        rintro _ rfl
        refine bind (onMemory (onEnvironment advance)) (fun done => ?_) _ before
        split
        · refine bind (change fun machine before => ⟨before.1, ?_⟩) fun _ => pure _
          exact fun other member => known other (List.mem_cons_of_mem _ member)
        · exact pure _

end Loops

/-- Every instruction keeps what the stores keep. -/
theorem execute (stores : KeptByStores store) (host : Host Double World)
    (instr : Instruction Double) (ip : Nat) : KeepsStore store (execute host instr ip) := by
  unfold VM.execute
  split
  case h_19 => exact andNext printInt
  all_goals
    simp [arithmetic, divide, comparison, coerceTopToInt, coerceTopToFlt, absInt, sgnInt, seqStr,
      storeVar stores, dimArray stores, storeArr stores, matInit stores, matCopy stores,
      matLoadFromRec stores, clearVars stores, forNext _ _ stores]

end KeepsStore

/-- A step keeps what the stores keep, whether it returns or throws. -/
theorem keepsStore_step [Doubles Double] (stores : KeptByStores store) (host : Host Double World)
    (program : List (Instruction Double)) : KeepsStore store (step host program) := by
  refine .look fun machine => ?_
  dsimp only
  split
  · exact .pure _
  · exact .bind (.execute stores host _ _) fun flow =>
      .bind (.change fun _ before => before) fun _ => .pure _

/-! ## The names of the session -/

/-- The name of a system variable of the session, in any case. -/
def IsSessionName (name : String) : Prop :=
  isReadOnlySystemVariableName (canonicalVariableName name) = true

/-- No variable and no array has the name of a system variable. -/
def Unforged (variableMap : AList fun _ : String => Value Double)
    (arrays : AList fun _ : String => List (Value Double)) : Prop :=
  ∀ name, IsSessionName name → name ∉ variableMap ∧ name ∉ arrays

theorem StorableName.not_isSessionName {name : String} (storable : StorableName name) :
    ¬ IsSessionName name := by
  rw [IsSessionName, storable.canonical, storable.writable]
  exact Bool.false_ne_true

theorem keptByStores_unforged : KeptByStores (@Unforged Double) where
  variable_ value storable unforged := by
    intro key isSession
    obtain ⟨notVariable, notArray⟩ := unforged key isSession
    refine ⟨fun member => ?_, notArray⟩
    rcases (AList.mem_insert _).mp member with rfl | member
    · exact storable.not_isSessionName isSession
    · exact notVariable member
  array elements storable unforged := by
    intro key isSession
    obtain ⟨notVariable, notArray⟩ := unforged key isSession
    refine ⟨notVariable, fun member => ?_⟩
    rcases (AList.mem_insert _).mp member with rfl | member
    · exact storable.not_isSessionName isSession
    · exact notArray member
  clear _ _ := ⟨AList.notMem_empty _, AList.notMem_empty _⟩

section Runs

variable [Doubles Double]

/-- The machine in another world. -/
def Machine.inWorld (machine : Machine Double World) (world : World) : Machine Double World :=
  { machine with memory := { machine.memory with
      environment := { machine.memory.environment with world } } }

/-- The machine with a value pushed. -/
def Machine.pushed (machine : Machine Double World) (value : Value Double) :
    Machine Double World :=
  { machine with memory := { machine.memory with stack := value :: machine.memory.stack } }

/-- The machine after a step in these surroundings, also when the step throws. -/
def stepIn (host : Host Double World) (program : List (Instruction Double))
    (machine : Machine Double World) (world : World) : Option (Machine Double World) :=
  some (Program.exec (step host program) (machine.inWorld world)).2

/-- A machine that no instruction has been executed on; its stacks and its input are any. -/
structure IsFresh (machine : Machine Double World) : Prop where
  variables_ : machine.memory.environment.variableMap = ∅
  arrays : machine.memory.environment.arrays = ∅
  loops : machine.forStack = []

/-- What is read under a name of the session: its value, or an error. -/
def sessionValue (host : Host Double World) (world : World) (name : String) :
    Except Fault (Value Double) :=
  match host.systemVarReader.bind fun reader => reader world name with
  | some value => .ok value
  | none => .error (.runtimeError ("Undefined variable: " ++ name))

/-- No name of the session is a variable or an array of the program, and what is read under such a
name is the value of the session, or an error. -/
structure ReadsSession (host : Host Double World) (machine : Machine Double World) : Prop where
  unforged : Unforged machine.memory.environment.variableMap machine.memory.environment.arrays
  loads : ∀ {instr : Instruction Double} {name : String} (ip : Nat) (world : World),
    instr.op = .loadVar → instr.operand = .string name → IsSessionName name →
      Program.exec (execute host instr ip) (machine.inWorld world) =
        match sessionValue host world (canonicalVariableName name) with
        | .ok value => (.ok .next, (machine.inWorld world).pushed value)
        | .error fault => (.error fault, machine.inWorld world)
  arrays : ∀ {name : String} (missing : Fault), IsSessionName name →
    Program.exec (findArray (canonicalVariableName name) missing) machine.memory.environment =
      (.error missing, machine.memory.environment)
  loops : ∀ {frame : ForFrame}, IsSessionName frame.varName → frame ∈ machine.forStack →
    Program.exec (advanceLoop frame) machine.memory.environment =
      (.error (readOnlyError frame.varName), machine.memory.environment)

theorem isSessionName_canonical {name : String} (isSession : IsSessionName name) :
    IsSessionName (canonicalVariableName name) := by
  rw [IsSessionName, KeepsStore.canonicalVariableName_canonical]
  exact isSession

theorem readsSession_of_storeHolds {host : Host Double World} {machine : Machine Double World}
    (holds : StoreHolds Unforged machine) : ReadsSession host machine where
  unforged := holds.1
  loads := by
    intro instr name ip world op operand isSession
    have absent : machine.memory.environment.variableMap.lookup (canonicalVariableName name) =
        none := AList.lookup_eq_none.mpr (holds.1 _ (isSessionName_canonical isSession)).1
    have found : systemVariable host world (canonicalVariableName name) =
        host.systemVarReader.bind fun reader => reader world (canonicalVariableName name) :=
      if_pos isSession
    have loaded : Program.exec (loadVariable host (canonicalVariableName name))
        (machine.inWorld world).memory.environment =
          (sessionValue host world (canonicalVariableName name),
            (machine.inWorld world).memory.environment) := by
      unfold loadVariable sessionValue
      rw [Program.exec_bind, Program.exec_get]
      dsimp only [Machine.inWorld]
      rw [found]
      cases host.systemVarReader.bind fun reader => reader world (canonicalVariableName name) with
      | some value => rfl
      | none =>
          dsimp only
          rw [absent]
          rfl
    obtain ⟨_, _, _⟩ := instr
    subst op operand
    change Program.exec (onMemory (pushFrom (loadVariable host (canonicalVariableName name))) >>=
      fun _ => pure Flow.next) _ = _
    rw [Program.exec_bind, onMemory, Program.exec_zoom, pushFrom, Program.exec_bind, onEnvironment,
      Program.exec_zoom, loaded]
    cases sessionValue host world (canonicalVariableName name) <;> rfl
  arrays := by
    intro name missing isSession
    have absent : machine.memory.environment.arrays.lookup (canonicalVariableName name) = none :=
      AList.lookup_eq_none.mpr (holds.1 _ (isSessionName_canonical isSession)).2
    unfold findArray
    rw [Program.exec_bind, Program.exec_get]
    dsimp only
    rw [absent]
    rfl
  loops := by
    intro frame isSession member
    have canonical := holds.2 frame member
    rw [IsSessionName, canonical] at isSession
    unfold advanceLoop requireWritable
    rw [if_pos isSession]
    rfl

/-- No run forges a system variable. -/
theorem always_readsSession (host : Host Double World) (program : List (Instruction Double))
    {machine : Machine Double World} (fresh : IsFresh machine) (worlds : List World) :
    Always (stepIn host program) (ReadsSession host) machine worlds := by
  have start : StoreHolds Unforged machine := by
    refine ⟨?_, ?_⟩
    · change Unforged machine.memory.environment.variableMap machine.memory.environment.arrays
      rw [fresh.variables_, fresh.arrays]
      exact keptByStores_unforged.clear
    · change ∀ frame ∈ machine.forStack, _
      rw [fresh.loops]
      nofun
  have anyStep : EachStep (stepIn host program) (fun _ _ => True) machine worlds :=
    eachStep_of_forall (fun _ _ => trivial) machine
  have kept : ∀ {before : Machine Double World} {world after}, StoreHolds Unforged before → True →
      stepIn host program before world = some after → StoreHolds Unforged after := by
    rintro before world _ holds - ⟨⟩
    exact Program.Keeps.after (keepsStore_step keptByStores_unforged host program) holds
  exact (always_of_invariant kept start anyStep).mono fun _ => readsSession_of_storeHolds

end Runs

end Gemini.VM
